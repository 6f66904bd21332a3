import EntityModel.Csdl.Container

/-!
# Reading schemas

Each child element of a schema adds one part to it, or nothing if its name is not known. The parts are
sorted by what they are and keep their order.
-/

namespace EntityModel.Csdl

open Xml (Element)
open Edm

/-- What a child element adds to a schema. -/
inductive SchemaPart where
  | structured (type : StructuredType)
  | enum (type : EnumType)
  | definition (type : TypeDefinition)
  | operation (value : Operation)
  | term (value : Term)
  /-- A container, with the operations that its imports declare. -/
  | container (value : Container) (declared : List Operation)

namespace SchemaPart

/-- The structured type of a part, if it is of a kind. -/
def structured? (kind : StructuredKind) : SchemaPart → Option StructuredType
  | structured t => if t.kind = kind then some t else none
  | _ => none

def enum? : SchemaPart → Option EnumType
  | enum t => some t
  | _ => none

def definition? : SchemaPart → Option TypeDefinition
  | definition t => some t
  | _ => none

def operations : SchemaPart → List Operation
  | operation o => [o]
  | container _ os => os
  | _ => []

def term? : SchemaPart → Option Term
  | term t => some t
  | _ => none

def container? : SchemaPart → Option Container
  | container c _ => some c
  | _ => none

end SchemaPart

/-- Reads what a child element adds to a schema; nothing if its name is not known. A block of annotations
adds nothing but notes. -/
def readSchemaPart (ctx : Context) (space : String) (e : Element) : Reading (Option SchemaPart) :=
  match e.localName with
  | "EntityType" => (fun t => some (.structured t)) <$> readStructured ctx space .entity e
  | "ComplexType" => (fun t => some (.structured t)) <$> readStructured ctx space .complex e
  | "EnumType" => (fun t => some (.enum t)) <$> readEnum ctx space e
  | "TypeDefinition" => (fun t => some (.definition t)) <$> readDefinition ctx space e
  | "Function" => (fun o => some (.operation o)) <$> readOperation ctx space .function e
  | "Action" => (fun o => some (.operation o)) <$> readOperation ctx space .action e
  | "Term" => pure (some (.term (readTerm ctx space e)))
  | "EntityContainer" => (fun c => some (.container c.1 c.2)) <$> readContainer ctx space e
  | "Annotations" => do
      noteAnnotations ctx.aliases (ctx.aliases.qualifyTarget (e.attributeD "Target")) e
      return none
  | _ => pure none

/-- A schema made of its parts. -/
def schemaOfParts (space : String) (short : Option String) (parts : List SchemaPart) : Schema :=
  { space, shortName := short,
    entities := parts.filterMap (·.structured? .entity),
    complexes := parts.filterMap (·.structured? .complex),
    enums := parts.filterMap (·.enum?),
    definitions := parts.filterMap (·.definition?),
    operations := parts.flatMap (·.operations),
    terms := parts.filterMap (·.term?),
    containers := parts.filterMap (·.container?) }

/-- The elements that are looked at before any part of a schema is read: its child elements, and with an association
the ends of it. -/
def surveyed (schema : Element) : List Element :=
  schema.children.flatMap fun c => c :: (if c.localName = "Association" then c.children else [])

def readSchema (ctx : Context) (e : Element) : Reading Schema :=
  let space := e.attributeD "Namespace"
  if space = "" then Reading.fault .schemaWithoutNamespace
  else do
    Reading.inspect (surveyed e)
    let parts ← e.children.mapM (readSchemaPart ctx space)
    return schemaOfParts space (e.attribute? "Alias") (parts.filterMap id)

end EntityModel.Csdl
