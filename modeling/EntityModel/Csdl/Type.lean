import EntityModel.Csdl.Association
import EntityModel.Csdl.Value

/-!
# Reading types

Structured types, enumerations and type definitions. The parts of a type are read in a fixed order: its
flags, its key, its properties, its navigation properties and then its own annotations. The first fault in that order
is the one that is reported.
-/

namespace EntityModel.Csdl

open Xml (Element)
open Edm

/-- What is known about a document before its schemas are read. -/
structure Context where
  aliases : Aliases
  associations : Associations

/-! ## Properties -/

/-- The type that an attribute refers to. -/
def Context.typeReference (ctx : Context) (e : Element) : TypeReference :=
  .ofText (ctx.aliases.reference e "Type")

/-- Reads a structural property of the type with a target path. -/
def readProperty (ctx : Context) (owner : String) (e : Element) : Reading Property := do
  let type := ctx.typeReference e
  let nullable ← Reading.flag true e "Nullable"
  let name := e.attributeD "Name"
  noteAnnotations ctx.aliases (owner ++ "/" ++ name) e
  return { name, type := type.element, collection := type.collection, nullable,
           fallback := e.attribute? "DefaultValue" }

/-- Reads where a navigation property leads: by its own type, or else by an association. A missing
association is noted. -/
def readTarget (ctx : Context) (p : NavigationProperty) (e : Element) : Reading NavigationProperty :=
  if e.attributeD "Type" ≠ "" then do
    let type := ctx.typeReference e
    let nullable ← Reading.flag true e "Nullable"
    return { p with type := type.element, collection := type.collection, nullable }
  else
    let relationship := ctx.aliases.reference e "Relationship"
    let role := e.attributeD "ToRole"
    match ctx.associations.end? relationship role with
    | some x => return { p with type := x.type, collection := x.isMany, nullable := x.isOptional }
    | none => do
        Reading.note (.deferred (.unknownAssociation p.name relationship role))
        return p

/-- Reads a navigation property of the type with a target path. -/
def readNavigation (ctx : Context) (owner : String) (e : Element) : Reading NavigationProperty := do
  let containsTarget ← Reading.flag false e "ContainsTarget"
  let name := e.attributeD "Name"
  let p ← readTarget ctx { name, type := "", containsTarget, partner := e.attribute? "Partner" } e
  noteAnnotations ctx.aliases (owner ++ "/" ++ name) e
  return p

/-! ## Types -/

/-- Reads the paths of the key properties. -/
def readKey (e : Element) : Reading (List String) :=
  List.flatten <$> Reading.children ["Key"]
    (Reading.children ["PropertyRef"] fun r => pure (r.attributeD "Name")) e

/-- Reads a structured type. -/
def readStructured (ctx : Context) (space : String) (kind : StructuredKind) (e : Element) :
    Reading StructuredType := do
  let name : QualifiedName := ⟨space, e.attributeD "Name"⟩
  let isAbstract ← Reading.flag false e "Abstract"
  let isOpen ← Reading.flag false e "OpenType"
  let hasStream ← Reading.flag false e "HasStream"
  let key ← readKey e
  let properties ← Reading.children ["Property"] (readProperty ctx name.dotted) e
  let navigation ← Reading.children ["NavigationProperty"] (readNavigation ctx name.dotted) e
  noteAnnotations ctx.aliases name.dotted e
  return { name, kind, base := nonEmpty? (ctx.aliases.reference e "BaseType"), isAbstract, isOpen,
           hasStream, key, properties, navigation }

/-- Reads a member of an enumeration. -/
def readMember (e : Element) : Reading (String × Option Int) := do
  let value ← Reading.literal (Literal.int? (e.attribute? "Value"))
  return (e.attributeD "Name", value)

def readEnum (ctx : Context) (space : String) (e : Element) : Reading EnumType := do
  let name : QualifiedName := ⟨space, e.attributeD "Name"⟩
  let isFlags ← Reading.flag false e "IsFlags"
  let members ← Reading.children ["Member"] readMember e
  noteAnnotations ctx.aliases name.dotted e
  let underlying := (nonEmpty? (e.attributeD "UnderlyingType")).getD "Edm.Int32"
  return { name, underlying, isFlags, members }

def readDefinition (ctx : Context) (space : String) (e : Element) : Reading TypeDefinition := do
  let name : QualifiedName := ⟨space, e.attributeD "Name"⟩
  noteAnnotations ctx.aliases name.dotted e
  let underlying := (nonEmpty? (ctx.aliases.reference e "UnderlyingType")).getD "Edm.String"
  return { name, underlying }

/-- Reads the declaration of a term. -/
def readTerm (ctx : Context) (space : String) (e : Element) : Term :=
  { name := ⟨space, e.attributeD "Name"⟩, type := ctx.aliases.reference e "Type",
    appliesTo := Text.words (e.attributeD "AppliesTo") }

end EntityModel.Csdl
