import EntityModel.Csdl.Type
import EntityModel.Text.Upper

/-!
# Reading operations and containers

An operation import names the operation that it offers. In the older dialect it does not: there the import
declares the operation itself, with its parameters and its result. Such an operation belongs to the schema
of the container. It is a function if it is invoked with the method GET or has no side effects.
-/

namespace EntityModel.Csdl

open Xml (Element)
open Edm

/-! ## Operations -/

def readParameter (ctx : Context) (e : Element) : Reading Parameter := do
  let type := ctx.typeReference e
  let nullable ← Reading.flag true e "Nullable"
  return { name := e.attributeD "Name", type := type.element, collection := type.collection, nullable }

/-- Reads the parameters of an operation. -/
def readParameters (ctx : Context) (e : Element) : Reading (List Parameter) :=
  Reading.children ["Parameter"] (readParameter ctx) e

/-- Reads an operation: its result first, of several ones the last. -/
def readOperation (ctx : Context) (space : String) (kind : OperationKind) (e : Element) :
    Reading Operation := do
  let results ← Reading.children ["ReturnType"] (fun r => pure (ctx.aliases.reference r "Type")) e
  let bound ← Reading.flag false e "IsBound"
  let composable ← Reading.flag false e "IsComposable"
  let parameters ← readParameters ctx e
  return { name := ⟨space, e.attributeD "Name"⟩, kind, bound, composable, parameters,
           returns := results.getLast? }

/-! ## Imports -/

/-- The namespace of the attribute that names the method of an import. -/
def methodSpace : String := "http://schemas.microsoft.com/ado/2007/08/dataservices/metadata"

/-- The method with which an import is invoked, in capitals; empty if none is named. -/
def importMethod (e : Element) : String :=
  Text.upper (((nonEmpty? ((e.attributeIn? methodSpace "HttpMethod").getD "")).orElse
    fun _ => e.attribute? "HttpMethod").getD "")

/-- The attribute in which an import names its operation. -/
def importAttribute : OperationKind → String
  | .function => "Function"
  | .action => "Action"

/-- Reads the operation that an import declares itself. -/
def readImportedOperation (ctx : Context) (space : String) (e : Element) : Reading Operation := do
  let sideEffecting ← Reading.flag true e "IsSideEffecting"
  let bound ← Reading.flag false e "IsBindable"
  let composable ← Reading.flag false e "IsComposable"
  let parameters ← readParameters ctx e
  let kind := if importMethod e = "GET" || !sideEffecting then .function else .action
  return { name := ⟨space, e.attributeD "Name"⟩, kind, bound, composable, parameters,
           returns := nonEmpty? (ctx.aliases.reference e "ReturnType") }

/-- Reads an import, with the operation if it declares one. -/
def readImport (ctx : Context) (space : String) (kind : OperationKind) (e : Element) :
    Reading (OperationImport × Option Operation) :=
  let name := e.attributeD "Name"
  let entitySet := e.attribute? "EntitySet"
  let target := e.attributeD (importAttribute kind)
  if target ≠ "" then
    return ({ name, operation := ctx.aliases.qualify target, kind, entitySet }, none)
  else do
    let o ← readImportedOperation ctx space e
    return ({ name, operation := o.name.dotted, kind, entitySet }, some o)

/-! ## Containers -/

/-- What a child element adds to a container. -/
inductive ContainerPart where
  | entitySet (member : ContainerMember)
  | singleton (member : ContainerMember)
  /-- An import, with the operation if it declares one. -/
  | imported (value : OperationImport) (declared : Option Operation)

def ContainerPart.entitySet? : ContainerPart → Option ContainerMember
  | entitySet m => some m
  | _ => none

def ContainerPart.singleton? : ContainerPart → Option ContainerMember
  | singleton m => some m
  | _ => none

def ContainerPart.imported? : ContainerPart → Option OperationImport
  | imported i _ => some i
  | _ => none

def ContainerPart.declared? : ContainerPart → Option Operation
  | imported _ o => o
  | _ => none

/-- Reads an entity set or a singleton, whose type is in a given attribute. -/
def readContainerMember (ctx : Context) (container attr : String) (e : Element) :
    Reading ContainerMember := do
  let m : ContainerMember :=
    { name := e.attributeD "Name", type := ctx.aliases.reference e attr, container }
  noteAnnotations ctx.aliases m.targetPath e
  return m

/-- Reads what a child element adds to a container; nothing if its name is not known. -/
def readContainerPart (ctx : Context) (name : QualifiedName) (e : Element) :
    Reading (Option ContainerPart) := do
  Reading.look e
  match e.localName with
  | "EntitySet" =>
      (fun m => some (.entitySet m)) <$> readContainerMember ctx name.dotted "EntityType" e
  | "Singleton" =>
      (fun m => some (.singleton m)) <$> readContainerMember ctx name.dotted "Type" e
  | "FunctionImport" =>
      (fun i => some (.imported i.1 i.2)) <$> readImport ctx name.space .function e
  | "ActionImport" =>
      (fun i => some (.imported i.1 i.2)) <$> readImport ctx name.space .action e
  | _ => pure none

/-- A container made of its parts. -/
def containerOfParts (name : QualifiedName) (parts : List ContainerPart) : Container :=
  { name, sets := parts.filterMap (·.entitySet?), singletons := parts.filterMap (·.singleton?),
    imports := parts.filterMap (·.imported?) }

/-- Reads a container, with the operations that its imports declare. -/
def readContainer (ctx : Context) (space : String) (e : Element) :
    Reading (Container × List Operation) := do
  let name : QualifiedName := ⟨space, e.attributeD "Name"⟩
  let parts ← e.children.mapM (readContainerPart ctx name)
  noteAnnotations ctx.aliases name.dotted e
  let parts := parts.filterMap id
  return (containerOfParts name parts, parts.filterMap (·.declared?))

end EntityModel.Csdl
