import EntityModel.Compilation.Members

/-!
# Operations and containers

A bound operation becomes a method of the class of its first parameter, without that parameter. An operation
that is not bound becomes a method only where a container imports it, under the name of the import. If the
operation is bound, its import adds nothing. A container's class has a property for each entity set and each
singleton.
-/

namespace EntityModel.Compilation

open CodeModel
open Edm (Graph Operation Container ContainerMember OperationImport)

/-! ## Methods -/

/-- The parameters of the method of an operation: without the one that it is invoked on. -/
def methodParameters (o : Operation) : List Edm.Parameter :=
  if o.bound then o.parameters.drop 1 else o.parameters

/-- The method with which an operation is requested. -/
def methodVerb (o : Operation) : String :=
  match o.kind with
  | .function => "GET"
  | .action => "POST"

/-- The type of a result, and whether it is a collection. -/
def resultType (g : Graph) (o : Operation) : Build (Option TypeId × Bool) := do
  match given o.returns with
  | none => return (none, false)
  | some reference =>
      let r := TypeReference.ofText reference
      return (some (← resolve g r.element o.name.dotted), r.collection)

def methodParameter (g : Graph) (o : Operation) (p : Edm.Parameter) : Build Parameter := do
  let type ← resolve g p.type (o.name.dotted ++ "(" ++ p.name ++ ")")
  return { name := p.name, type, collection := p.collection, nullable := p.nullable }

/-- Makes the method of an operation under a name; an empty name leaves that of the operation. -/
def makeMethod (g : Graph) (o : Operation) (name : String) : Build TypeId := do
  let (returns, collection) ← resultType g o
  let parameters ← (methodParameters o).mapM (methodParameter g o)
  Build.create
    { name := ⟨o.name.space, if name = "" then o.name.name else name⟩,
      shape := .method
        { parameters, returns, collection, bound := o.bound, composable := o.composable,
          verbs := methodVerb o } }

/-- Makes the method of an operation the last one of a class. -/
def addMethod (g : Graph) (c : TypeId) (o : Operation) (name : String) : Build Unit := do
  let m ← makeMethod g o name
  Build.edit fun s => s.attachMethod c m

/-- Adds a bound operation to the class that it is invoked on. -/
def addBound (g : Graph) (o : Operation) : Build Unit := do
  match o.binding? with
  | none => return ()
  | some p =>
      let c ← resolveClass g p.type o.name.dotted
      addMethod g c o ""

/-! ## Containers -/

/-- Adds a property for an entity set or a singleton. -/
def addMember (g : Graph) (c : TypeId) (collection : Bool) (m : ContainerMember) : Build Unit := do
  let type ← resolveClass g m.type m.targetPath
  Build.addProperty c { name := m.name, type, collection, navigation := true }

def addImport (g : Graph) (container : Container) (c : TypeId) (i : OperationImport) :
    Build Unit := do
  match g.operation? i.operation with
  | none => Build.fail (.unresolvedType i.operation (container.name.dotted ++ "/" ++ i.name))
  | some o => if o.bound then return () else addMethod g c o i.name

/-- Fills the class of a container. -/
def fillContainer (g : Graph) (container : Container) (c : TypeId) : Build Unit := do
  container.sets.forM (addMember g c true)
  container.singletons.forM (addMember g c false)
  container.imports.forM (addImport g container c)

/-! ## Graphs -/

/-- Makes the model of a graph; yields the containers with their classes. -/
def build (g : Graph) : Build (List (Container × TypeId)) := do
  let declared ← declareTypes g
  declared.structured.forM fun t => fillStructured g t.1 t.2
  g.operations.forM (addBound g)
  declared.containers.forM fun c => fillContainer g c.1 c.2
  return declared.containers

end EntityModel.Compilation
