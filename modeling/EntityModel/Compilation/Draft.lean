import EntityModel.CodeModel.Model
import EntityModel.Edm.Graph

/-!
# Drafts of a model

While a graph is compiled, its code model is a draft: a store and a registry that both grow. A reference to a
type is resolved against the draft. A type definition stands for its underlying type. A primitive type is
registered when it is first referred to; any other type has to be registered before.
-/

namespace EntityModel.Compilation

open CodeModel
open Edm (Graph)

/-- A model that is being made. -/
structure Draft where
  /-- The types and properties made so far. -/
  store : Store
  /-- The types registered so far. -/
  registry : Registry := {}
  deriving DecidableEq, Repr

/-- A step that changes the draft or fails. -/
abbrev Build := StateT Draft (Except Failure)

namespace Build

def fail {α : Type} (f : Failure) : Build α := fun _ => .error f

/-- Changes the store. -/
def edit (f : Store → Store) : Build Unit := modify fun d => { d with store := f d.store }

/-- Makes a type without registering it. -/
def create (e : TypeEntry) : Build TypeId := fun d =>
  let (store, t) := d.store.addType e
  .ok (t, { d with store })

/-- Makes a type and registers it. -/
def register (e : TypeEntry) : Build TypeId := fun d =>
  let (store, t) := d.store.addType e
  .ok (t, { store, registry := d.registry.add e.name t })

/-- Makes a property the last one of a class. -/
def addProperty (t : TypeId) (p : Property) : Build Unit := modify fun d =>
  let (store, id) := d.store.addProperty p
  { d with store := store.attachProperty t id }

end Build

/-! ## References -/

/-- The namespace of the primitive types. -/
def primitiveSpace : String := "Edm"

/-- The name of the type that a name stands for: its underlying type if it names a type definition. -/
def effectiveName (g : Graph) (name : String) : String :=
  match g.definition? name with
  | some d => d.underlying
  | none => name

/-- The name of the type that a reference leads to. -/
def referredName (g : Graph) (reference : String) : String :=
  effectiveName g (TypeReference.ofText reference).element

/-- The type that a reference leads to. -/
def resolve (g : Graph) (reference place : String) : Build TypeId := do
  let full := referredName g reference
  let name := QualifiedName.ofText full
  let d ← get
  if name.space = primitiveSpace then
    match d.registry.resolve? d.store name .primitive with
    | some t => return t
    | none => Build.register ⟨name, .primitive⟩
  else
    match d.registry.resolve? d.store name .type with
    | some t => return t
    | none => Build.fail (.unresolvedType full place)

/-- The class that a reference leads to. -/
def resolveClass (g : Graph) (reference place : String) : Build TypeId := do
  let t ← resolve g reference place
  if (← get).store.isClass t then return t
  else Build.fail (.unresolvedType reference place)

/-- A name or reference that is given, unless it is empty. -/
def given (reference : Option String) : Option String := reference.filter (· ≠ "")

end EntityModel.Compilation
