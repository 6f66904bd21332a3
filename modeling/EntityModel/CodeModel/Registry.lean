import EntityModel.CodeModel.Store
import EntityModel.Table

/-!
# The registry of a model

A model is made of registered types. The registry keeps them in the order of registration, groups them by
namespace, and finds them by name. A name is meant to be registered once; a second type under the same name
is kept, but the first one is what is found.
-/

namespace EntityModel.CodeModel

/-- A namespace with the types registered in it. -/
structure Namespace where
  name : String
  /-- Its types, in the order of registration. -/
  types : List TypeId
  deriving DecidableEq, Repr

/-- The registered types. -/
structure Registry where
  /-- All of them, in the order of registration. -/
  types : List TypeId := []
  /-- The namespaces, in the order of their first types. -/
  namespaces : List Namespace := []
  /-- The first type registered under each name. -/
  index : Table QualifiedName TypeId := []
  deriving DecidableEq, Repr, Inhabited

namespace Registry

/-- Adds a type to its namespace, which is opened if it is not there. -/
def addToNamespace (space : String) (t : TypeId) : List Namespace → List Namespace
  | [] => [⟨space, [t]⟩]
  | n :: ns =>
      if n.name = space then { n with types := n.types ++ [t] } :: ns
      else n :: addToNamespace space t ns

/-- Registers a type under its name. -/
def add (r : Registry) (name : QualifiedName) (t : TypeId) : Registry :=
  { types := r.types ++ [t],
    namespaces := addToNamespace name.space t r.namespaces,
    index := if (r.index.lookup name).isSome then r.index else r.index ++ [(name, t)] }

def namespace? (r : Registry) (name : String) : Option Namespace :=
  r.namespaces.find? fun n => n.name = name

/-- The type found under a name if it is of a variant. -/
def resolve? (r : Registry) (s : Store) (name : QualifiedName) (v : Variant) : Option TypeId :=
  (r.index.lookup name).filter fun t => s.isOf v t

/-- The type found under a full name if it is of a variant. -/
def resolveFull? (r : Registry) (s : Store) (full : String) (v : Variant) : Option TypeId :=
  r.resolve? s (.ofText full) v

end Registry

end EntityModel.CodeModel
