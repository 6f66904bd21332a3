import EntityModel.Compilation.Operations
import EntityModel.Counters.Basic
import EntityModel.Csdl.Document
import EntityModel.Restriction.Ledger
import EntityModel.Settings.Basic

/-!
# Compiling a service

The metadata document is read into a graph, the graph is built into a model, the terms of the restrictions are
loaded, and the entity sets are resolved one after another. At last a strict model must have a single
root.

An attempt is refused before it begins if there is no document to compile. Only an attempt that has begun
is counted, and one that breaks off for a cause that nobody foresaw is not.
-/

namespace EntityModel.Compilation

open CodeModel
open Edm (Graph Container ContainerMember)
open Restriction (Ledger Terms)

/-- A compiled service. -/
structure Compiled where
  /-- The graph that the model was made from. -/
  graph : Graph
  /-- The store that holds the types of the model. -/
  store : Store
  model : Model

/-! ## Restrictions -/

/-- The entity sets of all containers, each with the class of its container. -/
def containerSets (containers : List (Container × TypeId)) : List (TypeId × ContainerMember) :=
  containers.flatMap fun c => c.1.sets.map (c.2, ·)

/-- Resolves one entity set: its property is the first one of the class with its name. -/
def restrictSet (g : Graph) (terms : Terms) (state : Ledger × Store) (x : TypeId × ContainerMember) :
    Except Failure (Ledger × Store) :=
  match state.2.ownProperty? x.1 x.2.name with
  | none => .ok state
  | some p =>
      match Restriction.resolveSet g terms p.1 x.2 state.1 state.2 with
      | (l, .ok s) => .ok (l, s)
      | (_, .error f) => .error f

/-- Resolves all entity sets in order. -/
def restrict (g : Graph) (terms : Terms) (containers : List (Container × TypeId)) (s : Store) :
    Except Failure Store := do
  let (_, s) ← (containerSets containers).foldlM (restrictSet g terms) ([], s)
  return s

/-! ## Graphs -/

/-- The service type that the version of a document tells. -/
def serviceType (settings : Settings) (version : String) : ServiceType :=
  match version.toList.head? with
  | some '4' => .v4
  | some '1' | some '2' | some '3' => .v3
  | _ => settings.defaultServiceType

/-- Compiles a graph into types at the end of a store. -/
def compileGraph (settings : Settings) (vocabulary : Option SourceFile)
    (metadata : Table String String) (s : Store) (g : Graph) : Except (Mishap Failure) Compiled := do
  let (containers, draft) ← ((build g).run { store := s }).mapError .foreseen
  let terms ← (Restriction.loadTerms vocabulary).mapError (Mishap.map .configuration)
  let store ← (restrict g terms containers draft.store).mapError .foreseen
  let model : Model :=
    { metadata, serviceType := serviceType settings g.version, strict := settings.strictContainer,
      registry := draft.registry }
  let _ ← (model.root? store).mapError .foreseen
  return { graph := g, store, model }

/-- Compiles a metadata document. -/
def compileDocument (settings : Settings) (vocabulary : Option SourceFile)
    (metadata : Table String String) (s : Store) (document : String) : Except (Mishap Failure) Compiled := do
  let g ← (Csdl.readText document).mapError (Mishap.map .metadata)
  compileGraph settings vocabulary metadata s g

/-! ## Attempts -/

/-- The document that is to be compiled. -/
def documentOf (settings : Settings) (metadata : Option (Table String String)) :
    Except Failure (Table String String × String) :=
  match metadata with
  | none => .error (.precondition (.argument "service_metadata"))
  | some m =>
      match m.lookup settings.metadataKey with
      | none => .error (.precondition (.document settings.metadataKey))
      | some document => .ok (m, document)

/-- How a compilation ends. -/
inductive Attempt where
  /-- There was nothing to compile. -/
  | refused (failure : Failure)
  /-- The compilation broke off. -/
  | broken (cause : Unforeseen)
  /-- The compilation failed. -/
  | failed (failure : Failure)
  /-- There is a model. -/
  | compiled (result : Compiled)

/-- Compiles a service into types at the end of a store. -/
def compile (settings : Settings) (vocabulary : Option SourceFile)
    (metadata : Option (Table String String)) (s : Store) : Attempt :=
  match documentOf settings metadata with
  | .error f => .refused f
  | .ok (m, document) =>
      match compileDocument settings vocabulary m s document with
      | .error (.foreseen f) => .failed f
      | .error (.unforeseen cause) => .broken cause
      | .ok result => .compiled result

/-- Counts an attempt, if it has begun. -/
def Attempt.count : Attempt → Counters → Counters
  | refused _, c => c
  | broken _, c => c
  | failed _, c => c.countCompilation false
  | compiled _, c => c.countCompilation true

end EntityModel.Compilation
