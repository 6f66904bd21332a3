import EntityModel.Restriction.Reading
import EntityModel.Vocabulary.Loading

/-!
# The ledger of capabilities

Capabilities are found one entity set after another and written into a ledger, each under the property that
it is about. Entries are only ever added at the end. What has *accumulated* for a property are its entries in
that order, whichever entity set they came from.

An entity set is resolved term by term. If a term fails, the entries of the terms before it stay, and no
projection changes. If none fails, the projections of all properties in the ledger are made anew.
-/

namespace EntityModel.Restriction

open CodeModel
open Edm (Graph ContainerMember)

/-- The capabilities found so far, each with the property that it is about. -/
abbrev Ledger := List (PropertyId × Capability)

namespace Ledger

/-- The capabilities of a property, in the order in which they were found. -/
def accumulated (l : Ledger) (p : PropertyId) : List Capability :=
  (l.filter fun e => e.1 = p).map (·.2)

@[simp] theorem accumulated_nil (p : PropertyId) : accumulated [] p = [] := rfl

@[simp] theorem accumulated_append (l m : Ledger) (p : PropertyId) :
    accumulated (l ++ m) p = accumulated l p ++ accumulated m p := by
  simp [accumulated]

/-- The projection of a property as the ledger has it; unchanged if the ledger has no entry. -/
def projected (l : Ledger) (p : PropertyId) (x : Property) : Property :=
  if l.accumulated p = [] then x else { x with assigned := some ⟨x.type, l.accumulated p⟩ }

/-- Makes the projections of all properties in the ledger. -/
def materialize (l : Ledger) (s : Store) : Store :=
  { s with properties := s.properties.mapIdx fun i x => l.projected ⟨i⟩ x }

end Ledger

/-! ## Readers -/

/-- The terms of all kinds as a vocabulary defines them. -/
abbrev Terms := List (CapabilityKind × QualifiedName)

/-- The terms of a vocabulary that defines all of them. -/
def termsOf (vocabulary : Graph) : Terms :=
  CapabilityKind.all.filterMap fun k => (vocabulary.term? (termName k)).map fun t => (k, t.name)

/-- Loads the terms, from a file if one is given. -/
def loadTerms (file : Option SourceFile) : Except (Mishap ConfigurationFault) Terms :=
  (Vocabulary.loadCapabilities file termNames).map termsOf

/-- The entries that a statement about a kind makes: one for the property of the entity set, then one for
each excluded property. -/
def Statement.entries (x : Statement) (kind : CapabilityKind) (p : PropertyId) : Ledger :=
  (p, ⟨kind, x.flag⟩) :: x.excluded.map fun q => (q, ⟨kind, false⟩)

/-- The entries that one term makes for an entity set: none if the set is not annotated with it. -/
def entriesOf (g : Graph) (s : Store) (p : PropertyId) (t : TypeId) (set : ContainerMember)
    (term : CapabilityKind × QualifiedName) : Except Failure Ledger :=
  match g.annotationWith? set.targetPath term.2 with
  | none => .ok []
  | some a => (readStatement s t a).map fun x => x.entries term.1 p

/-- Applies terms one after another, up to the first that fails. -/
def applyTerms (g : Graph) (s : Store) (p : PropertyId) (t : TypeId) (set : ContainerMember) :
    Terms → Ledger → Ledger × Option Failure
  | [], l => (l, none)
  | term :: terms, l =>
      match entriesOf g s p t set term with
      | .error f => (l, some f)
      | .ok entries => applyTerms g s p t set terms (l ++ entries)

/-- Resolves the capabilities of an entity set whose property stands at a place. -/
def resolveSet (g : Graph) (terms : Terms) (p : PropertyId) (set : ContainerMember) (l : Ledger)
    (s : Store) : Ledger × Except Failure Store :=
  match s.property? p with
  | none => (l, .ok s)
  | some x =>
      match applyTerms g s p x.type set terms l with
      | (l, some f) => (l, .error f)
      | (l, none) => (l, .ok (l.materialize s))

/-! ## Calls with arguments that may be missing -/

/-- An argument that is required. -/
def required {α : Type} (name : String) : Option α → Except Failure α
  | some a => .ok a
  | none => .error (.precondition (.argument name))

/-- Resolves the capabilities of an entity set, if both the property and the set are given. -/
def resolveGivenSet (g : Graph) (terms : Terms) (p : Option PropertyId)
    (set : Option ContainerMember) (l : Ledger) (s : Store) : Ledger × Except Failure Store :=
  match required "entity_set_property" p, required "entity_set" set with
  | .error f, _ => (l, .error f)
  | .ok _, .error f => (l, .error f)
  | .ok p, .ok set => resolveSet g terms p set l s

/-- Restrictions of a whole container are not projected onto the model; only its arguments are checked. -/
def resolveContainer {α β : Type} (serviceClass : Option α) (container : Option β) :
    Except Failure Unit := do
  let _ ← required "service_class" serviceClass
  let _ ← required "container" container

/-- The graph and the terms of a new reader. -/
def openReader (g : Option Graph) (file : Option SourceFile) : Except (Mishap Failure) (Graph × Terms) := do
  let g ← (required "service_model" g).mapError .foreseen
  let terms ← (loadTerms file).mapError (Mishap.map .configuration)
  return (g, terms)

end EntityModel.Restriction
