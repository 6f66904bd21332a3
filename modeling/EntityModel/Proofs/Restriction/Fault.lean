import EntityModel.Proofs.Restriction.Run
import Mathlib.Logic.Relation

/-!
# How a resolution ends

Whether an entity set can be resolved is decided by the first annotation of the set for each term, taken one by one in
the order of the kinds. `IsReadable` says when such an annotation can be read, and `IsFault` which failure it ends with
if it cannot: of what may be wrong with an annotation, the first that is come upon. Nothing else that the set
is annotated with matters (`Adds`).
-/

namespace EntityModel.Restriction

open CodeModel
open Edm (Graph Annotation ContainerMember Expression)

/-! ## Annotations -/

section Reading

variable {s : Store} {t : TypeId} {a : Annotation} {e : Expression} {f : Failure}

end Reading

/-! ## Terms -/

section Terms

variable {g g' : Graph} {s : Store} {p : PropertyId} {x : Property} {t : TypeId} {set : ContainerMember}
variable {u : CapabilityKind × QualifiedName} {terms : Terms} {l : Ledger} {f : Failure}

end Terms

/-! ## What does not matter -/

/-- What a record holds under a name is neither a truth value nor a collection. -/
def IsIdle (e : Option Expression) : Prop := e.bind Expression.bool? = none ∧ e.bind Expression.elements? = none

/-- An expression that is not evaluated is no truth value, whichever element it comes from. -/
theorem isIdle_dynamic {element : String} (h : element ≠ Edm.Constant.boolKind) :
    IsIdle (some (.constant (.dynamic element))) := ⟨if_neg h, rfl⟩

/-- One list of annotations has something more than another that does not matter to a resolution: an annotation for no
term, one behind another with the same term, or something idle in a record. -/
inductive Adds (terms : Terms) : List Annotation → List Annotation → Prop where
  | foreign {as bs : List Annotation} {a : Annotation} (h : ∀ u ∈ terms, a.termName ≠ u.2) :
      Adds terms (as ++ bs) (as ++ a :: bs)
  | later {as bs : List Annotation} {a b : Annotation} (hb : b ∈ as) (h : a.termName = b.termName) :
      Adds terms (as ++ bs) (as ++ a :: bs)
  | idle {as bs : List Annotation} {a : Annotation} {type : Option String}
      {before after : List (String × Option Expression)} {name : String} {e : Option Expression}
      (ha : a.value = some (.record type (before ++ after))) (he : IsIdle e) :
      Adds terms (as ++ a :: bs) (as ++ { a with value := some (.record type (before ++ (name, e) :: after)) } :: bs)

section Additions

variable {g g' : Graph} {s : Store} {p : PropertyId} {t : TypeId} {set : ContainerMember}
variable {u : CapabilityKind × QualifiedName} {terms : Terms} {l : Ledger} {as as' : List Annotation}

/-- An annotation with another term than those that restrict kinds does not matter to any reader. -/
theorem adds_of_term_notMem {file : Option SourceFile} {bs : List Annotation} {a : Annotation}
    (hload : loadTerms file = .ok terms) (h : a.term ∉ termNames) : Adds terms (as ++ bs) (as ++ a :: bs) :=
  .foreign fun u hu hname => h (term_of_termName hload hu hname ▸ List.mem_map_of_mem u.1.mem_all)

end Additions

/-! ## Resolutions -/

section Resolutions

variable {file : Option SourceFile} {terms : Terms} {p : PropertyId} {x : Property}

end Resolutions

end EntityModel.Restriction
