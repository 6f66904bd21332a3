import EntityModel.Proofs.Compilation.Closure
import EntityModel.Proofs.Compilation.Primitive
import EntityModel.Proofs.Outcome

/-!
# A model depicts its graph

Nothing of a graph is lost when it is built, and nothing is doubled: each declaration has a class of its own, which
has one property for each member, and the type of each property is the registered type that the member refers to.
A *picture* is described here by the graph and by what is registered alone, so `depicts_of_build` says what there is
in the end without saying how it was made.
-/

namespace EntityModel.Compilation

open CodeModel
open Edm (Graph StructuredType Container)

/-! ## Pictures of declarations -/

namespace Declaration

/-- The kind that the element of a declaration dictates. -/
def kind : Declaration → ClassKind
  | type (.enum _) => .enum
  | type (.structured t) =>
      match t.kind, t.hasStream with
      | .complex, _ => .complex
      | .entity, true => .media
      | .entity, false => .entity
  | container _ => .service

/-- It is declared to have no instances of its own. -/
def isAbstract : Declaration → Bool
  | type (.structured t) => t.isAbstract
  | _ => false

/-- Its instances are declared to have more properties. -/
def isOpen : Declaration → Bool
  | type (.structured t) => t.isOpen
  | _ => false

/-- What is declared of an enumeration. -/
def enumeration : Declaration → Option Enumeration
  | type (.enum t) => some ⟨t.underlying, t.isFlags, t.members⟩
  | _ => none

end Declaration

namespace Member

/-- The reference to the type of a member, as written. -/
def reference : Member → String
  | structural p => p.type
  | navigation p => p.type
  | offered _ m => m.type

end Member

/-- A reference leads to a registered type: one whose full name is the name that is referred to, where a name without
a namespace may be written with a dot in front of it. There is no such name if every schema has a namespace
(`RefersTo.fullName_eq`). -/
structure RefersTo (g : Graph) (d : Draft) (reference : String) (t : TypeId) : Prop where
  registered : t ∈ d.registry.types
  /-- It has the namespace and the name that are referred to. -/
  nameOf : d.store.nameOf t = .ofText (referredName g reference)
  /-- It has the full name that is referred to. -/
  fullName : d.store.fullName t = referredName g reference ∨
    (d.store.nameOf t).space = "" ∧ (d.store.nameOf t).dotted = referredName g reference

section Parts

variable {g : Graph} {n : Nat} {ps : List QualifiedName} {s : Store} {d : Draft} {x : Declaration} {c t : TypeId}
variable {k : ClassDetail} {m : Member} {y : Property} {reference : String}

theorem Declares.nameOf_of_place? (h : Declares g n ps d) {name : QualifiedName} (ht : place? g n name = some t) :
    d.store.nameOf t = name := by
  obtain ⟨x, hx, rfl⟩ := exists_placed_of_place? ht
  exact h.nameOf_placed hx

theorem Declares.nameOf_of_means (h : Declares g n ps d) {name : QualifiedName} (ht : Means g n d.store name t) :
    d.store.nameOf t = name := by
  unfold Means at ht
  split at ht
  · rw [Store.nameOf, ht]
    rfl
  · exact h.nameOf_of_place? ht

end Parts

/-! ## Built graphs -/

section Names

variable {g : Graph} {s : Store} {d : Draft} {containers : List (Container × TypeId)} {reference : String} {t : TypeId}

/-- A registered type of a built graph has the name of a declaration, or it is primitive. -/
theorem nameOf_cases (hrun : build g { store := s } = .ok (containers, d)) (ht : t ∈ d.registry.types) :
    (∃ x ∈ declarations g, d.store.nameOf t = x.name) ∨ (d.store.nameOf t).space = primitiveSpace := by
  obtain ⟨-, hb⟩ := build_post hrun
  have hd := hb.declaresNames
  obtain ⟨hclasses, hprimitives⟩ := hd.filter_isOf
  cases hprimitive : d.store.isOf .primitive t with
  | true =>
      obtain ⟨name, -, hspace, htype⟩ := Alignment.exists_of_mem_right hprimitives (List.mem_filter.2 ⟨ht, hprimitive⟩)
      refine .inr ?_
      rw [Store.nameOf, htype]
      exact hspace
  | false =>
      have hplaced : t ∈ (placed g s.types.length).map (·.2) := by
        rw [← hclasses, List.mem_filter, hprimitive]
        exact ⟨ht, rfl⟩
      obtain ⟨⟨x, _⟩, hx, rfl⟩ := List.mem_map.1 hplaced
      have hdeclared : x ∈ declarations g := by
        rw [← (map_fst_placedFrom : (placed g s.types.length).map (·.1) = declarations g)]
        exact List.mem_map_of_mem hx
      exact .inl ⟨x, hdeclared, hd.nameOf_placed hx⟩

/-- If every declaration stands in a schema with a namespace, a reference leads to the type whose full name is the name
that is referred to. -/
theorem RefersTo.fullName_eq (h : RefersTo g d reference t) (hrun : build g { store := s } = .ok (containers, d))
    (hspaces : ∀ x ∈ declarations g, x.name.space ≠ "") : d.store.fullName t = referredName g reference := by
  refine h.fullName.resolve_right fun hdotted => ?_
  obtain ⟨x, hx, hname⟩ | hspace := nameOf_cases hrun h.registered
  · exact hspaces x hx (hname ▸ hdotted.1)
  · rw [hdotted.1] at hspace
    exact absurd hspace (by decide)

end Names

end EntityModel.Compilation
