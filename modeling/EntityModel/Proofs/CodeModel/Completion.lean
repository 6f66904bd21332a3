import EntityModel.Proofs.CodeModel.Store

/-!
# Completing a store

After the classes of a model have been declared, its store is only *completed*: primitive types and methods
come behind the types that are there, properties behind the properties, and a class gets a base, a key and
members. Everything else about a type stays: its name, its kind, what an enumeration has.
-/

namespace EntityModel.CodeModel

/-- Two stages of one class: they may differ in the base and the members. -/
structure ClassDetail.SameHead (k k' : ClassDetail) : Prop where
  /-- The kind stays. -/
  kind : k'.kind = k.kind
  /-- Whether it is abstract stays. -/
  isAbstract : k'.isAbstract = k.isAbstract
  /-- Whether it is open stays. -/
  isOpen : k'.isOpen = k.isOpen
  /-- What it has as an enumeration stays. -/
  enumeration : k'.enumeration = k.enumeration

namespace ClassDetail.SameHead

variable {k k' k'' : ClassDetail}

theorem refl (k : ClassDetail) : k.SameHead k := ⟨rfl, rfl, rfl, rfl⟩

theorem symm (h : k.SameHead k') : k'.SameHead k :=
  ⟨h.kind.symm, h.isAbstract.symm, h.isOpen.symm, h.enumeration.symm⟩

theorem trans (h : k.SameHead k') (h' : k'.SameHead k'') : k.SameHead k'' :=
  ⟨h'.kind.trans h.kind, h'.isAbstract.trans h.isAbstract, h'.isOpen.trans h.isOpen,
    h'.enumeration.trans h.enumeration⟩

end ClassDetail.SameHead

/-- Two stages of one shape. -/
inductive Shape.Completes : Shape → Shape → Prop
  /-- Nothing changes. -/
  | refl (x : Shape) : Completes x x
  /-- A class is completed. -/
  | structured {k k' : ClassDetail} (h : k.SameHead k') : Completes (.structured k) (.structured k')

namespace Shape.Completes

variable {x y z : Shape}

theorem trans (h : x.Completes y) (h' : y.Completes z) : x.Completes z := by
  cases h with
  | refl => exact h'
  | structured h =>
      cases h' with
      | refl => exact .structured h
      | structured h' => exact .structured (h.trans h')

theorem changeShape {f : ClassDetail → ClassDetail}
    (hf : ∀ k : ClassDetail, k.SameHead (f k)) (x : Shape) :
    x.Completes (Store.changeShape f x) := by
  cases x with
  | structured k => exact .structured (hf k)
  | plain => exact .refl _
  | primitive => exact .refl _
  | method d => exact .refl _

end Shape.Completes

namespace Store

/-- A later stage of a store. -/
structure Completes (s s' : Store) : Prop where
  /-- A type keeps its name and is completed. -/
  type? : ∀ {t e}, s.type? t = some e → ∃ x, s'.type? t = some ⟨e.name, x⟩ ∧ e.shape.Completes x
  /-- Properties come behind the ones that are there. -/
  properties : s.properties <+: s'.properties

namespace Completes

variable {s s' s'' : Store} {t : TypeId}

theorem refl (s : Store) : s.Completes s where
  type? h := ⟨_, h, .refl _⟩
  properties := List.prefix_refl _

theorem trans (h : s.Completes s') (h' : s'.Completes s'') : s.Completes s'' where
  type? ht := by
    obtain ⟨x, hx, hc⟩ := h.type? ht
    obtain ⟨y, hy, hc'⟩ := h'.type? hx
    exact ⟨y, hy, hc.trans hc'⟩
  properties := h.properties.trans h'.properties

theorem type?_of_primitive (h : s.Completes s') {n : QualifiedName}
    (ht : s.type? t = some ⟨n, .primitive⟩) : s'.type? t = some ⟨n, .primitive⟩ := by
  obtain ⟨x, hx, hc⟩ := h.type? ht
  cases hc with
  | refl => exact hx

theorem type?_of_method (h : s.Completes s') {n : QualifiedName} {m : MethodDetail}
    (ht : s.type? t = some ⟨n, .method m⟩) : s'.type? t = some ⟨n, .method m⟩ := by
  obtain ⟨x, hx, hc⟩ := h.type? ht
  cases hc with
  | refl => exact hx

theorem type?_of_class (h : s.Completes s') {n : QualifiedName} {k : ClassDetail}
    (ht : s.type? t = some ⟨n, .structured k⟩) :
    ∃ k', s'.type? t = some ⟨n, .structured k'⟩ ∧ k.SameHead k' := by
  obtain ⟨x, hx, hc⟩ := h.type? ht
  cases hc with
  | refl => exact ⟨k, hx, .refl k⟩
  | structured hk => exact ⟨_, hx, hk⟩

theorem length_types_le (h : s.Completes s') : s.types.length ≤ s'.types.length := by
  rcases Nat.lt_or_ge s'.types.length s.types.length with hlt | hle
  · have hsome : s.type? ⟨s'.types.length⟩ = some s.types[s'.types.length] :=
      List.getElem?_eq_getElem hlt
    obtain ⟨x, hx, -⟩ := h.type? hsome
    have hnone : s'.type? ⟨s'.types.length⟩ = none := List.getElem?_eq_none (Nat.le_refl _)
    rw [hnone] at hx
    cases hx
  · exact hle

/-! ## The changes that complete a store -/

theorem changeClass (s : Store) (c : TypeId) {f : ClassDetail → ClassDetail}
    (hf : ∀ k : ClassDetail, k.SameHead (f k)) : s.Completes (s.changeClass c f) where
  type? {t e} ht := by
    rw [type?_changeClass, ht]
    by_cases h : c = t
    · exact ⟨_, by simp [h], Shape.Completes.changeShape hf _⟩
    · exact ⟨_, by simp [h], .refl _⟩
  properties := List.prefix_refl _

theorem addType (s : Store) (e : TypeEntry) : s.Completes (s.addType e).1 where
  type? ht := ⟨_, type?_addType_of_some ht, .refl _⟩
  properties := List.prefix_refl _

theorem withProperty (s : Store) (c : TypeId) (x : Property) : s.Completes (s.withProperty c x) := by
  have hadd : s.Completes { s with properties := s.properties ++ [{ x with owner := some c }] } :=
    { type? := fun h => ⟨_, h, .refl _⟩, properties := List.prefix_append _ _ }
  exact hadd.trans (changeClass _ c fun _ => ⟨rfl, rfl, rfl, rfl⟩)

theorem withMethod (s : Store) (c : TypeId) (name : QualifiedName) (m : MethodDetail) :
    s.Completes (s.withMethod c name m) :=
  (addType s _).trans (changeClass _ c fun _ => ⟨rfl, rfl, rfl, rfl⟩)

end Completes

end Store

end EntityModel.CodeModel
