import EntityModel.Proofs.CodeModel.Walk
import EntityModel.Restriction.Reading

/-!
# Reading restrictions

A statement is read exactly if the annotation is a record with one truth value and one collection, and each
element of the collection is a path that leads somewhere. What is read depends on a store only through its
walks, so two stores that simulate each other read the same statements.
-/

namespace EntityModel.Restriction

open CodeModel
open Edm ( Annotation Expression)

/-- The record of an annotation has one truth value and one collection. -/
def HasShape (a : Annotation) (flag : Bool) (elements : List Expression) : Prop :=
  ∃ properties, a.value.bind Expression.properties? = some properties ∧ booleans properties = [flag] ∧
    collections properties = [elements]

/-- An element is a path that leads from a type to a property. -/
def LeadsTo (s : Store) (t : TypeId) (e : Expression) (p : PropertyId) : Prop :=
  ∃ segments, e.segments? = some segments ∧ s.isClass t ∧
    s.findProperty t (Edm.dottedPath segments) = .ok p

section Reading

variable {s s' : Store} {t t' : TypeId} {a : Annotation} {e : Expression} {p : PropertyId} {x : Statement}

theorem HasShape.unique {flag flag' : Bool} {elements elements' : List Expression}
    (h : HasShape a flag elements) (h' : HasShape a flag' elements') :
    flag = flag' ∧ elements = elements' := by
  obtain ⟨ps, hps, hflag, helements⟩ := h
  obtain ⟨ps', hps', hflag', helements'⟩ := h'
  obtain rfl : ps = ps' := by simpa [hps] using hps'
  rw [hflag] at hflag'
  rw [helements] at helements'
  exact ⟨by simpa using hflag', by simpa using helements'⟩

theorem excludedBy_eq_ok_iff {term : String} : excludedBy s term t e = .ok p ↔ LeadsTo s t e p := by
  unfold excludedBy LeadsTo
  cases e.segments? with
  | none => simp
  | some segments =>
      by_cases hc : s.isClass t
      · simp [hc]
      · simp [hc]

/-- The exact condition under which a statement is read. -/
theorem readStatement_eq_ok_iff :
    readStatement s t a = .ok x ↔
      ∃ elements, HasShape a x.flag elements ∧ List.Forall₂ (LeadsTo s t) elements x.excluded := by
  unfold readStatement HasShape
  cases a.value.bind Expression.properties? with
  | none => simp
  | some properties =>
      dsimp only
      cases hb : booleans properties with
      | nil => simp [hb]
      | cons flag flags =>
          cases flags with
          | cons flag' flags => simp [hb]
          | nil =>
              dsimp only
              cases hc : collections properties with
              | nil => simp [hc]
              | cons elements more =>
                  cases more with
                  | cons elements' more => simp [hc]
                  | nil =>
                      dsimp only
                      obtain ⟨xflag, excluded⟩ := x
                      have hread : ∀ ps, elements.mapM (excludedBy s a.term t) = .ok ps ↔
                          List.Forall₂ (LeadsTo s t) elements ps := by
                        intro ps
                        rw [mapM_eq_ok_iff]
                        simp only [excludedBy_eq_ok_iff]
                      constructor
                      · intro h
                        obtain ⟨ps, hps, hx⟩ := bind_eq_ok_iff.1 h
                        obtain ⟨rfl, rfl⟩ : flag = xflag ∧ ps = excluded := by
                          simpa [pure, Except.pure] using hx
                        exact ⟨elements, ⟨properties, rfl, hb, hc⟩, (hread ps).1 hps⟩
                      · rintro ⟨elements', ⟨ps, hps, hflag, helements⟩, hall⟩
                        obtain rfl := Option.some.inj hps
                        obtain rfl : flag = xflag := by simpa [hb] using hflag
                        obtain rfl : elements = elements' := by simpa [hc] using helements
                        exact bind_eq_ok_iff.2 ⟨excluded, (hread excluded).2 hall, rfl⟩

variable {R : TypeId → TypeId → Prop} {P : PropertyId → PropertyId → Prop}

/-- A path that leads to a property in one store leads to its counterpart in another. -/
theorem LeadsTo.simulate (h : s.Simulates R P s') (hr : R t t') (hp : LeadsTo s t e p) :
    ∃ p', LeadsTo s' t' e p' ∧ P p p' := by
  obtain ⟨segments, hs, hc, hp⟩ := hp
  obtain ⟨p', hp', hpp⟩ := h.findProperty hr hp
  exact ⟨p', ⟨segments, hs, h.isClass hr hc, hp'⟩, hpp⟩

end Reading

end EntityModel.Restriction
