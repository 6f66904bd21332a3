import EntityModel.Proofs.CodeModel.Likeness
import EntityModel.Proofs.Restriction.Assembly

/-!
# Restrictions in two stores

Where one store simulates another, each restriction that makes its entries in the first makes the same entries in the
second, for the properties that stand for the first ones. So if all entity sets can be resolved in the one, they
can in the other (`restrict_simulate`), and what accumulates for a property is the same. Stores that are alike
before their sets are resolved are alike behind it (`alike_materialize`).
-/

namespace EntityModel.Restriction

open CodeModel
open Compilation (restrict containerSets)
open Edm (Graph Container ContainerMember)

variable {T : TypeId → TypeId → Prop} {P : PropertyId → PropertyId → Prop} {s s' : Store}
variable {g g' : Graph} {p p' : PropertyId} {t t' c c' : TypeId} {set : ContainerMember} {terms : Terms}

/-! ## Entries -/

/-- Two ledgers have the same capabilities for related properties. -/
abbrev SameEntries (P : PropertyId → PropertyId → Prop) : Ledger → Ledger → Prop :=
  List.Forall₂ fun e e' => P e.1 e'.1 ∧ e'.2 = e.2

theorem Ledger.accumulated_eq {l l' : Ledger} (h : SameEntries P l l')
    (hp : ∀ {q q'}, P q q' → (q = p ↔ q' = p')) : l'.accumulated p' = l.accumulated p := by
  induction h with
  | nil => rfl
  | @cons e e' l l' he _ ih =>
      simp only [accumulated, List.filter_cons, ← hp he.1] at ih ⊢
      split
      · rw [List.map_cons, List.map_cons, he.2, ih]
      · exact ih

theorem entriesOf_simulate {term : CapabilityKind × QualifiedName} {e : Ledger} (h : s.Simulates T P s')
    (hg : g'.annotationWith? = g.annotationWith?) (hp : P p p') (ht : T t t')
    (he : entriesOf g s p t set term = .ok e) :
    ∃ e', entriesOf g' s' p' t' set term = .ok e' ∧ SameEntries P e e' := by
  simp only [entriesOf_eq_ok_iff, hg] at he ⊢
  cases ha : g.annotationWith? set.targetPath term.2 with
  | none =>
      rw [ha] at he
      subst he
      exact ⟨[], rfl, .nil⟩
  | some a =>
      rw [ha] at he
      obtain ⟨x, hx, rfl⟩ := he
      obtain ⟨elements, hshape, hall⟩ := readStatement_eq_ok_iff.1 hx
      obtain ⟨qs, hqs, hsame⟩ := Alignment.exists_partners hall fun _ _ hleads => hleads.simulate h ht
      refine ⟨_, ⟨⟨x.flag, qs⟩, readStatement_eq_ok_iff.2 ⟨elements, hshape, hqs⟩, rfl⟩, .cons ⟨hp, rfl⟩ ?_⟩
      rw [List.forall₂_map_left_iff, List.forall₂_map_right_iff]
      exact hsame.imp fun q q' hq => ⟨hq, rfl⟩

theorem flatten_rel {ls ls' : List Ledger} (h : List.Forall₂ (SameEntries P) ls ls') :
    SameEntries P ls.flatten ls'.flatten := by
  induction h with
  | nil => exact .nil
  | cons hl _ ih => exact List.rel_append hl ih

/-- An entity set makes the same entries in both stores. -/
theorem setEntries_simulate {l : Ledger} (h : s.Simulates T P s')
    (hg : g'.annotationWith? = g.annotationWith?)
    (hown : Option.Rel (fun e e' => P e.1 e'.1 ∧ T e.2.type e'.2.type) (s.ownProperty? c set.name)
      (s'.ownProperty? c' set.name))
    (hl : SetEntries g terms s (c, set) l) : ∃ l', SetEntries g' terms s' (c', set) l' ∧ SameEntries P l l' := by
  unfold SetEntries at hl ⊢
  generalize s.ownProperty? c set.name = o, s'.ownProperty? c' set.name = o' at hown hl ⊢
  cases hown with
  | none =>
      subst hl
      exact ⟨[], rfl, .nil⟩
  | some hq =>
      obtain ⟨es, hes, rfl⟩ := hl
      obtain ⟨es', hes', hsame⟩ := Alignment.exists_partners hes fun _ _ he => entriesOf_simulate h hg hq.1 hq.2 he
      exact ⟨es'.flatten, ⟨es', hes', rfl⟩, flatten_rel hsame⟩

/-- If all entity sets can be resolved in one store, they can be resolved in the other, with the same entries. -/
theorem restrict_simulate {containers : List (Container × TypeId)} {r : Store} (h : s.Simulates T P s')
    (hg : g'.annotationWith? = g.annotationWith?)
    (hown : ∀ x ∈ containerSets containers, Option.Rel (fun e e' => P e.1 e'.1 ∧ T e.2.type e'.2.type)
      (s.ownProperty? x.1 x.2.name) (s'.ownProperty? x.1 x.2.name))
    (hr : restrict g terms containers s = .ok r) :
    ∃ l l', SameEntries P l l' ∧ r = l.materialize s ∧
      restrict g' terms containers s' = .ok (l'.materialize s') := by
  obtain ⟨ls, hls, rfl⟩ := restrict_eq_ok_iff.1 hr
  have hall : List.Forall₂ (fun x l => x ∈ containerSets containers ∧ SetEntries g terms s x l)
      (containerSets containers) ls := Alignment.imp_of_mem hls fun x l hx hl => ⟨hx, hl⟩
  obtain ⟨ls', hls', hsame⟩ := Alignment.exists_partners hall fun x l hx =>
    setEntries_simulate h hg (hown x hx.1) hx.2
  exact ⟨ls.flatten, ls'.flatten, flatten_rel hsame, rfl, restrict_eq_ok_iff.2 ⟨ls', hls', rfl⟩⟩

/-! ## Projections -/

/-- Stores that are alike stay alike if the same accumulates for related properties. -/
theorem alike_materialize {l l' : Ledger} (h : Alike T P s s')
    (hl : ∀ {p p'}, P p p' → l'.accumulated p' = l.accumulated p) :
    Alike T P (l.materialize s) (l'.materialize s') where
  type? := h.type?
  property? {p p'} hp := by
    obtain ⟨x, x', hx, hx', hsame⟩ := h.property? hp
    refine ⟨l.projected p x, l'.projected p' x', ?_, ?_, ?_⟩
    · rw [Ledger.property?_materialize, hx]
      rfl
    · rw [Ledger.property?_materialize, hx']
      rfl
    · rw [Ledger.projected, Ledger.projected, hl hp]
      split
      · exact hsame
      · exact { hsame with assigned := .some ⟨hsame.type, rfl⟩ }
  lineage ht := by
    obtain ⟨k, hk⟩ := h.lineage ht
    have hclass : ∀ u, (l.materialize s).class? u = s.class? u := fun _ => rfl
    exact ⟨k, hk.of_class? hclass⟩

end EntityModel.Restriction
