import EntityModel.CodeModel.Store
import Mathlib.Data.Fintype.EquivFin
import Mathlib.Data.List.Nodup
import Mathlib.Data.List.Perm.Subperm
import Mathlib.Logic.Relation

/-!
# Lineages that end

A lineage is computed as a walk that is cut off at the number of types. `IsLineage` describes it without any
bound: a finite derivation that follows the bases of a class to one that has none. A lineage that ends in this
sense visits no class twice, so it has at most as many classes as there are types and is never cut off
(`IsLineage.lineage_eq`). It ends exactly if no class on the way comes behind itself (`exists_isLineage_iff`).
-/

namespace EntityModel.CodeModel.Store

/-- Following the bases of a class to the end. What is no class has no lineage. -/
inductive IsLineage (s : Store) : TypeId → List TypeId → Prop where
  /-- There is no class. -/
  | nil {t : TypeId} : s.class? t = none → IsLineage s t []
  /-- The class extends no other. -/
  | last {t : TypeId} {k : ClassDetail} : s.class? t = some k → k.base = none → IsLineage s t [t]
  /-- The class extends another. -/
  | step {t b : TypeId} {k : ClassDetail} {l : List TypeId} :
      s.class? t = some k → k.base = some b → IsLineage s b l → IsLineage s t (t :: l)

namespace IsLineage

variable {s : Store} {t u : TypeId} {l l' : List TypeId}

theorem unique (h : s.IsLineage t l) (h' : s.IsLineage t l') : l = l' := by
  induction h generalizing l' with
  | nil ht =>
      cases h' with
      | nil _ => rfl
      | last ht' _ => simp [ht] at ht'
      | step ht' _ _ => simp [ht] at ht'
  | last ht hb =>
      cases h' with
      | nil ht' => simp [ht] at ht'
      | last _ _ => rfl
      | step ht' hb' _ =>
          obtain rfl := Option.some.inj (ht.symm.trans ht')
          simp [hb] at hb'
  | step ht hb _ ih =>
      cases h' with
      | nil ht' => simp [ht] at ht'
      | last ht' hb' =>
          obtain rfl := Option.some.inj (ht.symm.trans ht')
          simp [hb] at hb'
      | step ht' hb' hrest =>
          obtain rfl := Option.some.inj (ht.symm.trans ht')
          obtain rfl := Option.some.inj (hb.symm.trans hb')
          rw [ih hrest]

theorem of_class? {s' : Store} (hclass : ∀ u, s'.class? u = s.class? u) (h : s.IsLineage t l) :
    s'.IsLineage t l := by
  induction h with
  | nil ht => exact .nil ((hclass _).trans ht)
  | last ht hb => exact .last ((hclass _).trans ht) hb
  | step ht hb _ ih => exact .step ((hclass _).trans ht) hb ih

/-- The lineage of a class that is passed is the rest of the lineage. -/
theorem exists_of_mem (h : s.IsLineage t l) (hu : u ∈ l) : ∃ l', s.IsLineage u l' ∧ l'.length ≤ l.length := by
  induction h with
  | nil _ => cases hu
  | last ht hb =>
      obtain rfl := List.mem_singleton.1 hu
      exact ⟨_, .last ht hb, Nat.le_refl _⟩
  | step ht hb hrest ih =>
      rcases List.mem_cons.1 hu with rfl | hu
      · exact ⟨_, .step ht hb hrest, Nat.le_refl _⟩
      · obtain ⟨l', hl', hle⟩ := ih hu
        exact ⟨l', hl', Nat.le_succ_of_le hle⟩

/-- No class is passed twice: otherwise its lineage would be longer than itself. -/
theorem nodup (h : s.IsLineage t l) : l.Nodup := by
  induction h with
  | nil _ => exact List.nodup_nil
  | last _ _ => exact List.nodup_singleton _
  | step ht hb hrest ih =>
      refine List.nodup_cons.2 ⟨fun hmem => ?_, ih⟩
      obtain ⟨l', hl', hle⟩ := hrest.exists_of_mem hmem
      rw [hl'.unique (.step ht hb hrest), List.length_cons] at hle
      omega

theorem isClass_of_mem (h : s.IsLineage t l) (hu : u ∈ l) : ∃ k, s.class? u = some k := by
  induction h with
  | nil _ => cases hu
  | last ht _ =>
      obtain rfl := List.mem_singleton.1 hu
      exact ⟨_, ht⟩
  | step ht _ _ ih =>
      rcases List.mem_cons.1 hu with rfl | hu
      · exact ⟨_, ht⟩
      · exact ih hu

theorem length_le (h : s.IsLineage t l) : l.length ≤ s.types.length := by
  have hindices : (l.map (·.index)).Nodup :=
    h.nodup.map fun a b hab => by cases a; cases b; exact congrArg TypeId.mk hab
  have hbelow : l.map (·.index) ⊆ List.range s.types.length := by
    intro i hi
    obtain ⟨u, hu, rfl⟩ := List.mem_map.1 hi
    obtain ⟨k, hk⟩ := h.isClass_of_mem hu
    obtain ⟨e, he, -⟩ := Option.bind_eq_some_iff.1 hk
    exact List.mem_range.2 (List.getElem?_eq_some_iff.1 he).1
  have hle := (List.subperm_of_subset hindices hbelow).length_le
  rwa [List.length_map, List.length_range] at hle

/-- A walk that is cut off goes a part of the way. -/
theorem lineageUpTo_eq (h : s.IsLineage t l) (n : Nat) : s.lineageUpTo n t = l.take n := by
  induction h generalizing n with
  | nil ht => cases n <;> simp [lineageUpTo, ht]
  | last ht hb => cases n <;> simp [lineageUpTo, ht, hb]
  | step ht hb _ ih => cases n <;> simp [lineageUpTo, ht, hb, ih]

/-- A lineage that ends is not cut off. -/
theorem lineage_eq (h : s.IsLineage t l) : s.lineage t = l := by
  rw [lineage, h.lineageUpTo_eq, List.take_of_length_le h.length_le]

/-- The lineage of a class is the class and the lineage of its base. -/
theorem lineage_of_class (h : s.IsLineage t l) {k : ClassDetail} (ht : s.class? t = some k) :
    s.lineage t = t :: match k.base with | Option.none => [] | some b => s.lineage b := by
  rw [h.lineage_eq]
  cases h with
  | nil hnone => simp [ht] at hnone
  | last ht' hb =>
      obtain rfl := Option.some.inj (ht.symm.trans ht')
      rw [hb]
  | step ht' hb hrest =>
      obtain rfl := Option.some.inj (ht.symm.trans ht')
      rw [hb]
      exact congrArg (t :: ·) hrest.lineage_eq.symm

/-- The nearest property with a name is the first one that the classes of the lineage declare. -/
theorem nearest?_eq (h : s.IsLineage t l) (name : String) :
    s.nearest? t name = (l.flatMap s.declared).find? fun p => p.2.name = name := by
  rw [nearest?, h.lineage_eq, List.find?_flatMap]
  rfl

end IsLineage

/-! ## Circles -/

open Relation (ReflTransGen TransGen)

/-- One class extends another. -/
def Extends (s : Store) (t b : TypeId) : Prop := ∃ k, s.class? t = some k ∧ k.base = some b

section Circles

variable {s : Store} {t u b : TypeId} {l : List TypeId}

instance : Decidable (s.Extends t b) :=
  decidable_of_iff ((s.class? t).bind (·.base) = some b) Option.bind_eq_some_iff

theorem class?_of_length_le (h : s.types.length ≤ t.index) : s.class? t = none := by
  rw [class?, type?, List.getElem?_eq_none h]
  rfl

/-- What comes behind a class has a shorter lineage. -/
theorem IsLineage.of_transGen (h : s.IsLineage t l) (hu : TransGen s.Extends t u) :
    ∃ l', s.IsLineage u l' ∧ l'.length < l.length := by
  have hstep : ∀ {t b l}, s.IsLineage t l → s.Extends t b → ∃ l', s.IsLineage b l' ∧ l'.length < l.length := by
    rintro t b l h ⟨k, hk, hb⟩
    cases h with
    | nil ht =>
        rw [ht] at hk
        cases hk
    | last ht hnone =>
        obtain rfl := Option.some.inj (ht.symm.trans hk)
        rw [hnone] at hb
        cases hb
    | step ht hb' hrest =>
        obtain rfl := Option.some.inj (ht.symm.trans hk)
        obtain rfl := Option.some.inj (hb'.symm.trans hb)
        exact ⟨_, hrest, Nat.lt_succ_self _⟩
  induction hu with
  | single hb => exact hstep h hb
  | tail _ hb ih =>
      obtain ⟨l₁, hl₁, hlt₁⟩ := ih
      obtain ⟨l₂, hl₂, hlt₂⟩ := hstep hl₁ hb
      exact ⟨l₂, hl₂, Nat.lt_trans hlt₂ hlt₁⟩

theorem IsLineage.not_transGen (h : s.IsLineage t l) : ¬ TransGen s.Extends t t := by
  intro hcircle
  obtain ⟨l', hl', hlt⟩ := h.of_transGen hcircle
  rw [h.unique hl'] at hlt
  exact Nat.lt_irrefl _ hlt

/-- A lineage ends exactly if no class that it comes by stands on a circle. -/
theorem exists_isLineage_iff :
    (∃ l, s.IsLineage t l) ↔ ∀ u, ReflTransGen s.Extends t u → ¬ TransGen s.Extends u u := by
  constructor
  · rintro ⟨l, hl⟩ u hu
    rcases Relation.reflTransGen_iff_eq_or_transGen.1 hu with rfl | hu
    · exact hl.not_transGen
    · obtain ⟨l', hl', -⟩ := hl.of_transGen hu
      exact hl'.not_transGen
  · intro h
    -- There are finitely many classes on the way, so without a circle there is no way that goes on forever.
    let Passed := { u : TypeId // ReflTransGen s.Extends t u ∧ u.index < s.types.length }
    have hfinite : Finite Passed := by
      refine Finite.of_injective (fun u : Passed => (⟨u.1.index, u.2.2⟩ : Fin s.types.length)) ?_
      rintro ⟨⟨i⟩, hi⟩ ⟨⟨j⟩, hj⟩ hij
      obtain rfl : i = j := by simpa using hij
      rfl
    have hwf : WellFounded fun u v : Passed => TransGen s.Extends v.1 u.1 := by
      have htrans : IsTrans Passed fun u v => TransGen s.Extends v.1 u.1 := ⟨fun _ _ _ huv hvw => hvw.trans huv⟩
      have hirrefl : Std.Irrefl fun u v : Passed => TransGen s.Extends v.1 u.1 := ⟨fun u => h u.1 u.2.1⟩
      exact Finite.wellFounded_of_trans_of_irrefl _
    have hall : ∀ v : Passed, ∃ l, s.IsLineage v.1 l := by
      intro v
      induction v using hwf.induction with
      | _ v ih =>
          cases hk : s.class? v.1 with
          | none => exact ⟨[], .nil hk⟩
          | some k =>
              cases hb : k.base with
              | none => exact ⟨[v.1], .last hk hb⟩
              | some b =>
                  have hextends : s.Extends v.1 b := ⟨k, hk, hb⟩
                  by_cases hlt : b.index < s.types.length
                  · obtain ⟨l, hl⟩ := ih ⟨b, v.2.1.tail hextends, hlt⟩ (.single hextends)
                    exact ⟨v.1 :: l, .step hk hb hl⟩
                  · exact ⟨[v.1], .step hk hb (.nil (class?_of_length_le (Nat.le_of_not_lt hlt)))⟩
    by_cases hlt : t.index < s.types.length
    · exact hall ⟨t, .refl, hlt⟩
    · exact ⟨[], .nil (class?_of_length_le (Nat.le_of_not_lt hlt))⟩

end Circles

end EntityModel.CodeModel.Store
