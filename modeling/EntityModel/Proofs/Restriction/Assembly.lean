import EntityModel.Compilation.Attempt
import EntityModel.Proofs.CodeModel.Reprojection
import EntityModel.Proofs.CodeModel.Store
import EntityModel.Proofs.Restriction.Reading
import EntityModel.Proofs.Restriction.Resolution

/-!
# Resolving all entity sets

Making projections changes nothing that a walk or a reading looks at. So it does not matter that the sets are
resolved one after another, each in the store that the ones before it have left: the entries that a set makes
are those it would make in the store of the beginning, and the projections in the end are those of all
entries together (`restrict_eq_ok_iff`).
-/

namespace EntityModel.Restriction

open CodeModel
open Compilation (restrict restrictSet containerSets)
open Edm (Graph Annotation Container ContainerMember)

/-! ## Projections -/

section Projections

variable {l m : Ledger} {s : Store} {p : PropertyId} {t : TypeId} {x : Property} {name : String}

@[simp] theorem Ledger.name_projected : (l.projected p x).name = x.name := by
  unfold Ledger.projected
  split <;> rfl

@[simp] theorem Ledger.type_projected : (l.projected p x).type = x.type := by
  unfold Ledger.projected
  split <;> rfl

@[simp] theorem Ledger.owner_projected : (l.projected p x).owner = x.owner := by
  unfold Ledger.projected
  split <;> rfl

/-- Projections made before do not matter to those made later. -/
theorem Ledger.projected_append :
    Ledger.projected (l ++ m) p (l.projected p x) = Ledger.projected (l ++ m) p x := by
  by_cases hl : l.accumulated p = []
  · rw [projected, projected, projected, if_pos hl]
  · have hlm : Ledger.accumulated (l ++ m) p ≠ [] := by
      rw [accumulated_append]
      exact fun h => hl (List.append_eq_nil_iff.1 h).1
    rw [projected, projected, projected, if_neg hl, if_neg hlm, if_neg hlm]

theorem Ledger.property?_materialize :
    (l.materialize s).property? p = (s.property? p).map (l.projected p) := by
  rw [Store.property?, materialize, List.getElem?_mapIdx]
  rfl

theorem Ledger.materialize_nil : Ledger.materialize [] s = s := by
  have hsame : s.properties.mapIdx (fun i x => Ledger.projected [] ⟨i⟩ x) = s.properties := by
    refine List.ext_getElem? fun i => ?_
    rw [List.getElem?_mapIdx]
    cases s.properties[i]? <;> rfl
  rw [materialize, hsame]

theorem Ledger.materialize_append :
    Ledger.materialize (l ++ m) (l.materialize s) = Ledger.materialize (l ++ m) s := by
  rw [materialize, materialize, materialize]
  simp only [List.mapIdx_mapIdx, Function.comp_def, projected_append]

/-- Two ledgers make stores that differ in projections only. -/
theorem Ledger.reprojects_materialize {R : Projection → Projection → Prop}
    (h : ∀ p x, R (l.projected p x).projection (m.projected p x).projection) :
    (l.materialize s).Reprojects R (m.materialize s) where
  types := rfl
  properties := by
    rw [materialize, materialize, List.forall₂_iff_get]
    refine ⟨by simp, fun i hi hi' => ?_⟩
    simp only [List.get_eq_getElem, List.getElem_mapIdx]
    refine ⟨?_, h _ _⟩
    unfold projected
    split <;> split <;> rfl

/-- Projections do not matter to any walk. -/
theorem simulates_materialize (l : Ledger) (s : Store) :
    s.Simulates Eq Eq (l.materialize s) ∧ (l.materialize s).Simulates Eq Eq s := by
  have hprop : ∀ q, ((l.materialize s).property? q).map (fun x => (x.name, x.type)) =
      (s.property? q).map fun x => (x.name, x.type) := by
    intro q
    rw [Ledger.property?_materialize, Option.map_map]
    congr 1
    funext x
    simp
  exact ⟨.of_same (fun _ => rfl) hprop (Nat.le_refl _),
    .of_same (fun _ => rfl) (fun q => (hprop q).symm) (Nat.le_refl _)⟩

theorem leadsTo_materialize {e : Edm.Expression} :
    LeadsTo (l.materialize s) t e p ↔ LeadsTo s t e p := by
  constructor
  · intro h
    obtain ⟨p', hp', rfl⟩ := h.simulate (simulates_materialize l s).2 rfl
    exact hp'
  · intro h
    obtain ⟨p', hp', rfl⟩ := h.simulate (simulates_materialize l s).1 rfl
    exact hp'

theorem declared_materialize :
    (l.materialize s).declared t = (s.declared t).map fun e => (e.1, l.projected e.1 e.2) := by
  have hplaces : ∀ ps, (l.materialize s).propertiesAt ps =
      (s.propertiesAt ps).map fun e => (e.1, l.projected e.1 e.2) := by
    intro ps
    rw [Store.propertiesAt, Store.propertiesAt, List.map_filterMap]
    refine List.filterMap_congr fun q _ => ?_
    rw [Ledger.property?_materialize, Option.map_map, Option.map_map]
    rfl
  exact hplaces _

theorem lineageUpTo_materialize {n : Nat} : (l.materialize s).lineageUpTo n t = s.lineageUpTo n t := by
  induction n generalizing t with
  | zero => rfl
  | succ n ih =>
      have hclass : (l.materialize s).class? t = s.class? t := rfl
      rw [Store.lineageUpTo, Store.lineageUpTo, hclass]
      simp only [ih]

theorem ownProperty?_materialize :
    (l.materialize s).ownProperty? t name =
      (s.ownProperty? t name).map fun e => (e.1, l.projected e.1 e.2) := by
  rw [Store.ownProperty?, declared_materialize, List.find?_map]
  simp only [Function.comp_def, Ledger.name_projected]
  rfl

end Projections

/-! ## Entries of a set -/

section Entries

variable {g : Graph} {s : Store} {p : PropertyId} {t : TypeId} {set : ContainerMember}
variable {term : CapabilityKind × QualifiedName} {terms : Terms} {l e : Ledger}

theorem entriesOf_eq_ok_iff :
    entriesOf g s p t set term = .ok e ↔
      match g.annotationWith? set.targetPath term.2 with
      | none => e = []
      | some a => ∃ x, readStatement s t a = .ok x ∧ e = x.entries term.1 p := by
  unfold entriesOf
  cases g.annotationWith? set.targetPath term.2 with
  | none => simp [eq_comm]
  | some a => exact map_eq_ok_iff.trans (exists_congr fun x => and_congr_right fun _ => eq_comm)

theorem entriesOf_materialize :
    entriesOf g (l.materialize s) p t set term = .ok e ↔ entriesOf g s p t set term = .ok e := by
  have hleads : LeadsTo (l.materialize s) t = LeadsTo s t :=
    funext fun e => funext fun p => propext leadsTo_materialize
  rw [entriesOf_eq_ok_iff, entriesOf_eq_ok_iff]
  cases g.annotationWith? set.targetPath term.2 with
  | none => rfl
  | some a => simp only [readStatement_eq_ok_iff, hleads]

/-- The entries that the terms make for an entity set of a service class. -/
def SetEntries (g : Graph) (terms : Terms) (s : Store) (x : TypeId × ContainerMember) (l : Ledger) : Prop :=
  match s.ownProperty? x.1 x.2.name with
  | none => l = []
  | some p => ∃ es, List.Forall₂ (fun u e => entriesOf g s p.1 p.2.type x.2 u = .ok e) terms es ∧
      l = es.flatten

variable {x : TypeId × ContainerMember} {m : Ledger} {state : Ledger × Store}

/-- One set behind others: its entries come behind theirs, and all projections are made anew. -/
theorem restrictSet_eq_ok_iff :
    restrictSet g terms (l, l.materialize s) x = .ok state ↔
      ∃ m, SetEntries g terms s x m ∧ state = (l ++ m, Ledger.materialize (l ++ m) s) := by
  unfold restrictSet SetEntries
  rw [ownProperty?_materialize]
  cases hq : s.ownProperty? x.1 x.2.name with
  | none =>
      constructor
      · intro h
        exact ⟨[], rfl, by rw [List.append_nil, ← Except.ok.inj h]⟩
      · rintro ⟨_, rfl, rfl⟩
        rw [List.append_nil]
        rfl
  | some q =>
      have hp : (l.materialize s).property? q.1 = some (l.projected q.1 q.2) := by
        rw [Ledger.property?_materialize, Store.property?_of_mem_declared (List.mem_of_find?_eq_some hq)]
        rfl
      simp only [Option.map_some, resolveSet, hp, Ledger.type_projected]
      cases happly : applyTerms g (l.materialize s) q.1 q.2.type x.2 terms l with
      | mk l' failed =>
          cases failed with
          | none =>
              obtain ⟨es, hes, rfl⟩ := applyTerms_eq_none_iff.1 happly
              simp only [entriesOf_materialize] at hes
              dsimp only
              rw [Ledger.materialize_append]
              constructor
              · intro h
                exact ⟨_, ⟨es, hes, rfl⟩, (Except.ok.inj h).symm⟩
              · rintro ⟨_, ⟨es', hes', rfl⟩, rfl⟩
                obtain rfl : es = es' := List.right_unique_forall₂'
                  (fun u e e' he he' => Except.ok.inj (he.symm.trans he')) hes hes'
                rfl
          | some f =>
              constructor
              · intro h
                cases h
              · rintro ⟨_, ⟨es, hes, -⟩, -⟩
                have hes : List.Forall₂ (fun u e =>
                    entriesOf g (l.materialize s) q.1 q.2.type x.2 u = .ok e) terms es :=
                  hes.imp fun _ _ he => entriesOf_materialize.2 he
                rw [applyTerms_eq_none_iff.2 ⟨es, hes, rfl⟩] at happly
                cases happly

/-- Several sets behind others: each makes its entries, and the projections are those of all entries. -/
theorem foldlM_restrictSet_eq_ok_iff {xs : List (TypeId × ContainerMember)} :
    xs.foldlM (restrictSet g terms) (l, l.materialize s) = .ok state ↔
      ∃ ls, List.Forall₂ (SetEntries g terms s) xs ls ∧
        state = (l ++ ls.flatten, Ledger.materialize (l ++ ls.flatten) s) := by
  induction xs generalizing l with
  | nil =>
      constructor
      · intro h
        refine ⟨[], .nil, ?_⟩
        rw [List.flatten_nil, List.append_nil]
        exact (Except.ok.inj h).symm
      · rintro ⟨ls, hls, rfl⟩
        cases hls
        rw [List.flatten_nil, List.append_nil]
        rfl
  | cons x xs ih =>
      rw [List.foldlM_cons, bind_eq_ok_iff]
      simp only [restrictSet_eq_ok_iff, List.forall₂_cons_left_iff]
      constructor
      · rintro ⟨_, ⟨m, hm, rfl⟩, hrest⟩
        obtain ⟨ls, hls, rfl⟩ := ih.1 hrest
        refine ⟨_, ⟨m, ls, hm, hls, rfl⟩, ?_⟩
        rw [List.flatten_cons, List.append_assoc]
      · rintro ⟨_, ⟨m, ls, hm, hls, rfl⟩, rfl⟩
        refine ⟨_, ⟨m, hm, rfl⟩, ih.2 ⟨ls, hls, ?_⟩⟩
        rw [List.flatten_cons, List.append_assoc]

/-- All sets succeed exactly if each makes its entries, and then all projections are those of all entries. -/
theorem restrict_eq_ok_iff {containers : List (Container × TypeId)} {s' : Store} :
    restrict g terms containers s = .ok s' ↔
      ∃ ls, List.Forall₂ (SetEntries g terms s) (containerSets containers) ls ∧
        s' = Ledger.materialize ls.flatten s := by
  have hsets : ∀ state, (containerSets containers).foldlM (restrictSet g terms) ([], Ledger.materialize [] s) =
      .ok state ↔ _ := fun _ => foldlM_restrictSet_eq_ok_iff
  rw [Ledger.materialize_nil] at hsets
  unfold restrict
  rw [bind_eq_ok_iff]
  constructor
  · rintro ⟨state, hstate, hs⟩
    obtain ⟨ls, hls, rfl⟩ := (hsets _).1 hstate
    exact ⟨ls, hls, (Except.ok.inj hs).symm⟩
  · rintro ⟨ls, hls, rfl⟩
    exact ⟨_, (hsets _).2 ⟨ls, hls, rfl⟩, rfl⟩

end Entries

end EntityModel.Restriction
