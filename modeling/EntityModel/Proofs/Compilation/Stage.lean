import EntityModel.Proofs.Alignment
import EntityModel.Proofs.Compilation.Filling

/-!
# Walks while the classes are being filled

The structured types are filled in the order of their declaration, and the key paths of each are followed at
once. So a walk sees the classes before this one as they will stay, and those behind it without base and
properties. `simulates_replay` compares such a stage with a later one: what a walk has found stays found, as long
as only classes are changed that were blank before. With that, the filling of all structured types is told
in terms of the draft behind it (`fillAll_post`), keys included.
-/

namespace EntityModel.Compilation

open CodeModel
open Edm (Graph StructuredType)

/-! ## Classes that are changed apart from each other -/

section Apart

variable {α : Type} {Q : α × TypeId → List Change → Prop} {l : List (α × TypeId)} {css : List (List Change)}

/-- No change of a list is about a class that none of its parts is about. -/
theorem about_flatten_of_not_mem (hothers : ∀ {x cs}, Q x cs → ∀ u, u ≠ x.2 → about u cs = [])
    (h : List.Forall₂ Q l css) {u : TypeId} (hu : u ∉ l.map (·.2)) : about u css.flatten = [] := by
  induction h with
  | nil => rfl
  | cons hx _ ih =>
      rw [List.map_cons, List.mem_cons, not_or] at hu
      rw [List.flatten_cons, about_append, hothers hx u hu.1, ih hu.2]
      rfl

/-- If each part is about a class of its own, the changes of a class are those of its part. -/
theorem about_flatten_of_mem (hothers : ∀ {x cs}, Q x cs → ∀ u, u ≠ x.2 → about u cs = [])
    (h : List.Forall₂ Q l css) (hnodup : (l.map (·.2)).Nodup) {x : α × TypeId} (hx : x ∈ l) :
    ∃ cs, Q x cs ∧ about x.2 css.flatten = about x.2 cs := by
  induction h with
  | nil => cases hx
  | @cons y cs l css hy hrest ih =>
      rw [List.map_cons, List.nodup_cons] at hnodup
      rw [List.flatten_cons]
      rcases List.mem_cons.1 hx with rfl | hx
      · refine ⟨cs, hy, ?_⟩
        rw [about_append, about_flatten_of_not_mem hothers hrest hnodup.1, List.append_nil]
      · have hne : x.2 ≠ y.2 := fun he => hnodup.1 (he ▸ List.mem_map_of_mem hx)
        obtain ⟨cs', hq, habout⟩ := ih hnodup.2 hx
        refine ⟨cs', hq, ?_⟩
        rw [about_append, hothers hy x.2 hne, List.nil_append, habout]

end Apart

/-! ## Closed changes -/

/-- A type is a declared class or a primitive type. -/
def IsKnown (g : Graph) (n : Nat) (s : Store) (t : TypeId) : Prop :=
  (∃ x, (x, t) ∈ placed g n) ∨ ∃ name, s.type? t = some ⟨name, .primitive⟩

/-- A change gives a class no base and no property that leads elsewhere than to known types. -/
def Change.IsClosed (g : Graph) (n : Nat) (s : Store) : Change → Prop
  | .base _ b => ∃ x, (x, b) ∈ placed g n
  | .property _ x => IsKnown g n s x.type
  | _ => True

/-- A declared class stands for itself. -/
def Same (g : Graph) (n : Nat) (t t' : TypeId) : Prop := t = t' ∧ ∃ x, (x, t) ∈ placed g n

section Stages

variable {g : Graph} {n : Nat} {ps : List QualifiedName} {d : Draft} {name : QualifiedName} {t : TypeId}

variable {s : Store} {cs cs' : List Change}

theorem exists_placed_of_some (h : place? g n name = some t) : ∃ x, (x, t) ∈ placed g n := by
  obtain ⟨x, hx, -⟩ := exists_placed_of_place? h
  exact ⟨x, hx⟩

theorem Means.isKnown (h : Means g n s name t) : IsKnown g n s t := by
  rw [Means] at h
  split at h
  · exact .inr ⟨name, h⟩
  · exact .inl (exists_placed_of_some h)

theorem IsKnown.exists_placed (h : IsKnown g n s t) (hc : s.isClass t) : ∃ x, (x, t) ∈ placed g n := by
  rcases h with h | ⟨name, h⟩
  · exact h
  · rw [Store.isClass, Store.class?, h] at hc
    cases hc

/-- A declared class has the last base and the properties that some changes give it. -/
theorem exists_class_replay {x : Declaration} (cs : List Change) (hx : (x, t) ∈ placed g s.types.length) :
    ∃ k, ((declareAll (declarations g) { store := s }).replay cs).store.class? t = some k ∧
      k.base = ((about t cs).filterMap Change.base?).getLast? ∧
      (((declareAll (declarations g) { store := s }).replay cs).store.declared t).map (·.2) =
        ((about t cs).filterMap Change.property?).map fun y => owned t y.2 := by
  have hclass := class?_declareAll (d := { store := s }) hx
  obtain ⟨k, hk⟩ := Draft.class?_replay cs hclass
  refine ⟨k, hk.class?, ?_, ?_⟩
  · rw [hk.base, x.base_detail, Option.or_none]
  · rw [Draft.declared_replay hclass x.properties_detail, map_snd_gained]

/-- What a walk finds in a stage it finds in a later one, if only classes get a base or properties that were
blank before. -/
theorem simulates_replay (cs' : List Change)
    (hclosed : ∀ x ∈ cs, x.IsClosed g s.types.length
      ((declareAll (declarations g) { store := s }).replay cs).store)
    (hlater : ∀ {x t}, (x, t) ∈ placed g s.types.length →
      about t cs = [] ∨ ∀ y ∈ about t cs', y.base? = none ∧ y.property? = none) :
    Store.Simulates (Same g s.types.length) Eq
      ((declareAll (declarations g) { store := s }).replay cs).store
      ((declareAll (declarations g) { store := s }).replay (cs ++ cs')).store where
  classes {t t' k} hr hk := by
    obtain ⟨rfl, x, hx⟩ := hr
    have hclass := class?_declareAll (d := { store := s }) hx
    have hproperties := x.properties_detail
    obtain ⟨k₁, hk₁⟩ := Draft.class?_replay cs hclass
    obtain ⟨k₂, hk₂⟩ := Draft.class?_replay (cs ++ cs') hclass
    obtain rfl : k₁ = k := by simpa [hk₁.class?] using hk
    refine ⟨k₂, hk₂.class?, ?_⟩
    rw [Draft.declared_replay hclass hproperties, Draft.declared_replay hclass hproperties]
    -- The class is blank in the first stage, or the later changes give it neither a base nor a property.
    rcases hlater hx with hblank | hkept
    · left
      constructor
      · rw [hk₁.base, hblank, x.base_detail]
        rfl
      · exact gained_eq_nil (by simp [hblank])
    · right
      constructor
      · have hnone : (about t cs').filterMap Change.base? = [] :=
          List.filterMap_eq_nil_iff.2 fun y hy => (hkept y hy).1
        have hbase : k₂.base = k₁.base := by
          rw [hk₁.base, hk₂.base, about_append, List.filterMap_append, hnone, List.append_nil]
        rw [hbase]
        cases hb : k₁.base with
        | none => exact .none
        | some b =>
            rw [hk₁.base, x.base_detail, Option.or_none] at hb
            exact .some ⟨rfl, hclosed _ (base_mem_of_mem (List.mem_of_getLast? hb))⟩
      · rw [gained_append, gained_eq_nil fun y hy => (hkept y hy).2, List.append_nil]
        refine List.forall₂_same.2 ?_
        rintro ⟨p, z⟩ hz
        refine ⟨rfl, rfl, fun hc => ⟨rfl, ?_⟩⟩
        obtain ⟨y, -, hy, rfl⟩ := mem_gained.1 hz
        exact (hclosed _ (mem_added.1 (List.mem_of_getElem? hy))).exists_placed hc
  lineage _ := ⟨_, by rw [Draft.replay_append]; exact Draft.completes_replay.length_types_le, rfl⟩

/-! ## All structured types -/

/-- The changes by which the class of a structured type gets its members and its key. -/
def IsFilling (g : Graph) (n : Nat) (s : Store) (t : StructuredType) (c : TypeId) (own : List Change) :
    Prop :=
  ∃ (members : List Change) (ps : List PropertyId), own = members ++ ps.map (.key c) ∧
    IsMembers g n s t c members ∧
    List.Forall₂ (fun path p => s.findProperty c path = .ok p) t.key ps

/-- Some changes fill the class of a structured type and do nothing else. -/
def Filled (g : Graph) (n : Nat) (s : Store) (x : StructuredType × TypeId) (cs : List Change) : Prop :=
  ∃ own, IsFilling g n s x.1 x.2 own ∧ Logged x.2 own (memberNames g x.1) cs

theorem IsMembers.isClosed {t : StructuredType} {c : TypeId} {own : List Change}
    (h : IsMembers g n s t c own) : ∀ x ∈ own, x.IsClosed g n s := by
  obtain ⟨base, xs, ys, rfl, hbase, hxs, hys⟩ := h
  intro x hx
  rcases List.mem_append.1 hx with hx | hx
  · obtain ⟨b, hb, rfl⟩ := List.mem_map.1 hx
    obtain rfl := Option.mem_toList.1 hb
    obtain ⟨w, -, hw⟩ := Alignment.exists_of_some_right hbase
    exact exists_placed_of_some hw
  · obtain ⟨y, hy, rfl⟩ := List.mem_map.1 hx
    rcases List.mem_append.1 hy with hy | hy
    · obtain ⟨p, -, u, hu, rfl⟩ := Alignment.exists_of_mem_right hxs hy
      exact hu.isKnown
    · obtain ⟨p, -, u, hu, rfl⟩ := Alignment.exists_of_mem_right hys hy
      exact .inl (exists_placed_of_some hu)

theorem IsFilling.isClosed {t : StructuredType} {c : TypeId} {own : List Change}
    (h : IsFilling g n s t c own) : ∀ x ∈ own, x.IsClosed g n s := by
  obtain ⟨members, ps, rfl, hmembers, -⟩ := h
  intro x hx
  rcases List.mem_append.1 hx with hx | hx
  · exact hmembers.isClosed x hx
  · obtain ⟨p, -, rfl⟩ := List.mem_map.1 hx
    trivial

theorem IsFilling.mono {s' : Store} {t : StructuredType} {c : TypeId} {own : List Change}
    (hs : s.Completes s') (hsim : s.Simulates (Same g n) Eq s') (hc : ∃ x, (x, c) ∈ placed g n)
    (h : IsFilling g n s t c own) : IsFilling g n s' t c own := by
  obtain ⟨members, ps, hown, hmembers, hkeys⟩ := h
  refine ⟨members, ps, hown, hmembers.mono hs, hkeys.imp fun path p hp => ?_⟩
  obtain ⟨p', hp', rfl⟩ := hsim.findProperty ⟨rfl, hc⟩ hp
  exact hp'

theorem Filled.others {x : StructuredType × TypeId} (h : Filled g n s x cs) :
    ∀ u, u ≠ x.2 → about u cs = [] := by
  obtain ⟨own, -, hlogged⟩ := h
  exact hlogged.others

theorem Filled.isClosed {x : StructuredType × TypeId} (h : Filled g n s x cs) :
    ∀ y ∈ cs, y.IsClosed g n s := by
  obtain ⟨own, hfilling, hlogged⟩ := h
  exact hlogged.forall_mem (fun _ => trivial) hfilling.isClosed

theorem isClosed_of_filled {l : List (StructuredType × TypeId)} {css : List (List Change)}
    (h : List.Forall₂ (Filled g n s) l css) : ∀ y ∈ css.flatten, y.IsClosed g n s := by
  intro y hy
  obtain ⟨cs, hcs, hy⟩ := List.mem_flatten.1 hy
  obtain ⟨x, -, hx⟩ := Alignment.exists_of_mem_right h hcs
  exact hx.isClosed y hy

theorem Filled.mono {s' : Store} {x : StructuredType × TypeId} (hs : s.Completes s')
    (hsim : s.Simulates (Same g n) Eq s') (hc : ∃ z, (z, x.2) ∈ placed g n) (h : Filled g n s x cs) :
    Filled g n s' x cs := by
  obtain ⟨own, hfilling, hlogged⟩ := h
  exact ⟨own, hfilling.mono hs hsim hc, hlogged⟩

theorem fillStructured_post {t : StructuredType} {c : TypeId} {d' : Draft} (h : Declares g n ps d)
    (hrun : fillStructured g t c d = .ok ((), d')) :
    ∃ cs, d' = d.replay cs ∧ Filled g n d'.store (t, c) cs := by
  rw [fillStructured_eq] at hrun
  obtain ⟨_, d₁, hmembers, hkeys⟩ := Build.bind_apply_eq_ok_iff.1 hrun
  obtain ⟨cs, own, rfl, hown, hlogged⟩ := (fillMembers_yields h).post hmembers
  obtain ⟨qs, rfl, hqs⟩ := addKeys_yields.post hkeys
  refine ⟨cs ++ qs.map (.key c), by rw [Draft.replay_append], own ++ qs.map (.key c),
    ⟨own, qs, rfl, hown.mono Draft.completes_replay, hqs⟩, ?_⟩
  have hkeyLog : Logged c (qs.map (.key c)) [] (qs.map (.key c)) := .of_owner (by simp [Change.owner?])
  simpa using hlogged.append hkeyLog

/-- How the structured types have been filled up to some point. -/
def FilledUpTo (g : Graph) (s : Store) (pre : List (StructuredType × TypeId)) (d : Draft) : Prop :=
  ∃ css, d = (declareAll (declarations g) { store := s }).replay css.flatten ∧
    List.Forall₂ (Filled g s.types.length d.store) pre css

theorem FilledUpTo.declares {pre : List (StructuredType × TypeId)} (h : FilledUpTo g s pre d) :
    ∃ ps, Declares g s.types.length ps d := by
  obtain ⟨css, rfl, -⟩ := h
  exact ⟨_, (Declares.declareAll s).replay _⟩

/-- One more type is filled, and the ones before it stay filled. -/
theorem FilledUpTo.step {pre post : List (StructuredType × TypeId)} {x : StructuredType × TypeId}
    {d' : Draft} (hall : structuredOf (placed g s.types.length) = pre ++ x :: post)
    (h : FilledUpTo g s pre d) (hrun : fillStructured g x.1 x.2 d = .ok ((), d')) :
    FilledUpTo g s (pre ++ [x]) d' := by
  obtain ⟨ps, hd⟩ := h.declares
  obtain ⟨css, rfl, hcss⟩ := h
  obtain ⟨cs, rfl, hcs⟩ := fillStructured_post hd hrun
  have hplaced : ∀ y ∈ pre ++ x :: post, ∃ z, (z, y.2) ∈ placed g s.types.length := by
    intro y hy
    obtain ⟨z, hz, -⟩ := mem_select.1 (hall ▸ hy)
    exact ⟨z, hz⟩
  have hnodup : ((pre ++ x :: post).map (·.2)).Nodup := hall ▸ nodup_select nodup_placedFrom
  have hnew : x.2 ∉ pre.map (·.2) := by
    rw [List.map_append, List.map_cons, List.nodup_append] at hnodup
    exact fun hx => hnodup.2.2 _ hx _ List.mem_cons_self rfl
  have hsim := simulates_replay cs (isClosed_of_filled hcss) fun {z t} _ => by
    by_cases ht : t = x.2
    · subst ht
      exact .inl (about_flatten_of_not_mem (fun h => Filled.others h) hcss hnew)
    · right
      rw [hcs.others t ht]
      simp
  rw [Draft.replay_append] at hsim
  refine ⟨css ++ [cs], by simp [Draft.replay_append], List.rel_append ?_ (.cons hcs .nil)⟩
  exact Alignment.imp_of_mem hcss fun y cs' hy hfilled =>
    hfilled.mono Draft.completes_replay hsim (hplaced y (List.mem_append_left _ hy))

/-- All structured types are filled, each in terms of the draft behind all of them. -/
theorem fillAll_post {d' : Draft}
    (hrun : (structuredOf (placed g s.types.length)).forM (fun t => fillStructured g t.1 t.2)
      (declareAll (declarations g) { store := s }) = .ok ((), d')) :
    FilledUpTo g s (structuredOf (placed g s.types.length)) d' :=
  Build.forM_post (fun _ _ _ _ _ hall h hrun => h.step hall hrun) ⟨[], rfl, .nil⟩ hrun

end Stages

end EntityModel.Compilation
