import EntityModel.Proofs.Compilation.Key
import EntityModel.Proofs.Compilation.Service

/-!
# When a graph can be built

Building a graph fails for two reasons only: a reference leads nowhere, or a key path does. Where references lead
does not depend on the order of the declarations. Where key paths lead does: each is followed among the types
declared up to its own (`build_ok_iff`).
-/

namespace EntityModel.Compilation

open CodeModel
open Edm (Graph StructuredType Container)

/-- All references of a graph lead somewhere, apart from key paths. -/
structure References (g : Graph) : Prop where
  /-- Those of the members of structured types. -/
  members : ∀ t ∈ structuredTypes g, MembersLead g t
  /-- Those of bound operations. -/
  bound : ∀ o ∈ g.operations, BoundLeads g o
  /-- Those of containers. -/
  containers : ∀ x ∈ g.containers, ContainerLeads g x

section Splits

variable {α β : Type}

/-- What holds wherever a list is split may be said of the list of images. -/
theorem forall_split_map_iff {f : α → β} {C : List β → β → Prop} {as : List α} :
    (∀ pre a post, as = pre ++ a :: post → C (pre.map f) (f a)) ↔
      ∀ pre b post, as.map f = pre ++ b :: post → C pre b := by
  constructor
  · intro h pre b post hsplit
    obtain ⟨pre, rest, rfl, rfl, hrest⟩ := List.map_eq_append_iff.1 hsplit
    obtain ⟨a, post, rfl, rfl, rfl⟩ := List.map_eq_cons_iff.1 hrest
    exact h pre a post rfl
  · rintro h pre a post rfl
    exact h (pre.map f) (f a) (post.map f) (by simp)

/-- A part that does not depend on the split holds of each member. -/
theorem forall_split_and_iff {P : β → Prop} {C : List β → β → Prop} {bs : List β} :
    (∀ pre b post, bs = pre ++ b :: post → P b ∧ C pre b) ↔
      (∀ b ∈ bs, P b) ∧ ∀ pre b post, bs = pre ++ b :: post → C pre b := by
  constructor
  · intro h
    refine ⟨fun b hb => ?_, fun pre b post hsplit => (h pre b post hsplit).2⟩
    obtain ⟨pre, post, hsplit⟩ := List.append_of_mem hb
    exact (h pre b post hsplit).1
  · rintro ⟨hall, hsplits⟩ pre b post hsplit
    exact ⟨hall b (by simp [hsplit]), hsplits pre b post hsplit⟩

end Splits

section Filling

variable {g : Graph} {s : Store} {d : Draft} {pre post : List (StructuredType × TypeId)}
variable {x : StructuredType × TypeId}

/-- A structured type is filled if its members lead somewhere and its key paths find members among the types
declared up to it. -/
theorem fillStructured_yields (hnames : DistinctTypes g) (hbases : AcyclicBases g)
    (hall : structuredOf (placed g s.types.length) = pre ++ x :: post) (hpre : ∀ y ∈ pre, MembersLead g y.1)
    (h : FilledUpTo g s pre d) :
    (fillStructured g x.1 x.2).Yields d
      (MembersLead g x.1 ∧ ∀ path ∈ x.1.key,
        Finds g ((pre ++ [x]).map (·.1)) x.1 (Text.segments '.' path))
      fun _ d' => FilledUpTo g s (pre ++ [x]) d' := by
  obtain ⟨ps, hd⟩ := h.declares
  have hplaced : (.type (.structured x.1), x.2) ∈ placed g s.types.length :=
    placed_of_structuredOf (hall ▸ by simp)
  have hfill : (fillStructured g x.1 x.2).Yields d
      (MembersLead g x.1 ∧ ∀ path ∈ x.1.key,
        Finds g ((pre ++ [x]).map (·.1)) x.1 (Text.segments '.' path)) fun _ _ => True := by
    rw [fillStructured_eq]
    refine (fillMembers_yields hd).and_cond.bind fun _ d₁ hd₁ => ?_
    obtain ⟨hlead, cs, own, rfl, hown, hlogged⟩ := hd₁
    refine addKeys_yields.imp ?_ fun _ _ _ => trivial
    obtain ⟨css, rfl, hcss⟩ := h
    have hstage : IsStage g s.types.length (pre ++ [x]) _ :=
      isStage_of_filled hall (Draft.replay_append).symm Draft.completes_replay
        (List.forall_mem_append.2 ⟨hpre, by simpa using hlead⟩) hcss hown hlogged
    refine forall_congr' fun path => imp_congr_right fun _ => ?_
    exact hstage.findProperty_iff hnames (fun hy => hstage.hasBases.exists_isLineage hbases hy) hplaced
  exact ⟨hfill.ok_iff, fun hrun => h.step hall hrun⟩

theorem fillAll_yields (hnames : DistinctTypes g) (hbases : AcyclicBases g) :
    ((structuredOf (placed g s.types.length)).forM fun t => fillStructured g t.1 t.2).Yields
      (declareAll (declarations g) { store := s })
      ((∀ t ∈ structuredTypes g, MembersLead g t) ∧ KeysInTime g)
      fun _ d' => FilledUpTo g s (structuredOf (placed g s.types.length)) d' := by
  let I (pre : List (StructuredType × TypeId)) (d : Draft) :=
    FilledUpTo g s pre d ∧ ∀ y ∈ pre, MembersLead g y.1
  let C (pre : List StructuredType) (t : StructuredType) :=
    MembersLead g t ∧ ∀ path ∈ t.key, Finds g (pre ++ [t]) t (Text.segments '.' path)
  -- The invariant also keeps that the members of the types filled so far lead somewhere: a stage needs it.
  suffices hvisit : ((structuredOf (placed g s.types.length)).forM fun t => fillStructured g t.1 t.2).Yields
      (declareAll (declarations g) { store := s })
      (∀ pre x post, structuredOf (placed g s.types.length) = pre ++ x :: post → C (pre.map (·.1)) x.1)
      fun _ d' => I (structuredOf (placed g s.types.length)) d' by
    refine hvisit.imp ?_ fun _ _ h => h.1
    rw [forall_split_map_iff (f := Prod.fst) (C := C), map_fst_structuredOf]
    exact forall_split_and_iff
  refine Build.Yields.forM ?_ ⟨⟨[], rfl, .nil⟩, by simp⟩
  rintro pre x post d hall ⟨hd, hpre⟩
  refine (fillStructured_yields hnames hbases hall hpre hd).and_cond.imp (by simp [C]) ?_
  rintro _ d' ⟨⟨hlead, -⟩, hd'⟩
  exact ⟨hd', List.forall_mem_append.2 ⟨hpre, by simpa using hlead⟩⟩

/-- A graph can be built exactly if its references lead somewhere and its key paths are in time. -/
theorem build_ok_iff (hnames : DistinctTypes g) (hbases : AcyclicBases g) :
    (∃ r, build g { store := s } = .ok r) ↔ References g ∧ KeysInTime g := by
  have hconditions : (True ∧ ((∀ t ∈ structuredTypes g, MembersLead g t) ∧ KeysInTime g) ∧
      (∀ o ∈ g.operations, BoundLeads g o) ∧
      (∀ x ∈ containersOf (placed g s.types.length), ContainerLeads g x.1) ∧ True) ↔
      References g ∧ KeysInTime g := by
    have hcontainers : (∀ x ∈ containersOf (placed g s.types.length), ContainerLeads g x.1) ↔
        ∀ x ∈ g.containers, ContainerLeads g x := by
      rw [← map_fst_containersOf (n := s.types.length), List.forall_mem_map]
    rw [hcontainers]
    exact ⟨fun ⟨_, ⟨hm, hk⟩, ho, hc, _⟩ => ⟨⟨hm, ho, hc⟩, hk⟩,
      fun ⟨⟨hm, ho, hc⟩, hk⟩ => ⟨trivial, ⟨hm, hk⟩, ho, hc, trivial⟩⟩
  have hrun : (build g).Yields { store := s } (References g ∧ KeysInTime g) fun _ _ => True := by
    rw [← hconditions]
    refine (Build.Yields.of_eq_ok (declareTypes_eq g (d := { store := s })) (P := fun x d =>
      x = { structured := structuredOf (placed g s.types.length),
            containers := containersOf (placed g s.types.length) } ∧
        d = declareAll (declarations g) { store := s }) ⟨rfl, rfl⟩).bind fun x d hx => ?_
    obtain ⟨rfl, rfl⟩ := hx
    refine (fillAll_yields hnames hbases).bind fun _ d₁ hd₁ => ?_
    obtain ⟨ps, hd₁⟩ := hd₁.declares
    refine (forM_yields (Q := Bound g s.types.length) (fun hs hb => hb.mono hs) addBound_yields hd₁).bind
      fun _ d₂ hd₂ => ?_
    obtain ⟨bs, rfl, -⟩ := hd₂
    refine (forM_yields (Q := Offered g s.types.length) (fun hs hb => hb.mono hs)
      (fun hd => fillContainer_yields hd) (hd₁.replay _)).bind fun _ _ _ => Build.Yields.pure trivial
  exact hrun.ok_iff

end Filling

end EntityModel.Compilation
