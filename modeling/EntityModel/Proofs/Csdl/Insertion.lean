import EntityModel.Proofs.Csdl.Annotation

/-!
# Readings with notes in between

Annotations that stand somewhere else are noted earlier or later, and nothing else is different. So one reading may do
what another one does and make the notes of a third one in between (`Inserts`). This is kept by whatever goes before or
comes after. It starts with an element that has annotations and the same element without them
(`inserts_noteAnnotations`), and with a part of a list that adds nothing but notes (`inserts_parts`).
-/

namespace EntityModel.Csdl

open Xml (Element)

namespace Reading

variable {α β : Type} {w : Reading Unit} {x y : Reading α}

/-- A reading does what another one does, and in between it makes the notes of a third one. It succeeds where both
do. -/
structure Inserts (w : Reading Unit) (x y : Reading α) : Prop where
  notes : ∀ a notes, y.outcome = .ok (a, notes) → ∃ before more after, w.outcome = .ok ((), more) ∧
    x.outcome = .ok (a, before ++ after) ∧ notes = before ++ more ++ after
  gives : ∀ a, x.Gives a → w.Gives () → y.Gives a

/-- What is read ahead can be read in both. -/
theorem inserts_bind {f g : β → Reading α} {z : Reading β} (h : ∀ b, Inserts w (f b) (g b)) :
    Inserts w (z >>= f) (z >>= g) where
  notes a notes hy := by
    obtain ⟨b, first, others, hz, hg, rfl⟩ := outcome_bind_eq_ok_iff.1 hy
    obtain ⟨before, more, after, hw, hf, rfl⟩ := (h b).notes a others hg
    exact ⟨first ++ before, more, after, hw, outcome_bind_eq_ok_iff.2 ⟨b, _, _, hz, hf, List.append_assoc ..⟩,
      by simp only [List.append_assoc]⟩
  gives a hx hw := by
    obtain ⟨b, hz, hf⟩ := gives_bind_iff.1 hx
    exact gives_bind_iff.2 ⟨b, hz, (h b).gives a hf hw⟩

/-- What is read afterwards can be read in both. -/
theorem Inserts.bind {f : α → Reading β} (h : Inserts w x y) : Inserts w (x >>= f) (y >>= f) where
  notes b notes hy := by
    obtain ⟨a, first, others, hfirst, hf, rfl⟩ := outcome_bind_eq_ok_iff.1 hy
    obtain ⟨before, more, after, hw, hx, rfl⟩ := h.notes a first hfirst
    exact ⟨before, more, after ++ others, hw,
      outcome_bind_eq_ok_iff.2 ⟨a, _, _, hx, hf, (List.append_assoc ..).symm⟩, by simp only [List.append_assoc]⟩
  gives b hx hw := by
    obtain ⟨a, hx, hf⟩ := gives_bind_iff.1 hx
    exact gives_bind_iff.2 ⟨a, h.gives a hx hw, hf⟩

theorem Inserts.map (f : α → β) (h : Inserts w x y) : Inserts w (f <$> x) (f <$> y) := by
  rw [map_eq_pure_bind, map_eq_pure_bind]
  exact h.bind

theorem inserts_fault (f : MetadataFault) : Inserts w (fault f : Reading α) (fault f) where
  notes a notes hy := by cases hy
  gives a hx _ := by
    obtain ⟨notes, hx⟩ := hx
    cases hx

/-- The notes are made first. -/
theorem inserts_before : Inserts w x (w >>= fun _ => x) where
  notes a notes hy := by
    obtain ⟨_, more, after, hw, hx, rfl⟩ := outcome_bind_eq_ok_iff.1 hy
    exact ⟨[], more, after, hw, hx, rfl⟩
  gives _ hx hw := gives_bind_iff.2 ⟨(), hw, hx⟩

/-- It may be taken for granted what the notes and the whole both take. -/
theorem inserts_of_ensures {P : Prop} (hw : w.Ensures fun _ => P) (hy : y.Ensures fun _ => P)
    (h : P → Inserts w x y) : Inserts w x y where
  notes a notes ha := (h (hy a ⟨notes, ha⟩)).notes a notes ha
  gives a hx hw' := (h (hw () hw')).gives a hx hw'

/-- One member of a list is read with more notes. -/
theorem inserts_mapM {f : β → Reading α} {before after : List β} {b b' : β} (h : Inserts w (f b) (f b')) :
    Inserts w ((before ++ b :: after).mapM f) ((before ++ b' :: after).mapM f) := by
  induction before with
  | nil =>
      rw [List.nil_append, List.nil_append, List.mapM_cons, List.mapM_cons]
      exact h.bind
  | cons c before ih =>
      rw [List.cons_append, List.cons_append, List.mapM_cons, List.mapM_cons]
      exact inserts_bind fun _ => ih.bind

/-! ## Names -/

section Names

variable {e e' : Element} {es es' before after : List Element}

theorem inspect_cons : inspect (e :: es) = look e >>= fun _ => inspect es := rfl

theorem look_eq_of_name (h : e'.name = e.name) : look e' = look e := by
  rw [look, h, look]

theorem look_eq_pure (h : e.name.stray? = none) : look e = pure () := by
  rw [look, h]

/-- Only names are looked at. -/
theorem inspect_eq_of_names (h : es'.map (·.name) = es.map (·.name)) : inspect es' = inspect es := by
  induction es generalizing es' with
  | nil =>
      obtain rfl : es' = [] := by simpa using h
      rfl
  | cons e es ih =>
      obtain ⟨e', rest, rfl, hname, hrest⟩ := List.map_eq_cons_iff.1 h
      rw [inspect_cons, inspect_cons, look_eq_of_name hname, ih hrest]

/-- An element with a name may be looked at besides. -/
theorem inspect_append_cons (h : e.name.stray? = none) :
    inspect (before ++ e :: after) = inspect (before ++ after) := by
  induction before with
  | nil =>
      rw [List.nil_append, List.nil_append, inspect_cons, look_eq_pure h, pure_bind]
  | cons c before ih => rw [List.cons_append, List.cons_append, inspect_cons, inspect_cons, ih]

end Names

/-! ## Parts -/

section Parts

variable {γ : Type} {f : β → Reading (Option α)} {k : List α → Reading γ} {b : β} {bs before after : List β}

theorem bind_mapM_cons :
    ((b :: bs).mapM f >>= fun parts => k (parts.filterMap id)) =
      f b >>= fun part => bs.mapM f >>= fun parts => k (part.toList ++ parts.filterMap id) := by
  rw [List.mapM_cons]
  simp only [bind_assoc, pure_bind, List.filterMap_cons]
  refine bind_congr fun part => bind_congr fun parts => ?_
  cases part <;> rfl

/-- One more member of a list adds nothing but notes. -/
theorem inserts_parts (h : f b = w >>= fun _ => pure none) :
    Inserts w ((before ++ after).mapM f >>= fun parts => k (parts.filterMap id))
      ((before ++ b :: after).mapM f >>= fun parts => k (parts.filterMap id)) := by
  induction before generalizing k with
  | nil =>
      rw [List.nil_append, List.nil_append, bind_mapM_cons, h, bind_assoc]
      simp only [pure_bind, Option.toList_none, List.nil_append]
      exact inserts_before
  | cons c before ih =>
      rw [List.cons_append, List.cons_append, bind_mapM_cons, bind_mapM_cons]
      exact inserts_bind fun part => ih (k := fun parts => k (part.toList ++ parts))

/-- Members of a list that add nothing may be left out. -/
theorem bind_mapM_filter {p : β → Bool} (h : ∀ b ∈ bs, p b = false → f b = pure none) :
    ((bs.filter p).mapM f >>= fun parts => k (parts.filterMap id)) =
      bs.mapM f >>= fun parts => k (parts.filterMap id) := by
  induction bs generalizing k with
  | nil => rfl
  | cons b bs ih =>
      have hrest := fun c hc => h c (List.mem_cons_of_mem b hc)
      rw [bind_mapM_cons, List.filter_cons]
      cases hb : p b with
      | true =>
          rw [if_pos rfl, bind_mapM_cons]
          exact bind_congr fun part => ih (k := fun parts => k (part.toList ++ parts)) hrest
      | false =>
          rw [if_neg Bool.false_ne_true, h b List.mem_cons_self hb, pure_bind]
          exact ih hrest

theorem inserts_filter (k k' : List α → Reading γ) {p : β → Bool} (h : ∀ b ∈ bs, p b = false → f b = pure none)
    (hk : ∀ parts, Inserts w (k parts) (k' parts)) :
    Inserts w ((bs.filter p).mapM f >>= fun parts => k (parts.filterMap id))
      (bs.mapM f >>= fun parts => k' (parts.filterMap id)) := by
  rw [bind_mapM_filter h]
  exact inserts_bind fun _ => hk _

end Parts

end Reading

open Reading (Inserts inserts_bind inserts_mapM inserts_parts inserts_of_ensures outcome_inspect_eq_ok_iff)

/-! ## Elements without their own annotations -/

/-- An element without the annotations among its child elements. -/
def bared : Element → Element
  | .mk n as t cs => .mk n as t (cs.filter fun c => !annotationElements.contains c.localName)

section Elements

variable {aliases : Aliases} {target : String} {e b : Element} {names : List String}

theorem mem_childrenNamed {c : Element} : c ∈ e.childrenNamed names ↔ c ∈ e.children ∧ c.localName ∈ names := by
  simp [Element.childrenNamed]

theorem flatMap_childrenNamed {α : Type} {e : Element} {names : List String} {f : Element → List α} :
    (e.childrenNamed names).flatMap f = e.children.flatMap fun c => if c.localName ∈ names then f c else [] := by
  rw [Element.childrenNamed]
  induction e.children with
  | nil => rfl
  | cons c cs ih =>
      rw [List.flatMap_cons, ← ih, List.filter_cons]
      by_cases hc : c.localName ∈ names
      · simp [hc]
      · simp [hc]

theorem children_bared (e : Element) :
    (bared e).children = e.children.filter fun c => !annotationElements.contains c.localName := by
  cases e
  rfl

theorem childrenNamed_bared : (bared e).childrenNamed annotationElements = [] := by
  rw [Element.childrenNamed, children_bared, List.filter_filter]
  exact List.filter_eq_nil_iff.2 fun c _ => by simp

theorem childrenNamed_of_children (h : b.children = e.childrenNamed names) :
    b.childrenNamed names = e.childrenNamed names := by
  rw [Element.childrenNamed, h, Element.childrenNamed, List.filter_filter]
  simp

theorem noteAnnotations_of_children (h : b.children = e.children) :
    noteAnnotations aliases target b = noteAnnotations aliases target e := by
  rw [noteAnnotations, h, noteAnnotations]

theorem noteAnnotations_ensures :
    (noteAnnotations aliases target e).Ensures fun _ => ∀ c ∈ e.children, c.name.stray? = none := by
  rintro ⟨⟩ ⟨notes, h⟩
  exact (outcome_noteAnnotations_eq_ok_iff.1 h).1

/-- An element with annotations is noted like the same element without them and the annotations in between, wherever
they stand. -/
theorem inserts_noteAnnotations (hb : b.children = e.childrenNamed annotationElements) :
    Inserts (noteAnnotations aliases target b) (noteAnnotations aliases target (bared e))
      (noteAnnotations aliases target e) where
  notes := by
    rintro ⟨⟩ notes h
    obtain ⟨hnames, hnotes⟩ := outcome_noteAnnotations_eq_ok_iff.1 h
    refine ⟨[], notes, [], outcome_noteAnnotations_eq_ok_iff.2 ⟨fun c hc => ?_, ?_⟩,
      outcome_noteAnnotations_eq_ok_iff.2 ⟨fun c hc => ?_, ?_⟩, (List.append_nil _).symm⟩
    · rw [hb] at hc
      exact hnames c (mem_childrenNamed.1 hc).1
    · rwa [childrenNamed_of_children hb]
    · rw [children_bared] at hc
      exact hnames c (List.mem_filter.1 hc).1
    · rw [childrenNamed_bared]
      exact .nil
  gives := by
    rintro ⟨⟩ ⟨_, hx⟩ ⟨notes, hw⟩
    obtain ⟨hothers, -⟩ := outcome_noteAnnotations_eq_ok_iff.1 hx
    obtain ⟨hnames, hnotes⟩ := outcome_noteAnnotations_eq_ok_iff.1 hw
    refine ⟨notes, outcome_noteAnnotations_eq_ok_iff.2 ⟨fun c hc => ?_, ?_⟩⟩
    · by_cases hname : c.localName ∈ annotationElements
      · exact hnames c (hb ▸ mem_childrenNamed.2 ⟨hc, hname⟩)
      · refine hothers c ?_
        rw [children_bared]
        exact List.mem_filter.2 ⟨hc, by simpa using hname⟩
    · rwa [childrenNamed_of_children hb] at hnotes

end Elements

end EntityModel.Csdl
