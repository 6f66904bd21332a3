import EntityModel.Proofs.Csdl.Document

/-!
# What annotations note

The value of an annotation is read without a note. So of an element with a target one note is made for each of its child
elements that is an annotation, in order, and nothing else (`outcome_noteAnnotations_eq_ok_iff`).
-/

namespace EntityModel.Csdl

open Xml (Element)
open Edm
open Reading (notesOnly_look notesOnly_literal notesOnly_pure notesOnly_fault outcome_look_eq_ok_iff)

variable {aliases : Aliases} {target : String} {e : Element} {N : Note → Prop} {notes : List Note}

/-! ## Values -/

theorem notesOnly_valueAttribute {value : Reading (Option Expression)} (h : valueAttribute? e = some value) :
    value.NotesOnly N := by
  unfold valueAttribute? at h
  split at h
  · obtain rfl := Option.some.inj h
    exact ((notesOnly_literal _).map _).map _
  · obtain ⟨_, -, rfl⟩ := Option.map_eq_some_iff.1 h
    exact notesOnly_pure _

mutual

/-- The value of an annotation is read without any note. -/
theorem notesOnly_readExpression (aliases : Aliases) : ∀ e, (readExpression aliases e).NotesOnly N
  | .mk name as t cs => by
      rw [readExpression]
      refine (notesOnly_look _).bind fun _ => ?_
      split
      · exact ((notesOnly_literal _).map _).map _
      · split
        · exact notesOnly_pure _
        · split
          · exact (notesOnly_readElements aliases cs).map _
          · split
            · exact (notesOnly_readProperties aliases cs).map _
            · split
              · exact notesOnly_pure _
              · exact notesOnly_pure _

theorem notesOnly_readElements (aliases : Aliases) : ∀ cs, (readElements aliases cs).NotesOnly N
  | [] => by
      rw [readElements]
      exact notesOnly_pure _
  | c :: cs => by
      rw [readElements]
      exact (notesOnly_readExpression aliases c).bind fun _ => (notesOnly_readElements aliases cs).bind fun _ =>
        notesOnly_pure _

theorem notesOnly_readProperties (aliases : Aliases) : ∀ cs, (readProperties aliases cs).NotesOnly N
  | [] => by
      rw [readProperties]
      exact notesOnly_pure _
  | c :: cs => by
      rw [readProperties]
      refine (notesOnly_look c).bind fun _ => ?_
      split
      · exact (notesOnly_readValue aliases c).bind fun _ => (notesOnly_readProperties aliases cs).bind fun _ =>
          notesOnly_pure _
      · exact notesOnly_readProperties aliases cs

theorem notesOnly_readValue (aliases : Aliases) : ∀ e, (readValue aliases e).NotesOnly N
  | .mk name as t cs => by
      rw [readValue]
      split
      · next value h => exact notesOnly_valueAttribute h
      · exact notesOnly_readFirst aliases cs

theorem notesOnly_readFirst (aliases : Aliases) : ∀ cs, (readFirst aliases cs).NotesOnly N
  | [] => by
      rw [readFirst]
      exact notesOnly_pure _
  | c :: cs => by
      rw [readFirst]
      refine (notesOnly_readExpression aliases c).bind fun value => ?_
      cases value with
      | some value => exact notesOnly_pure _
      | none => exact notesOnly_readFirst aliases cs

end

theorem notesOnly_readAnnotated : (readAnnotated aliases e).NotesOnly N := by
  unfold readAnnotated
  split
  · exact notesOnly_fault _
  · exact (notesOnly_readValue aliases e).bind fun _ => notesOnly_pure _

/-! ## Notes -/

/-- A note is made of an annotation for a target. -/
def IsNoteOf (aliases : Aliases) (target : String) (c : Element) (n : Note) : Prop :=
  ∃ a, (readAnnotated aliases c).Gives a ∧ n = .annotated target a

/-- Looks at one child element of a target, and notes it if it is an annotation. -/
def noteIfAnnotated (aliases : Aliases) (target : String) (c : Element) : Reading Unit := do
  Reading.look c
  if annotationElements.contains c.localName then
    Reading.note (.annotated target (← readAnnotated aliases c))

theorem noteAnnotations_eq_forM :
    noteAnnotations aliases target e = e.children.forM (noteIfAnnotated aliases target) := by
  have hunit : ∀ x : Reading (List Unit), discard x = x >>= fun _ => pure () := fun _ => rfl
  have hall : ∀ cs : List Element, (cs.mapM (noteIfAnnotated aliases target) >>= fun _ => pure ()) =
      cs.forM (noteIfAnnotated aliases target) := by
    intro cs
    induction cs with
    | nil => rfl
    | cons c cs ih =>
        have hcons : (c :: cs).forM (noteIfAnnotated aliases target) =
            noteIfAnnotated aliases target c >>= fun _ => cs.forM (noteIfAnnotated aliases target) := rfl
        rw [hcons, List.mapM_cons, ← ih]
        simp
  exact (hunit _).trans (hall e.children)

theorem outcome_noteIfAnnotated_eq_ok_iff :
    (noteIfAnnotated aliases target e).outcome = .ok ((), notes) ↔
      e.name.stray? = none ∧
        List.Forall₂ (IsNoteOf aliases target) (if annotationElements.contains e.localName then [e] else []) notes := by
  have hvalue : ∀ a before, (readAnnotated aliases e).outcome = .ok (a, before) → before = [] := fun a before ha =>
    List.eq_nil_iff_forall_not_mem.2 (notesOnly_readAnnotated (N := fun _ => False) a before ha)
  rw [noteIfAnnotated, Reading.outcome_bind_eq_ok_iff]
  split
  · constructor
    · rintro ⟨_, _, more, hlook, hread, rfl⟩
      obtain ⟨hname, rfl⟩ := outcome_look_eq_ok_iff.1 hlook
      obtain ⟨a, before, _, ha, hnote, rfl⟩ := Reading.outcome_bind_eq_ok_iff.1 hread
      obtain rfl := hvalue a before ha
      obtain ⟨-, rfl⟩ := Prod.mk.inj (Except.ok.inj hnote)
      exact ⟨hname, .cons ⟨a, ⟨[], ha⟩, rfl⟩ .nil⟩
    · rintro ⟨hname, hnotes⟩
      obtain ⟨n, _, ⟨a, ⟨before, ha⟩, rfl⟩, hnil, rfl⟩ := List.forall₂_cons_left_iff.1 hnotes
      obtain rfl := List.forall₂_nil_left_iff.1 hnil
      obtain rfl := hvalue a before ha
      exact ⟨(), [], _, outcome_look_eq_ok_iff.2 ⟨hname, rfl⟩,
        Reading.outcome_bind_eq_ok_iff.2 ⟨a, [], _, ha, rfl, rfl⟩, rfl⟩
  · rw [List.forall₂_nil_left_iff]
    constructor
    · rintro ⟨_, _, more, hlook, hmore, rfl⟩
      obtain ⟨-, rfl⟩ := Prod.mk.inj (Except.ok.inj hmore)
      simpa using outcome_look_eq_ok_iff.1 hlook
    · rintro ⟨hname, rfl⟩
      exact ⟨(), [], [], outcome_look_eq_ok_iff.2 ⟨hname, rfl⟩, rfl, rfl⟩

/-- All child elements are looked at, and the annotations among them are noted in order. -/
theorem outcome_noteAnnotations_eq_ok_iff :
    (noteAnnotations aliases target e).outcome = .ok ((), notes) ↔
      (∀ c ∈ e.children, c.name.stray? = none) ∧
        List.Forall₂ (IsNoteOf aliases target) (e.childrenNamed annotationElements) notes := by
  rw [noteAnnotations_eq_forM, Element.childrenNamed]
  generalize e.children = cs
  induction cs generalizing notes with
  | nil => simp [Reading.outcome_pure, eq_comm]
  | cons c cs ih =>
      have hfilter : (c :: cs).filter (fun d => annotationElements.contains d.localName) =
          (if annotationElements.contains c.localName then [c] else []) ++
            cs.filter fun d => annotationElements.contains d.localName := by
        rw [List.filter_cons]
        split <;> rfl
      have hcons : (c :: cs).forM (noteIfAnnotated aliases target) =
          noteIfAnnotated aliases target c >>= fun _ => cs.forM (noteIfAnnotated aliases target) := rfl
      rw [hcons, Reading.outcome_bind_eq_ok_iff, List.forall_mem_cons, hfilter]
      constructor
      · rintro ⟨_, before, more, hfirst, hrest, rfl⟩
        obtain ⟨hname, hbefore⟩ := outcome_noteIfAnnotated_eq_ok_iff.1 hfirst
        obtain ⟨hnames, hmore⟩ := ih.1 hrest
        exact ⟨⟨hname, hnames⟩, List.rel_append hbefore hmore⟩
      · rintro ⟨⟨hname, hnames⟩, hnotes⟩
        obtain ⟨before, more, rfl, hbefore, hmore⟩ := Alignment.exists_append hnotes
        exact ⟨(), before, more, outcome_noteIfAnnotated_eq_ok_iff.2 ⟨hname, hbefore⟩, ih.2 ⟨hnames, hmore⟩, rfl⟩

/-- What is noted of the child elements of an element are annotations of the target. -/
theorem notesOnly_noteAnnotations (hN : ∀ a, N (.annotated target a)) :
    (noteAnnotations aliases target e).NotesOnly N := by
  intro _ notes h n hn
  obtain ⟨c, -, a, -, rfl⟩ := Alignment.exists_of_mem_right (outcome_noteAnnotations_eq_ok_iff.1 h).2 hn
  exact hN a

end EntityModel.Csdl
