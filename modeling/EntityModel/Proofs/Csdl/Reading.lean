import EntityModel.Csdl.Reading
import EntityModel.Proofs.Alignment

/-!
# Readings that succeed

A reading that goes on after another gives a part exactly if both succeed, whatever they note on the way. With that
a part that has been read is taken apart into those of its steps (`gives_bind_iff`, `gives_mapM_iff`), and a property
of all parts that may be read is shown step by step (`Ensures.bind`), and so is a property of all notes
(`NotesOnly.bind`).
-/

namespace EntityModel.Csdl.Reading

open Xml (Element)

variable {α β : Type} {x : Reading α} {f : α → Reading β} {Q : α → Prop} {R : β → Prop} {a : α} {b : β}

/-! ## Parts -/

/-- A reading succeeds with a part. -/
def Gives (x : Reading α) (a : α) : Prop := ∃ notes, x.outcome = .ok (a, notes)

@[simp] theorem gives_pure_iff {a' : α} : (pure a : Reading α).Gives a' ↔ a = a' := by
  simp [Gives, outcome_pure]

/-- A reading that succeeds behind another one has taken both steps. -/
theorem outcome_bind_eq_ok_iff {b : β} {notes : List Note} :
    (x >>= f).outcome = .ok (b, notes) ↔
      ∃ a before more, x.outcome = .ok (a, before) ∧ (f a).outcome = .ok (b, more) ∧ notes = before ++ more := by
  constructor
  · intro h
    cases hx : x.outcome with
    | error fault =>
        rw [bind_of_error hx] at h
        cases h
    | ok p =>
        obtain ⟨a, before⟩ := p
        rw [bind_of_ok hx] at h
        cases hf : (f a).outcome with
        | error fault =>
            rw [hf] at h
            cases h
        | ok q =>
            rw [hf] at h
            obtain ⟨rfl, rfl⟩ := Prod.mk.inj (Except.ok.inj h)
            exact ⟨a, before, q.2, rfl, hf, rfl⟩
  · rintro ⟨a, before, more, hx, hf, rfl⟩
    rw [bind_of_ok hx, hf]

/-- A reading that stops has stopped at one of the steps. -/
theorem outcome_bind_eq_error_iff {fault : MetadataFault} :
    (x >>= f).outcome = .error fault ↔
      x.outcome = .error fault ∨ ∃ a notes, x.outcome = .ok (a, notes) ∧ (f a).outcome = .error fault := by
  cases hx : x.outcome with
  | error fault' => simp [bind_of_error hx]
  | ok p =>
      obtain ⟨a, before⟩ := p
      rw [bind_of_ok hx]
      cases hf : (f a).outcome with
      | error fault' => simp [hf]
      | ok q => simp [hf]

/-- What goes on after something else gives what it gives behind it. -/
theorem gives_bind_iff : (x >>= f).Gives b ↔ ∃ a, x.Gives a ∧ (f a).Gives b := by
  simp only [Gives, outcome_bind_eq_ok_iff]
  constructor
  · rintro ⟨_, a, before, more, hx, hf, rfl⟩
    exact ⟨a, ⟨before, hx⟩, more, hf⟩
  · rintro ⟨a, ⟨before, hx⟩, more, hf⟩
    exact ⟨_, a, before, more, hx, hf, rfl⟩

@[simp] theorem gives_map_iff {f : α → β} : (f <$> x).Gives b ↔ ∃ a, x.Gives a ∧ f a = b := by
  rw [map_eq_pure_bind, gives_bind_iff]
  simp

/-- A visit of a list gives what is given at each member. -/
theorem gives_mapM_iff {as : List α} {bs : List β} :
    (as.mapM f).Gives bs ↔ List.Forall₂ (fun a b => (f a).Gives b) as bs := by
  induction as generalizing bs with
  | nil => simp [eq_comm]
  | cons a as ih =>
      rw [List.mapM_cons, gives_bind_iff, List.forall₂_cons_left_iff]
      constructor
      · rintro ⟨b, hb, h⟩
        obtain ⟨rest, hrest, h⟩ := gives_bind_iff.1 h
        exact ⟨b, rest, hb, ih.1 hrest, (gives_pure_iff.1 h).symm⟩
      · rintro ⟨b, rest, hb, hrest, rfl⟩
        exact ⟨b, hb, gives_bind_iff.2 ⟨rest, ih.2 hrest, gives_pure_iff.2 rfl⟩⟩

theorem gives_flag_iff {fallback value : Bool} {e : Element} {name : String} :
    (flag fallback e name).Gives value ↔ Literal.boolD fallback (e.attribute? name) = .ok value := by
  rw [flag]
  cases Literal.boolD fallback (e.attribute? name) <;> simp [Gives, literal]

/-- Child elements with some names give one part each. -/
theorem forall₂_of_gives_children {names : List String} {read : Element → Reading α} {e : Element} {as : List α}
    (h : (children names read e).Gives as) :
    List.Forall₂ (fun c a => (read c).Gives a) (e.childrenNamed names) as := by
  obtain ⟨parts, hparts, h⟩ := gives_bind_iff.1 h
  obtain rfl := gives_pure_iff.1 h
  refine Alignment.filter_filterMap_rel (gives_mapM_iff.1 hparts) ?_ ?_
  · intro c part hpart hc
    obtain ⟨-, -, hpart⟩ := gives_bind_iff.1 hpart
    rw [if_pos hc] at hpart
    obtain ⟨a, ha, rfl⟩ := gives_map_iff.1 hpart
    exact ⟨a, rfl, ha⟩
  · intro c part hpart hc
    obtain ⟨-, -, hpart⟩ := gives_bind_iff.1 hpart
    rw [hc] at hpart
    obtain rfl := gives_pure_iff.1 hpart
    rfl

/-! ## Properties of parts -/

/-- A reading that succeeds yields a part with a property. -/
def Ensures (x : Reading α) (Q : α → Prop) : Prop := ∀ a, x.Gives a → Q a

theorem ensures_pure (h : Q a) : (pure a : Reading α).Ensures Q := fun _ ha => gives_pure_iff.1 ha ▸ h

theorem Ensures.bind (hx : x.Ensures Q) (hf : ∀ a, Q a → (f a).Ensures R) : (x >>= f).Ensures R := by
  intro b hb
  obtain ⟨a, ha, hb⟩ := gives_bind_iff.1 hb
  exact hf a (hx a ha) b hb

theorem ensures_true : x.Ensures fun _ => True := fun _ _ => trivial

/-- What comes last decides. -/
theorem ensures_bind (hf : ∀ a, (f a).Ensures R) : (x >>= f).Ensures R := ensures_true.bind fun a _ => hf a

theorem Ensures.map {f : α → β} (hx : x.Ensures Q) (hf : ∀ a, Q a → R (f a)) : (f <$> x).Ensures R := by
  rw [map_eq_pure_bind]
  exact hx.bind fun a ha => ensures_pure (hf a ha)

theorem ensures_map {f : α → β} {P : Prop} (h : x.Ensures fun _ => P) : (f <$> x).Ensures fun _ => P :=
  h.map fun _ h => h

theorem ensures_mapM {as : List α} (hf : ∀ a ∈ as, (f a).Ensures R) :
    (as.mapM f).Ensures fun bs => ∀ b ∈ bs, R b := by
  intro bs hbs b hb
  obtain ⟨a, ha, hab⟩ := Alignment.exists_of_mem_right (gives_mapM_iff.1 hbs) hb
  exact hf a ha b hab

/-- What each visit ensures of the member that it visits is known of all members. -/
theorem ensures_visit {as : List α} {P : α → Prop} (h : ∀ a ∈ as, (f a).Ensures fun _ => P a) :
    (as.mapM f).Ensures fun _ => ∀ a ∈ as, P a := by
  intro bs hbs a ha
  obtain ⟨b, -, hab⟩ := Alignment.exists_of_mem_left (gives_mapM_iff.1 hbs) ha
  exact h a ha b hab

/-! ## Notes -/

section Notes

variable {N : Note → Prop}

/-- All notes that a reading makes have a property. -/
def NotesOnly (N : Note → Prop) (x : Reading α) : Prop := ∀ a notes, x.outcome = .ok (a, notes) → ∀ n ∈ notes, N n

theorem notesOnly_pure (a : α) : (pure a : Reading α).NotesOnly N := by
  intro b notes h
  rw [outcome_pure] at h
  obtain ⟨-, rfl⟩ := Prod.mk.inj (Except.ok.inj h)
  simp

theorem notesOnly_fault (f : MetadataFault) : (fault f : Reading α).NotesOnly N := by
  intro a notes h
  cases h

theorem notesOnly_note {n : Note} (h : N n) : (note n).NotesOnly N := by
  intro a notes hnotes
  obtain ⟨-, rfl⟩ := Prod.mk.inj (Except.ok.inj hnotes)
  simpa using h

theorem notesOnly_literal (l : Except LiteralFault α) : (literal l).NotesOnly N := by
  cases l with
  | ok a => exact notesOnly_pure a
  | error f => exact notesOnly_fault _

theorem NotesOnly.bind (hx : x.NotesOnly N) (hf : ∀ a, (f a).NotesOnly N) :
    (x >>= f).NotesOnly N := by
  intro b notes h n hn
  obtain ⟨a, before, more, hx', hf', rfl⟩ := outcome_bind_eq_ok_iff.1 h
  rcases List.mem_append.1 hn with hn | hn
  · exact hx a before hx' n hn
  · exact hf a b more hf' n hn

theorem NotesOnly.map (f : α → β) (hx : x.NotesOnly N) : (f <$> x).NotesOnly N := by
  rw [map_eq_pure_bind]
  exact hx.bind fun _ => notesOnly_pure _

theorem notesOnly_look (e : Element) : (look e).NotesOnly N := by
  unfold look
  split
  · exact notesOnly_fault _
  · exact notesOnly_pure _

/-- Looking at an element makes no notes, and it succeeds if it has a name. -/
theorem outcome_look_eq_ok_iff {e : Element} {notes : List Note} :
    (look e).outcome = .ok ((), notes) ↔ e.name.stray? = none ∧ notes = [] := by
  rw [look]
  cases e.name.stray? with
  | none => simp [outcome_pure, eq_comm]
  | some text => simp [fault]

/-- Elements are looked at one after another. -/
theorem outcome_inspect_eq_ok_iff {es : List Element} {notes : List Note} :
    (inspect es).outcome = .ok ((), notes) ↔ (∀ e ∈ es, e.name.stray? = none) ∧ notes = [] := by
  induction es generalizing notes with
  | nil => simp [inspect, outcome_pure, eq_comm]
  | cons e es ih =>
      have hcons : inspect (e :: es) = look e >>= fun _ => inspect es := rfl
      rw [hcons, outcome_bind_eq_ok_iff, List.forall_mem_cons]
      constructor
      · rintro ⟨_, before, more, hlook, hrest, rfl⟩
        obtain ⟨hname, rfl⟩ := outcome_look_eq_ok_iff.1 hlook
        obtain ⟨hnames, rfl⟩ := ih.1 hrest
        exact ⟨⟨hname, hnames⟩, rfl⟩
      · rintro ⟨⟨hname, hnames⟩, rfl⟩
        exact ⟨(), [], [], outcome_look_eq_ok_iff.2 ⟨hname, rfl⟩, ih.2 ⟨hnames, rfl⟩, rfl⟩

/-! ### Names that are looked at -/

theorem look_ensures {e : Element} : (look e).Ensures fun _ => e.name.stray? = none := by
  rintro ⟨⟩ ⟨notes, h⟩
  exact (outcome_look_eq_ok_iff.1 h).1

/-- Whoever reads child elements with some names has looked at all of them. -/
theorem children_ensures {names : List String} {read : Element → Reading α} {e : Element} {P : Element → Prop}
    (h : ∀ c, c.localName ∈ names → (read c).Ensures fun _ => P c) :
    (children names read e).Ensures fun _ =>
      (∀ c ∈ e.children, c.name.stray? = none) ∧ ∀ c ∈ e.children, c.localName ∈ names → P c := by
  have hvisit : ∀ c ∈ e.children,
      (look c >>= fun _ => if names.contains c.localName then some <$> read c else pure none).Ensures fun _ =>
        c.name.stray? = none ∧ (c.localName ∈ names → P c) := by
    refine fun c _ => look_ensures.bind fun _ hname => ?_
    split
    · next hmem => exact (h c (List.contains_iff_mem.1 hmem)).map fun _ hc => ⟨hname, fun _ => hc⟩
    · next hmem => exact ensures_pure ⟨hname, fun hc => absurd (List.contains_iff_mem.2 hc) hmem⟩
  exact (ensures_visit hvisit).bind fun _ hall => ensures_pure ⟨fun c hc => (hall c hc).1, fun c hc => (hall c hc).2⟩

theorem inspect_ensures {es : List Element} :
    (inspect es).Ensures fun _ => ∀ e ∈ es, e.name.stray? = none := by
  rintro ⟨⟩ ⟨notes, h⟩
  exact (outcome_inspect_eq_ok_iff.1 h).1

/-! ### Notes that are made -/

/-- A reading that succeeds has made a note with a property. -/
def NotesSome (N : Note → Prop) (x : Reading α) : Prop := ∀ a notes, x.outcome = .ok (a, notes) → ∃ n ∈ notes, N n

theorem notesSome_fault (f : MetadataFault) : (fault f : Reading α).NotesSome N := by
  intro a notes h
  cases h

theorem notesSome_note {n : Note} (h : N n) : (note n).NotesSome N := by
  intro a notes hnotes
  obtain ⟨-, rfl⟩ := Prod.mk.inj (Except.ok.inj hnotes)
  exact ⟨n, List.mem_cons_self, h⟩

theorem NotesSome.bind (hx : x.NotesSome N) : (x >>= f).NotesSome N := by
  intro b notes h
  obtain ⟨a, before, more, hx', -, rfl⟩ := outcome_bind_eq_ok_iff.1 h
  obtain ⟨n, hn, hN⟩ := hx a before hx'
  exact ⟨n, List.mem_append_left _ hn, hN⟩

theorem notesSome_bind (hf : ∀ a, (f a).NotesSome N) : (x >>= f).NotesSome N := by
  intro b notes h
  obtain ⟨a, before, more, -, hf', rfl⟩ := outcome_bind_eq_ok_iff.1 h
  obtain ⟨n, hn, hN⟩ := hf a b more hf'
  exact ⟨n, List.mem_append_right _ hn, hN⟩

theorem NotesSome.map (f : α → β) (hx : x.NotesSome N) : (f <$> x).NotesSome N := by
  rw [map_eq_pure_bind]
  exact hx.bind

/-- A note that is made at one member of a list is made by the visit. -/
theorem notesSome_mapM {as : List α} (ha : a ∈ as) (hf : (f a).NotesSome N) : (as.mapM f).NotesSome N := by
  induction as with
  | nil => cases ha
  | cons b as ih =>
      rw [List.mapM_cons]
      rcases List.mem_cons.1 ha with rfl | ha
      · exact hf.bind
      · exact notesSome_bind fun _ => (ih ha).bind

theorem notesSome_children {names : List String} {read : Element → Reading α} {e c : Element}
    (hc : c ∈ e.childrenNamed names) (hread : (read c).NotesSome N) : (children names read e).NotesSome N := by
  obtain ⟨hmem, hname⟩ := List.mem_filter.1 hc
  refine (notesSome_mapM hmem (notesSome_bind fun _ => ?_)).bind
  rw [if_pos hname]
  exact hread.map _

end Notes

end EntityModel.Csdl.Reading
