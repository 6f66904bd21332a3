import EntityModel.Proofs.CodeModel.Lineage
import EntityModel.Proofs.CodeModel.Store
import EntityModel.Proofs.Outcome
import EntityModel.Proofs.Text.Split

/-!
# Property paths

A path is walked name by name: each name is that of the nearest property on the class reached so far, and behind every
name but the last one the walk goes on at the class that the property has as its type. `Walk` says so without lineages
and bounds, and a path is found exactly if there is a walk along its segments (`follow_eq_ok_iff`); otherwise the first
segment is reported that no walk comes to (`follow_eq_error_iff`). A walk is made of walks (`walk_append`), so paths are
looked up one part after another (`findProperty_walks`).
-/

namespace EntityModel.CodeModel.Store

open Relation (TransGen)

/-! ## Walks -/

/-- The nearest property with a name: on the class itself, or on the class that it extends if it has none. -/
inductive Nearest (s : Store) (name : String) : TypeId → PropertyId × Property → Prop where
  | own {t : TypeId} {k : ClassDetail} {e : PropertyId × Property} :
      s.class? t = some k → s.ownProperty? t name = some e → Nearest s name t e
  | inherited {t b : TypeId} {k : ClassDetail} {e : PropertyId × Property} :
      s.class? t = some k → s.ownProperty? t name = none → k.base = some b → Nearest s name b e → Nearest s name t e

/-- A walk from a class along some names to the property that the last one leads to. -/
inductive Walk (s : Store) : TypeId → List String → PropertyId × Property → Prop where
  | last {t : TypeId} {name : String} {e : PropertyId × Property} : s.Nearest name t e → Walk s t [name] e
  | step {t : TypeId} {name : String} {names : List String} {e e' : PropertyId × Property} :
      s.Nearest name t e → s.isClass e.2.type = true → Walk s e.2.type names e' → Walk s t (name :: names) e'

/-- A walk along some names comes to an end somewhere. -/
def Walkable (s : Store) (t : TypeId) (names : List String) : Prop := ∃ e, s.Walk t names e

/-- The first of some names that cannot be reached: there is a walk along the names before it, but none that goes on to
it. -/
def FirstLost (s : Store) (t : TypeId) (names : List String) (name : String) : Prop :=
  ∃ before after, names = before ++ name :: after ∧ (before ≠ [] → s.Walkable t before) ∧
    ¬ s.Walkable t (before ++ [name])

section Nearest

variable {s : Store} {t : TypeId} {l : List TypeId} {name : String} {e e' : PropertyId × Property}

theorem IsLineage.nearest?_eq_some_iff (h : s.IsLineage t l) : s.nearest? t name = some e ↔ s.Nearest name t e := by
  have hwalk : l.findSome? (fun c => s.ownProperty? c name) = some e ↔ s.Nearest name t e := by
    induction h with
    | nil ht =>
        refine iff_of_false (by simp) fun hn => ?_
        cases hn with
        | own ht' _ => simp [ht] at ht'
        | inherited ht' _ _ _ => simp [ht] at ht'
    | last ht hb =>
        rw [List.findSome?_cons]
        constructor
        · intro h
          split at h
          · next hown => exact .own ht (hown.trans h)
          · cases h
        · intro hn
          cases hn with
          | own _ hown => rw [hown]
          | inherited ht' _ hb' _ =>
              obtain rfl := Option.some.inj (ht.symm.trans ht')
              simp [hb] at hb'
    | step ht hb _ ih =>
        rw [List.findSome?_cons]
        constructor
        · intro h
          split at h
          · next hown => exact .own ht (hown.trans h)
          · next hown => exact .inherited ht hown hb (ih.1 h)
        · intro hn
          cases hn with
          | own _ hown => rw [hown]
          | inherited ht' hown hb' hrest =>
              obtain rfl := Option.some.inj (ht.symm.trans ht')
              obtain rfl := Option.some.inj (hb.symm.trans hb')
              rw [hown]
              exact ih.2 hrest
  rw [nearest?, h.lineage_eq, hwalk]

theorem Nearest.property? (h : s.Nearest name t e) : s.property? e.1 = some e.2 := by
  induction h with
  | own _ hown => exact property?_of_mem_declared (List.mem_of_find?_eq_some hown)
  | inherited _ _ _ _ ih => exact ih

theorem Walk.property? {names : List String} (h : s.Walk t names e) : s.property? e.1 = some e.2 := by
  induction h with
  | last h => exact h.property?
  | step _ _ _ ih => exact ih

theorem Walk.ne_nil {names : List String} (h : s.Walk t names e) : names ≠ [] := by
  cases h with
  | last _ => exact List.cons_ne_nil _ _
  | step _ _ _ => exact List.cons_ne_nil _ _

theorem walk_singleton : s.Walk t [name] e ↔ s.Nearest name t e := by
  constructor
  · intro h
    cases h with
    | last h => exact h
    | step _ _ h => cases h
  · exact .last

theorem walk_cons {names : List String} (hnames : names ≠ []) :
    s.Walk t (name :: names) e' ↔
      ∃ e, s.Nearest name t e ∧ s.isClass e.2.type = true ∧ s.Walk e.2.type names e' := by
  constructor
  · intro h
    cases h with
    | last _ => exact absurd rfl hnames
    | step hnear hclass hrest => exact ⟨_, hnear, hclass, hrest⟩
  · rintro ⟨e, hnear, hclass, hrest⟩
    exact .step hnear hclass hrest

/-- Walking along some names is walking along the first of them, and along the others from the class that they lead
to. -/
theorem walk_append {q r : List String} (hq : q ≠ []) (hr : r ≠ []) :
    s.Walk t (q ++ r) e' ↔ ∃ e, s.Walk t q e ∧ s.isClass e.2.type = true ∧ s.Walk e.2.type r e' := by
  induction q generalizing t with
  | nil => exact absurd rfl hq
  | cons name q ih =>
      by_cases hlast : q = []
      · subst hlast
        simp only [List.cons_append, List.nil_append, walk_cons hr, walk_singleton]
      · rw [List.cons_append, walk_cons (List.append_ne_nil_of_left_ne_nil hlast r)]
        simp only [walk_cons hlast, ih hlast]
        constructor
        · rintro ⟨e, hnear, hclass, e₁, hwalk, hclass₁, hrest⟩
          exact ⟨e₁, ⟨e, hnear, hclass, hwalk⟩, hclass₁, hrest⟩
        · rintro ⟨e₁, ⟨e, hnear, hclass, hwalk⟩, hclass₁, hrest⟩
          exact ⟨e, hnear, hclass, e₁, hwalk, hclass₁, hrest⟩

theorem Walkable.of_append {q r : List String} (hq : q ≠ []) (h : s.Walkable t (q ++ r)) : s.Walkable t q := by
  by_cases hr : r = []
  · subst hr
    rwa [List.append_nil] at h
  · obtain ⟨e', h⟩ := h
    obtain ⟨e, hwalk, -, -⟩ := (walk_append hq hr).1 h
    exact ⟨e, hwalk⟩

end Nearest

/-! ## The first name that is lost -/

section FirstLost

variable {s : Store} {t : TypeId} {names : List String} {name lost : String} {e : PropertyId × Property}

theorem FirstLost.not_walkable (h : s.FirstLost t names lost) : ¬ s.Walkable t names := by
  obtain ⟨before, after, rfl, -, hlost⟩ := h
  intro hall
  rw [List.append_cons] at hall
  exact hlost (hall.of_append (List.append_ne_nil_of_right_ne_nil _ (List.cons_ne_nil _ _)))

/-- Only one of the names is the first that is lost. -/
theorem FirstLost.unique {lost' : String} (h : s.FirstLost t names lost) (h' : s.FirstLost t names lost') :
    lost = lost' := by
  -- What is lost first stands before everything that a walk goes on behind.
  have hlt : ∀ {before after before' after' : List String} {lost lost' : String},
      before ++ lost :: after = before' ++ lost' :: after' → ¬ s.Walkable t (before ++ [lost]) →
        (before' ≠ [] → s.Walkable t before') → ¬ before.length < before'.length := by
    intro before after before' after' lost lost' heq hlost hwalk' hlt
    have hpre : before ++ [lost] <+: before ++ lost :: after := ⟨after, (List.append_cons _ _ _).symm⟩
    have hpre' : before' <+: before ++ lost :: after := ⟨lost' :: after', heq.symm⟩
    have hlen : (before ++ [lost]).length ≤ before'.length := by
      rw [List.length_append, List.length_singleton]
      exact hlt
    obtain ⟨rest, rfl⟩ := List.prefix_of_prefix_length_le hpre hpre' hlen
    have hne : before ++ [lost] ≠ [] := List.append_ne_nil_of_right_ne_nil _ (List.cons_ne_nil _ _)
    exact hlost ((hwalk' (List.append_ne_nil_of_left_ne_nil hne rest)).of_append hne)
  obtain ⟨before, after, rfl, hwalk, hlost⟩ := h
  obtain ⟨before', after', heq, hwalk', hlost'⟩ := h'
  have hlen : before.length = before'.length :=
    Nat.le_antisymm (Nat.not_lt.1 (hlt heq.symm hlost' hwalk)) (Nat.not_lt.1 (hlt heq hlost hwalk'))
  exact (List.cons.inj (List.append_inj heq hlen).2).1

theorem firstLost_of_not_nearest (h : ∀ e, ¬ s.Nearest name t e) : s.FirstLost t (name :: names) name := by
  refine ⟨[], names, rfl, fun hne => absurd rfl hne, ?_⟩
  rintro ⟨e, hwalk⟩
  exact h e (walk_singleton.1 hwalk)

theorem Nearest.unique (h : s.Nearest name t e) {e' : PropertyId × Property} (h' : s.Nearest name t e') : e = e' := by
  induction h with
  | own hk hown =>
      cases h' with
      | own _ hown' => exact Option.some.inj (hown.symm.trans hown')
      | inherited _ hnone _ _ => exact absurd (hnone.symm.trans hown) nofun
  | inherited hk hnone hb _ ih =>
      cases h' with
      | own _ hown' => exact absurd (hnone.symm.trans hown') nofun
      | inherited hk' _ hb' hrest =>
          obtain rfl := Option.some.inj (hk.symm.trans hk')
          obtain rfl := Option.some.inj (hb.symm.trans hb')
          exact ih hrest

/-- A property whose type is no class is followed by nothing. -/
theorem firstLost_of_not_isClass (h : s.Nearest name t e) (hclass : s.isClass e.2.type = false) :
    s.FirstLost t (name :: lost :: names) lost := by
  refine ⟨[name], names, rfl, fun _ => ⟨e, walk_singleton.2 h⟩, ?_⟩
  rintro ⟨e', hwalk⟩
  obtain ⟨e₁, hnear, hclass₁, -⟩ := (walk_cons (List.cons_ne_nil _ _)).1 hwalk
  rw [← h.unique hnear, hclass] at hclass₁
  cases hclass₁

theorem FirstLost.cons (h : s.Nearest name t e) (hclass : s.isClass e.2.type = true)
    (hlost : s.FirstLost e.2.type names lost) : s.FirstLost t (name :: names) lost := by
  obtain ⟨before, after, rfl, hwalk, hlost⟩ := hlost
  refine ⟨name :: before, after, rfl, fun _ => ?_, ?_⟩
  · by_cases hbefore : before = []
    · subst hbefore
      exact ⟨e, walk_singleton.2 h⟩
    · obtain ⟨e', hwalk⟩ := hwalk hbefore
      exact ⟨e', .step h hclass hwalk⟩
  · rintro ⟨e', hwalk⟩
    obtain ⟨e₁, hnear, -, hrest⟩ := (walk_cons (List.append_ne_nil_of_right_ne_nil _ (List.cons_ne_nil _ _))).1 hwalk
    obtain rfl := h.unique hnear
    exact hlost ⟨e', hrest⟩

end FirstLost

/-! ## Following a path -/

section Follow

variable {s : Store} {t : TypeId} {names : List String} {p : PropertyId} {lost : String}

/-- What following some names comes to. The induction is on the names; each step is one of the walk. -/
theorem follow_outcome (hacyclic : ∀ u, ¬ TransGen s.Extends u u) (hnames : names ≠ []) :
    (∃ e, s.follow t names = .ok e.1 ∧ s.Walk t names e) ∨
      ∃ lost, s.follow t names = .error lost ∧ s.FirstLost t names lost := by
  have hlineage : ∀ u, ∃ l, s.IsLineage u l := fun u => exists_isLineage_iff.2 fun v _ => hacyclic v
  induction names generalizing t with
  | nil => exact absurd rfl hnames
  | cons name names ih =>
      obtain ⟨l, hl⟩ := hlineage t
      cases hnear : s.nearest? t name with
      | none =>
          have hnone : ∀ e, ¬ s.Nearest name t e := by
            intro e he
            rw [hl.nearest?_eq_some_iff.2 he] at hnear
            cases hnear
          refine .inr ⟨name, ?_, firstLost_of_not_nearest hnone⟩
          cases names with
          | nil => simp only [follow, hnear]
          | cons next names => simp only [follow, hnear]
      | some e =>
          have he := hl.nearest?_eq_some_iff.1 hnear
          cases names with
          | nil => exact .inl ⟨e, by simp only [follow, hnear], .last he⟩
          | cons next names =>
              cases hclass : s.isClass e.2.type with
              | false =>
                  refine .inr ⟨next, ?_, firstLost_of_not_isClass he hclass⟩
                  simp only [follow, hnear, hclass, Bool.false_eq_true, if_false]
              | true =>
                  have hstep : s.follow t (name :: next :: names) = s.follow e.2.type (next :: names) := by
                    simp only [follow, hnear, hclass, if_true]
                  rw [hstep]
                  obtain ⟨e', heq, hwalk⟩ | ⟨lost, heq, hlost⟩ := ih (t := e.2.type) (List.cons_ne_nil _ _)
                  · exact .inl ⟨e', heq, .step he hclass hwalk⟩
                  · exact .inr ⟨lost, heq, hlost.cons he hclass⟩

theorem Walk.unique {e e' : PropertyId × Property} (h : s.Walk t names e) (h' : s.Walk t names e') : e = e' := by
  induction h with
  | last hnear => exact hnear.unique (walk_singleton.1 h')
  | step hnear _ hrest ih =>
      obtain ⟨e₁, hnear', -, hrest'⟩ := (walk_cons hrest.ne_nil).1 h'
      obtain rfl := hnear.unique hnear'
      exact ih hrest'

theorem follow_eq_ok_iff (hacyclic : ∀ u, ¬ TransGen s.Extends u u) (hnames : names ≠ []) :
    s.follow t names = .ok p ↔ ∃ e, s.Walk t names e ∧ e.1 = p := by
  obtain ⟨e, heq, hwalk⟩ | ⟨lost, heq, hlost⟩ := follow_outcome (t := t) hacyclic hnames
  · rw [heq, Except.ok.injEq]
    constructor
    · exact fun h => ⟨e, hwalk, h⟩
    · rintro ⟨e', hwalk', rfl⟩
      rw [hwalk.unique hwalk']
  · rw [heq]
    refine iff_of_false nofun ?_
    rintro ⟨e, hwalk, -⟩
    exact hlost.not_walkable ⟨e, hwalk⟩

theorem follow_eq_error_iff (hacyclic : ∀ u, ¬ TransGen s.Extends u u) (hnames : names ≠ []) :
    s.follow t names = .error lost ↔ s.FirstLost t names lost := by
  obtain ⟨e, heq, hwalk⟩ | ⟨lost', heq, hlost⟩ := follow_outcome (t := t) hacyclic hnames
  · rw [heq]
    exact iff_of_false nofun fun hlost => hlost.not_walkable ⟨e, hwalk⟩
  · rw [heq, Except.error.injEq]
    constructor
    · rintro rfl
      exact hlost
    · exact hlost.unique

end Follow

/-! ## Looking up a path -/

section Lookup

variable {s : Store} {t : TypeId}

theorem findProperty_eq_ok_iff (hacyclic : ∀ u, ¬ TransGen s.Extends u u) {path : String} {p : PropertyId} :
    s.findProperty t path = .ok p ↔ ∃ e, s.Walk t (Text.segments '.' path) e ∧ e.1 = p := by
  rw [findProperty, mapError_eq_ok_iff, follow_eq_ok_iff hacyclic (Text.segments_ne_nil '.' path)]

theorem findProperty_eq_error_iff (hacyclic : ∀ u, ¬ TransGen s.Extends u u) {path : String} {f : Failure} :
    s.findProperty t path = .error f ↔
      ∃ lost, s.FirstLost t (Text.segments '.' path) lost ∧ .unresolvedPath path (s.fullName t) lost = f := by
  simp only [findProperty, mapError_eq_error_iff, follow_eq_error_iff hacyclic (Text.segments_ne_nil '.' path)]

/-- Where a path with a dot in it leads to: where its second part leads to from the class that the first one has come
to. -/
theorem findProperty_append (hacyclic : ∀ u, ¬ TransGen s.Extends u u) {q r : String} {p : PropertyId} {x : Property}
    (hq : s.findProperty t q = .ok p) (hx : s.property? p = some x) (hclass : s.isClass x.type = true)
    (p' : PropertyId) : s.findProperty t (q ++ "." ++ r) = .ok p' ↔ s.findProperty x.type r = .ok p' := by
  have hsegments : Text.segments '.' (q ++ "." ++ r) = Text.segments '.' q ++ Text.segments '.' r :=
    Text.segments_append q r
  rw [findProperty_eq_ok_iff hacyclic, findProperty_eq_ok_iff hacyclic, hsegments]
  obtain ⟨e, hwalk, rfl⟩ := (findProperty_eq_ok_iff hacyclic).1 hq
  obtain rfl := Option.some.inj (hwalk.property?.symm.trans hx)
  simp only [walk_append (Text.segments_ne_nil '.' q) (Text.segments_ne_nil '.' r)]
  constructor
  · rintro ⟨e', ⟨e₁, hwalk₁, -, hrest⟩, rfl⟩
    obtain rfl := hwalk.unique hwalk₁
    exact ⟨e', hrest, rfl⟩
  · rintro ⟨e', hrest, rfl⟩
    exact ⟨e', ⟨e, hwalk, hclass, hrest⟩, rfl⟩

/-- A path is found exactly if there is a walk along its segments, and then the property is found that the walk ends
at. Otherwise the failure names the path, the class and the first segment that is lost, and for an empty segment the path
in its place. A path is looked up one part after another. -/
theorem findProperty_walks (s : Store) (hacyclic : ∀ u, ¬ TransGen s.Extends u u) (t : TypeId) :
    (∀ names path, names ≠ [] → (∀ name ∈ names, '.' ∉ name.toList) → path = ".".intercalate names →
      (∀ p, s.findProperty t path = .ok p ↔ ∃ e, s.Walk t names e ∧ e.1 = p) ∧
      (¬ s.Walkable t names → ∃ f lost, s.findProperty t path = .error f ∧ s.FirstLost t names lost ∧
        f.report.kind = .unresolvedPath ∧
        f.report.detail = .unresolvedPath path (s.fullName t) (if lost = "" then path else lost)) ∧
      (s.tryFindProperty? t path = none ↔ ¬ s.Walkable t names)) ∧
    (∀ q r p x, s.findProperty t q = .ok p → s.property? p = some x → s.isClass x.type = true →
      ∀ p', s.findProperty t (q ++ "." ++ r) = .ok p' ↔ s.findProperty x.type r = .ok p') := by
  refine ⟨?_, fun q r p x hq hx hclass p' => findProperty_append hacyclic hq hx hclass p'⟩
  intro names path hnames hdots hpath
  have hsegments : Text.segments '.' path = names := by
    rw [hpath]
    exact Text.segments_intercalate hnames hdots
  have hok : ∀ p, s.findProperty t path = .ok p ↔ ∃ e, s.Walk t names e ∧ e.1 = p := by
    intro p
    rw [findProperty_eq_ok_iff hacyclic, hsegments]
  have hlost : ¬ s.Walkable t names → ∃ f lost, s.findProperty t path = .error f ∧ s.FirstLost t names lost ∧
      f.report.kind = .unresolvedPath ∧
      f.report.detail = .unresolvedPath path (s.fullName t) (if lost = "" then path else lost) := by
    intro hlost
    cases hfind : s.findProperty t path with
    | ok p =>
        obtain ⟨e, hwalk, -⟩ := (hok p).1 hfind
        exact absurd ⟨e, hwalk⟩ hlost
    | error f =>
        obtain ⟨lost, hlost, rfl⟩ := (findProperty_eq_error_iff hacyclic).1 hfind
        exact ⟨_, lost, rfl, hsegments ▸ hlost, rfl, rfl⟩
  refine ⟨hok, hlost, ?_⟩
  rw [tryFindProperty?, toOption_eq_none_iff]
  constructor
  · rintro ⟨f, hf⟩ ⟨e, hwalk⟩
    rw [(hok e.1).2 ⟨e, hwalk, rfl⟩] at hf
    cases hf
  · intro hnone
    obtain ⟨f, lost, hf, -⟩ := hlost hnone
    exact ⟨f, hf⟩

end Lookup

/-! ## Staff with managers -/

/-- A store with persons that have a manager, and with employees, who are persons with a desk. -/
def staffStore : Store :=
  { types :=
      [⟨⟨"NS", "Text"⟩, .primitive⟩,
       ⟨⟨"NS", "Person"⟩, .structured { properties := [⟨0⟩, ⟨1⟩] }⟩,
       ⟨⟨"NS", "Employee"⟩, .structured { base := some ⟨1⟩, properties := [⟨2⟩] }⟩],
    properties :=
      [{ name := "Name", type := ⟨0⟩ }, { name := "Manager", type := ⟨2⟩, navigation := true },
       { name := "Desk", type := ⟨0⟩ }] }

/-- The manager of a manager is found under the class that employees extend, and has a name; a name has no desk. -/
theorem findProperty_walks_of_staff :
    (∀ u, ¬ TransGen staffStore.Extends u u) ∧
      (∃ e, staffStore.Walk ⟨2⟩ ["Manager", "Manager", "Name"] e ∧ e.1 = ⟨0⟩) ∧
      (∃ f lost, staffStore.findProperty ⟨2⟩ "Name.Desk" = .error f ∧
        staffStore.FirstLost ⟨2⟩ ["Name", "Desk"] lost ∧
        f.report.detail = .unresolvedPath "Name.Desk" "NS.Employee" (if lost = "" then "Name.Desk" else lost)) ∧
      staffStore.findProperty ⟨2⟩ ("Manager" ++ "." ++ "Desk") = .ok ⟨2⟩ := by
  have hacyclic : ∀ u, ¬ TransGen staffStore.Extends u u := by
    have hstep : ∀ {t b : TypeId}, staffStore.Extends t b → b.index < t.index := by
      rintro ⟨t⟩ b ⟨k, hk, hb⟩
      match t with
      | 0 => cases hk
      | 1 =>
          cases hk
          cases hb
      | 2 =>
          cases hk
          cases hb
          decide
      | _ + 3 => cases hk
    intro u hu
    have hlt : ∀ {b : TypeId}, TransGen staffStore.Extends u b → b.index < u.index := by
      intro b hb
      induction hb with
      | single h => exact hstep h
      | tail _ h ih => exact Nat.lt_trans (hstep h) ih
    exact Nat.lt_irrefl _ (hlt hu)
  obtain ⟨hfound, -, -⟩ := (findProperty_walks staffStore hacyclic ⟨2⟩).1 ["Manager", "Manager", "Name"]
    "Manager.Manager.Name" (by decide) (by decide) (by decide)
  obtain ⟨-, hlost, hnone⟩ := (findProperty_walks staffStore hacyclic ⟨2⟩).1 ["Name", "Desk"] "Name.Desk"
    (by decide) (by decide) (by decide)
  obtain ⟨f, lost, hf, hfirst, -, hdetail⟩ := hlost (hnone.1 (by decide))
  have happend := (findProperty_walks staffStore hacyclic ⟨2⟩).2 "Manager" "Desk" ⟨1⟩
    { name := "Manager", type := ⟨2⟩, navigation := true } (by decide) (by decide) (by decide) ⟨2⟩
  exact ⟨hacyclic, (hfound ⟨0⟩).1 (by decide), ⟨f, lost, hf, hfirst, hdetail⟩, happend.2 (by decide)⟩

end EntityModel.CodeModel.Store
