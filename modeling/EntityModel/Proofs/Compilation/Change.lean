import EntityModel.Proofs.CodeModel.Completion
import EntityModel.Proofs.Compilation.Declaration

/-!
# The changes of a draft

Once the classes are declared, a compilation only makes changes of five kinds: it refers to a type, which may
register a primitive one, and it gives a class a base, a property, a key property or a method. A draft is then
the replay of the changes since the declarations. What has become of one class is told by the changes
`about` it, and which primitive types there are by the names that have been referred to.
-/

namespace EntityModel.Compilation

open CodeModel

/-- A change of a draft. -/
inductive Change where
  /-- A type is referred to; a primitive type is registered if it is not there. -/
  | refer (name : QualifiedName)
  /-- A class extends another. -/
  | base (c b : TypeId)
  /-- A class gets a property. -/
  | property (c : TypeId) (x : Property)
  /-- A class gets a key property. -/
  | key (c : TypeId) (p : PropertyId)
  /-- A class gets a method. -/
  | method (c : TypeId) (name : QualifiedName) (m : MethodDetail)

namespace Change

/-- The class that is changed. -/
def owner? : Change → Option TypeId
  | refer _ => none
  | base c _ => some c
  | property c _ => some c
  | key c _ => some c
  | method c _ _ => some c

/-- The name that is referred to. -/
def referred? : Change → Option QualifiedName
  | refer n => some n
  | _ => none

/-- The base that is given. -/
def base? : Change → Option TypeId
  | base _ b => some b
  | _ => none

/-- The property that is given, with its class. -/
def property? : Change → Option (TypeId × Property)
  | property c x => some (c, x)
  | _ => none

/-- The key property that is given. -/
def key? : Change → Option PropertyId
  | key _ p => some p
  | _ => none

/-- The method that is given. -/
def method? : Change → Option (QualifiedName × MethodDetail)
  | method _ n m => some (n, m)
  | _ => none

/-- What a change makes of its class in a store. -/
def onto (s : Store) : Change → ClassDetail → ClassDetail
  | refer _, k => k
  | base _ b, k => { k with base := some b }
  | property _ _, k => { k with properties := k.properties ++ [⟨s.properties.length⟩] }
  | key _ p, k => { k with key := k.key ++ [p] }
  | method _ _ _, k => { k with methods := k.methods ++ [⟨s.types.length⟩] }

end Change

/-- The changes of one class. -/
def about (c : TypeId) (cs : List Change) : List Change := cs.filter fun x => x.owner? = some c

/-- The names that are referred to. -/
def referred (cs : List Change) : List QualifiedName := cs.filterMap Change.referred?

/-- The properties that are given, with their classes. -/
def added (cs : List Change) : List (TypeId × Property) := cs.filterMap Change.property?

/-- A property that a class owns. -/
def owned (c : TypeId) (x : Property) : Property := { x with owner := some c }

/-- A method type that a class owns. -/
def ownedMethod (c : TypeId) (m : QualifiedName × MethodDetail) : TypeEntry :=
  ⟨m.1, .method { m.2 with owner := some c }⟩

/-- The properties that a class gets by some changes, placed behind a number of properties. -/
def gained (c : TypeId) (n : Nat) (cs : List Change) : List (PropertyId × Property) :=
  ((added cs).zipIdx n).filterMap fun x => if x.1.1 = c then some (⟨x.2⟩, owned c x.1.2) else none

@[simp] theorem about_nil (c : TypeId) : about c [] = [] := rfl

@[simp] theorem about_append (c : TypeId) (cs cs' : List Change) :
    about c (cs ++ cs') = about c cs ++ about c cs' := List.filter_append ..

@[simp] theorem referred_append (cs cs' : List Change) :
    referred (cs ++ cs') = referred cs ++ referred cs' := List.filterMap_append

@[simp] theorem added_append (cs cs' : List Change) : added (cs ++ cs') = added cs ++ added cs' :=
  List.filterMap_append

theorem gained_append (c : TypeId) (n : Nat) (cs cs' : List Change) :
    gained c n (cs ++ cs') = gained c n cs ++ gained c (n + (added cs).length) cs' := by
  rw [gained, added_append, List.zipIdx_append, List.filterMap_append]
  rfl

theorem filterMap_method? (c : TypeId) (ms : List (QualifiedName × MethodDetail)) :
    (ms.map fun m => Change.method c m.1 m.2).filterMap Change.method? = ms := by
  rw [List.filterMap_map]
  exact List.filterMap_some

theorem mem_added {c : TypeId} {x : Property} {cs : List Change} :
    (c, x) ∈ added cs ↔ Change.property c x ∈ cs := by
  rw [added, List.mem_filterMap]
  constructor
  · rintro ⟨y, hy, he⟩
    cases y with
    | property u z =>
        obtain ⟨rfl, rfl⟩ : u = c ∧ z = x := by simpa [Change.property?] using he
        exact hy
    | refer m => cases he
    | base u b => cases he
    | key u p => cases he
    | method u m z => cases he
  · intro h
    exact ⟨_, h, rfl⟩

theorem base_mem_of_mem {c b : TypeId} {cs : List Change}
    (h : b ∈ (about c cs).filterMap Change.base?) : Change.base c b ∈ cs := by
  obtain ⟨y, hy, he⟩ := List.mem_filterMap.1 h
  obtain ⟨hmem, howner⟩ := List.mem_filter.1 hy
  cases y with
  | base u b' =>
      obtain rfl : b' = b := by simpa [Change.base?] using he
      obtain rfl : u = c := by simpa [Change.owner?] using howner
      exact hmem
  | refer m => cases he
  | property u z => cases he
  | key u p => cases he
  | method u m z => cases he

theorem filterMap_singleton {α β : Type} (f : α → Option β) (a : α) :
    [a].filterMap f = (f a).toList := by
  cases h : f a <;> simp [h]

section Onto

variable (s : Store) (k : ClassDetail) (x : Change)

theorem Change.base_onto : (x.onto s k).base = x.base?.or k.base := by cases x <;> rfl

theorem Change.key_onto : (x.onto s k).key = k.key ++ x.key?.toList := by
  cases x with
  | key c p => rfl
  | refer n => exact (List.append_nil _).symm
  | base c b => exact (List.append_nil _).symm
  | property c x => exact (List.append_nil _).symm
  | method c n m => exact (List.append_nil _).symm

theorem Change.properties_onto {c : TypeId} (hx : x.owner? = some c) :
    (x.onto s k).properties = k.properties ++ (gained c s.properties.length [x]).map (·.1) := by
  cases x with
  | property u x =>
      obtain rfl : u = c := by simpa [owner?] using hx
      simp [onto, gained, added, property?]
  | refer n => exact (List.append_nil _).symm
  | base c b => exact (List.append_nil _).symm
  | key c p => exact (List.append_nil _).symm
  | method c n m => exact (List.append_nil _).symm

end Onto

namespace Draft

/-- The draft behind a change. -/
def apply (d : Draft) : Change → Draft
  | .refer n =>
      if n.space = primitiveSpace ∧ d.registry.resolve? d.store n .primitive = none then
        { store := (d.store.addType ⟨n, .primitive⟩).1,
          registry := d.registry.add n ⟨d.store.types.length⟩ }
      else d
  | .base c b => { d with store := d.store.setBase c b }
  | .property c x => { d with store := d.store.withProperty c x }
  | .key c p => { d with store := d.store.extendKey c p }
  | .method c n m => { d with store := d.store.withMethod c n m }

/-- The draft behind some changes. -/
def replay (d : Draft) (cs : List Change) : Draft := cs.foldl apply d

variable {d : Draft} {c u : TypeId} {cs cs' : List Change} {k : ClassDetail}

@[simp] theorem replay_nil : d.replay [] = d := rfl

@[simp] theorem replay_cons (x : Change) : d.replay (x :: cs) = (d.apply x).replay cs := rfl

theorem replay_concat (x : Change) : d.replay (cs ++ [x]) = (d.replay cs).apply x := List.foldl_append ..

theorem replay_append : d.replay (cs ++ cs') = (d.replay cs).replay cs' := List.foldl_append ..

/-! ## Replays complete a store -/

theorem completes_apply (x : Change) : d.store.Completes (d.apply x).store := by
  cases x with
  | refer n =>
      rw [apply]
      split
      · exact .addType _ _
      · exact .refl _
  | base c b => exact .changeClass _ c fun _ => ⟨rfl, rfl, rfl, rfl⟩
  | property c x => exact .withProperty _ c x
  | key c p => exact .changeClass _ c fun _ => ⟨rfl, rfl, rfl, rfl⟩
  | method c n m => exact .withMethod _ c n m

theorem completes_replay : d.store.Completes (d.replay cs).store := by
  induction cs generalizing d with
  | nil => exact .refl _
  | cons x cs ih => exact (completes_apply x).trans ih

/-! ## What becomes of the properties -/

theorem properties_apply (x : Change) :
    (d.apply x).store.properties =
      d.store.properties ++ (added [x]).map fun y => owned y.1 y.2 := by
  cases x with
  | refer n =>
      rw [apply]
      split
      · exact (List.append_nil _).symm
      · exact (List.append_nil _).symm
  | property c x => exact Store.properties_withProperty c x
  | base c b => exact (List.append_nil _).symm
  | key c p => exact (List.append_nil _).symm
  | method c n m => exact (List.append_nil _).symm

theorem properties_replay :
    (d.replay cs).store.properties = d.store.properties ++ (added cs).map fun y => owned y.1 y.2 := by
  induction cs generalizing d with
  | nil => exact (List.append_nil _).symm
  | cons x cs ih =>
      rw [replay_cons, ih, properties_apply, List.append_assoc, ← List.map_append, ← added_append]
      rfl

/-! ## What becomes of a class -/

theorem class?_apply (x : Change) :
    (d.apply x).store.class? u =
      (d.store.class? u).map fun k => if x.owner? = some u then x.onto d.store k else k := by
  have hid : ∀ o : Option ClassDetail, (o.map fun k => k) = o := fun o => by cases o <;> rfl
  have hpush : ∀ (o : Option ClassDetail) (c : TypeId) (f : ClassDetail → ClassDetail),
      (if c = u then o.map f else o) = o.map fun k => if c = u then f k else k := by
    intro o c f
    split
    · rfl
    · exact (hid o).symm
  cases x with
  | refer n =>
      rw [apply]
      split
      · rw [Store.class?_addType rfl]
        exact (hid _).symm
      · exact (hid _).symm
  | base c b => simp [apply, Change.owner?, Change.onto, Store.setBase, Store.class?_changeClass, hpush]
  | property c x => simp [apply, Change.owner?, Change.onto, Store.class?_withProperty, hpush]
  | key c p => simp [apply, Change.owner?, Change.onto, Store.extendKey, Store.class?_changeClass, hpush]
  | method c n m => simp [apply, Change.owner?, Change.onto, Store.class?_withMethod, hpush]

/-- How a class stands behind some changes: it has what it had, and then what the changes about it give; its
base is the last one given. -/
structure Became (d : Draft) (cs : List Change) (u : TypeId) (k k' : ClassDetail) : Prop where
  /-- The class behind the changes. -/
  class? : (d.replay cs).store.class? u = some k'
  /-- The last base. -/
  base : k'.base = ((about u cs).filterMap Change.base?).getLast?.or k.base
  /-- The key grows. -/
  key : k'.key = k.key ++ (about u cs).filterMap Change.key?
  /-- The properties grow. -/
  properties : k'.properties = k.properties ++ (gained u d.store.properties.length cs).map (·.1)
  /-- The methods grow. -/
  methods : ∃ ids, k'.methods = k.methods ++ ids ∧
    List.Forall₂ (fun t m => (d.replay cs).store.type? t = some (ownedMethod u m)) ids
      ((about u cs).filterMap Change.method?)

/-- A change of another class leaves a class as it is. -/
theorem Became.concat_of_ne {k' : ClassDetail} (h : d.Became cs u k k') {x : Change}
    (hx : x.owner? ≠ some u) : d.Became (cs ++ [x]) u k k' := by
  have habout : about u [x] = [] := by simp [about, hx]
  have hgained : ∀ n, gained u n [x] = [] := by
    intro n
    cases x with
    | property c x =>
        have hne : c ≠ u := fun h => hx (by rw [Change.owner?, h])
        simp [gained, added, Change.property?, hne]
    | refer n => rfl
    | base c b => rfl
    | key c p => rfl
    | method c n m => rfl
  obtain ⟨ids, hids, hmethods⟩ := h.methods
  rw [← List.append_nil (about u cs), ← habout, ← about_append] at hmethods
  exact
    { class? := by rw [replay_concat, class?_apply, h.class?, Option.map_some, if_neg hx]
      base := by rw [about_append, habout, List.append_nil]; exact h.base
      key := by rw [about_append, habout, List.append_nil]; exact h.key
      properties := by rw [gained_append, hgained, List.append_nil]; exact h.properties
      methods := ⟨ids, hids, hmethods.imp fun t m ht => by
        rw [replay_concat]
        exact (completes_apply x).type?_of_method ht⟩ }

/-- A change of a class is seen in it. -/
theorem Became.concat {k' : ClassDetail} (h : d.Became cs u k k') {x : Change}
    (hx : x.owner? = some u) : d.Became (cs ++ [x]) u k (x.onto (d.replay cs).store k') := by
  have habout : about u [x] = [x] := by simp [about, hx]
  have hclass : (d.replay (cs ++ [x])).store.class? u = some (x.onto (d.replay cs).store k') := by
    rw [replay_concat, class?_apply, h.class?, Option.map_some, if_pos hx]
  obtain ⟨ids, hids, hmethods⟩ := h.methods
  have hstay : List.Forall₂ (fun t m => (d.replay (cs ++ [x])).store.type? t = some (ownedMethod u m))
      ids ((about u cs).filterMap Change.method?) := hmethods.imp fun t m ht => by
    rw [replay_concat]
    exact (completes_apply x).type?_of_method ht
  have hlength : (d.replay cs).store.properties.length = d.store.properties.length + (added cs).length := by
    rw [properties_replay, List.length_append, List.length_map]
  refine ⟨hclass, ?_, ?_, ?_, ?_⟩
  · rw [Change.base_onto, h.base, about_append, habout, List.filterMap_append, filterMap_singleton,
      List.getLast?_append]
    cases x.base? <;> simp
  · rw [Change.key_onto, h.key, about_append, habout, List.filterMap_append, filterMap_singleton,
      List.append_assoc]
  · rw [Change.properties_onto _ _ _ hx, h.properties, gained_append, List.map_append, hlength,
      List.append_assoc]
  · rw [about_append, habout, List.filterMap_append]
    cases x with
    | method c n m =>
        obtain rfl : c = u := by simpa [Change.owner?] using hx
        refine ⟨ids ++ [⟨(d.replay cs).store.types.length⟩], ?_, List.rel_append hstay (.cons ?_ .nil)⟩
        · rw [Change.onto, hids, List.append_assoc]
        · rw [replay_concat]
          exact Store.type?_withMethod_length c n m
    | refer n => exact ⟨ids, hids, by simpa [List.filterMap_cons, Change.method?] using hstay⟩
    | base c b => exact ⟨ids, hids, by simpa [List.filterMap_cons, Change.method?] using hstay⟩
    | property c x => exact ⟨ids, hids, by simpa [List.filterMap_cons, Change.method?] using hstay⟩
    | key c p => exact ⟨ids, hids, by simpa [List.filterMap_cons, Change.method?] using hstay⟩

theorem class?_replay (cs : List Change) (hk : d.store.class? u = some k) : ∃ k', d.Became cs u k k' := by
  induction cs using List.reverseRecOn with
  | nil => exact ⟨k, hk, rfl, (List.append_nil _).symm, (List.append_nil _).symm,
      [], (List.append_nil _).symm, .nil⟩
  | append_singleton cs x ih =>
      obtain ⟨k', h⟩ := ih
      by_cases hx : x.owner? = some u
      · exact ⟨_, h.concat hx⟩
      · exact ⟨k', h.concat_of_ne hx⟩

end Draft

/-! ## What a class gains -/

section Gained

variable {c u : TypeId} {n : Nat} {cs : List Change} {p : PropertyId} {x : Property}

theorem mem_gained :
    (p, x) ∈ gained c n cs ↔ ∃ y, n ≤ p.index ∧ (added cs)[p.index - n]? = some (c, y) ∧ x = owned c y := by
  obtain ⟨p⟩ := p
  simp only [gained, List.mem_filterMap, Prod.exists, List.mem_zipIdx_iff_le_and_getElem?_sub,
    Option.ite_none_right_eq_some, Option.some.injEq, Prod.mk.injEq, PropertyId.mk.injEq]
  constructor
  · rintro ⟨_, y, _, ⟨hle, hy⟩, rfl, rfl, rfl⟩
    exact ⟨y, hle, hy, rfl⟩
  · rintro ⟨y, hle, hy, rfl⟩
    exact ⟨c, y, p, ⟨hle, hy⟩, rfl, rfl, rfl⟩

theorem nodup_gained : ((gained c n cs).map (·.1)).Nodup := by
  have hplaces : ((gained c n cs).map (·.1)).Sublist
      (((added cs).zipIdx n).map fun y => (⟨y.2⟩ : PropertyId)) := by
    rw [gained]
    induction (added cs).zipIdx n with
    | nil => exact .slnil
    | cons y ys ih =>
        rw [List.filterMap_cons, List.map_cons]
        split
        · exact ih.cons _
        · next e he =>
            obtain ⟨-, he⟩ := Option.ite_none_right_eq_some.1 he
            obtain rfl := Option.some.inj he
            exact ih.cons_cons _
  refine hplaces.nodup ?_
  have hindices : ((added cs).zipIdx n).map (fun y => (⟨y.2⟩ : PropertyId)) =
      (List.range' n (added cs).length).map PropertyId.mk := by
    rw [← List.zipIdx_map_snd n (added cs), List.map_map]
    rfl
  rw [hindices]
  exact List.Nodup.map (fun a b h => by simpa using h) List.nodup_range'

theorem property?_about : (about c cs).filterMap Change.property? = (added cs).filter (·.1 = c) := by
  rw [about, List.filterMap_filter, added, List.filter_filterMap]
  refine List.filterMap_congr fun x _ => ?_
  cases x with
  | property u x => by_cases h : u = c <;> simp [Change.owner?, Change.property?, Option.filter, h]
  | refer m => rfl
  | base u b => simp [Change.property?]
  | key u p => simp [Change.property?]
  | method u m d => simp [Change.property?]

theorem map_snd_gained :
    (gained c n cs).map (·.2) = ((about c cs).filterMap Change.property?).map fun y => owned c y.2 := by
  rw [property?_about, gained]
  generalize added cs = ys
  induction ys generalizing n with
  | nil => rfl
  | cons y ys ih =>
      rw [List.zipIdx_cons, List.filterMap_cons, List.filter_cons]
      by_cases h : y.1 = c
      · simp only [h, if_true, decide_true, List.map_cons, ih]
      · simp only [h, if_false, decide_false, Bool.false_eq_true, ih]

/-- Changes that give a class no property leave it without one. -/
theorem gained_eq_nil (h : ∀ y ∈ about c cs, y.property? = none) : gained c n cs = [] := by
  rw [← List.map_eq_nil_iff (f := (·.2)), map_snd_gained, List.map_eq_nil_iff]
  exact List.filterMap_eq_nil_iff.2 h

end Gained

theorem Draft.declared_replay {d : Draft} {cs : List Change} {c : TypeId} {k : ClassDetail}
    (hk : d.store.class? c = some k) (hnone : k.properties = []) :
    (d.replay cs).store.declared c = gained c d.store.properties.length cs := by
  obtain ⟨k', hk'⟩ := class?_replay cs hk
  have hplaces : k'.properties = (gained c d.store.properties.length cs).map (·.1) := by
    rw [hk'.properties, hnone, List.nil_append]
  have hthere : ∀ e ∈ gained c d.store.properties.length cs,
      ((d.replay cs).store.property? e.1).map (e.1, ·) = some e := by
    rintro ⟨p, x⟩ he
    obtain ⟨y, hle, hy, rfl⟩ := mem_gained.1 he
    have hp : (d.replay cs).store.property? p = some (owned c y) := by
      rw [Store.property?, properties_replay, List.getElem?_append_right hle, List.getElem?_map, hy]
      rfl
    rw [hp, Option.map_some]
  rw [Store.declared, hk'.class?, Option.map_some, Option.getD_some, hplaces, Store.propertiesAt,
    List.filterMap_map]
  exact (List.filterMap_congr hthere).trans (List.filterMap_some ..)

end EntityModel.Compilation
