import EntityModel.Proofs.Alignment
import EntityModel.Proofs.Compilation.Change

/-!
# References to types

Behind the declarations the registry has the declared classes first, and then nothing but primitive types
(`Declares`). So a reference is decided by the graph alone: in the namespace of the primitive types it always
leads to a primitive type, elsewhere to the class of the first declaration with the name, if there is one. Changes
of the draft do not matter for that, except that they may register primitive types.

A primitive type is registered once, with one exception. If a class is declared under its name, the registry
finds that class and no primitive type, so every reference registers another one (`noted`).
-/

namespace EntityModel.Compilation

open CodeModel
open Edm (Graph)

/-! ## What a graph says about names -/

/-- The name that a reference leads to. -/
def targetName (g : Graph) (reference : String) : QualifiedName := .ofText (referredName g reference)

/-- A name is declared. -/
def IsDeclared (g : Graph) (name : QualifiedName) : Prop := ∃ x ∈ declarations g, x.name = name

instance (g : Graph) (name : QualifiedName) : Decidable (IsDeclared g name) :=
  inferInstanceAs (Decidable (∃ x ∈ declarations g, x.name = name))

/-- A name leads to a type. -/
def LeadsToType (g : Graph) (name : QualifiedName) : Prop :=
  name.space = primitiveSpace ∨ IsDeclared g name

/-- A name leads to a class. -/
def LeadsToClass (g : Graph) (name : QualifiedName) : Prop :=
  name.space ≠ primitiveSpace ∧ IsDeclared g name

/-- The place of the first class that is declared under a name. -/
def place? (g : Graph) (n : Nat) (name : QualifiedName) : Option TypeId :=
  (historyOf (placed g n)).lookup name

/-- The first declaration with a name. -/
def declaration? (g : Graph) (name : QualifiedName) : Option Declaration :=
  (declarations g).find? fun x => x.name = name

/-- A type is the one that a name means: the primitive type or the first class with the name. -/
def Means (g : Graph) (n : Nat) (s : Store) (name : QualifiedName) (t : TypeId) : Prop :=
  if name.space = primitiveSpace then s.type? t = some ⟨name, .primitive⟩ else place? g n name = some t

/-- The registered primitive types behind one more reference. -/
def noted (g : Graph) (ps : List QualifiedName) (name : QualifiedName) : List QualifiedName :=
  if name.space = primitiveSpace ∧ (IsDeclared g name ∨ name ∉ ps) then ps ++ [name] else ps

section Lookup

variable {g : Graph} {n : Nat} {name : QualifiedName} {t : TypeId} {s s' : Store}

theorem lookup_eq_some_mem {h : Registry.History} (ht : h.lookup name = some t) : (name, t) ∈ h := by
  induction h with
  | nil => simp at ht
  | cons e h ih =>
      rw [List.lookup_cons] at ht
      split at ht
      · next he =>
          obtain rfl : name = e.1 := by simpa using he
          obtain rfl := Option.some.inj ht
          exact List.mem_cons_self
      · exact List.mem_cons_of_mem _ (ih ht)

theorem lookup_eq_none_iff {h : Registry.History} : h.lookup name = none ↔ name ∉ h.map (·.1) := by
  simp only [List.lookup_eq_none_iff, List.mem_map, Prod.exists, exists_and_right, exists_eq_right,
    not_exists, bne_iff_ne, ne_eq, Prod.forall]
  constructor
  · intro h t ht
    exact h name t ht rfl
  · rintro h a b hab rfl
    exact h b hab

theorem map_fst_historyOf (xs : List Declaration) :
    (historyOf (placedFrom n xs)).map (·.1) = xs.map (·.name) := by
  have hfst : (placedFrom n xs).map (·.1) = xs := map_fst_placedFrom
  conv_rhs => rw [← hfst]
  rw [historyOf, List.map_map, List.map_map]
  rfl

theorem lookup_historyOf_eq_none_iff {xs : List Declaration} :
    (historyOf (placedFrom n xs)).lookup name = none ↔ name ∉ xs.map (·.name) := by
  rw [lookup_eq_none_iff, map_fst_historyOf]

/-- What is found has been declared under the name. -/
theorem exists_of_lookup {xs : List Declaration} (h : (historyOf (placedFrom n xs)).lookup name = some t) :
    ∃ x, (x, t) ∈ placedFrom n xs ∧ x.name = name := by
  obtain ⟨⟨x, t'⟩, hx, he⟩ := List.mem_map.1 (lookup_eq_some_mem h)
  obtain ⟨rfl, rfl⟩ : x.name = name ∧ t' = t := by simpa using he
  exact ⟨x, hx, rfl⟩

theorem place?_eq_none_iff : place? g n name = none ↔ ¬ IsDeclared g name := by
  rw [place?, placed, lookup_historyOf_eq_none_iff]
  simp [IsDeclared]

theorem isSome_place?_iff : (place? g n name).isSome ↔ IsDeclared g name := by
  rw [← Option.ne_none_iff_isSome, ne_eq, place?_eq_none_iff, not_not]

/-- What is found under a name is the class of the first declaration with it. -/
theorem place?_rel (g : Graph) (n : Nat) (name : QualifiedName) :
    Option.Rel (fun t x => (x, t) ∈ placed g n) (place? g n name) (declaration? g name) := by
  suffices h : ∀ (xs : List Declaration) (m : Nat), Option.Rel (fun t x => (x, t) ∈ placedFrom m xs)
      ((historyOf (placedFrom m xs)).lookup name) (xs.find? fun x => x.name = name) from h _ _
  intro xs
  induction xs with
  | nil => exact fun _ => .none
  | cons x xs ih =>
      intro m
      rw [placedFrom_cons, historyOf, List.map_cons, List.lookup_cons, List.find?_cons]
      by_cases hx : x.name = name
      · simp only [hx, BEq.rfl, decide_true]
        exact .some List.mem_cons_self
      · have hne : (name == x.name) = false := by simpa using Ne.symm hx
        simp only [hne, hx, decide_false]
        exact Alignment.option_imp (ih (m + 1)) fun _ _ h => List.mem_cons_of_mem _ h

theorem exists_declaration (h : place? g n name = some t) :
    ∃ x, declaration? g name = some x ∧ (x, t) ∈ placed g n := by
  have hrel := place?_rel g n name
  rw [h] at hrel
  exact Alignment.exists_of_some_left hrel

theorem exists_place {x : Declaration} (n : Nat) (h : declaration? g name = some x) :
    ∃ t, place? g n name = some t ∧ (x, t) ∈ placed g n := by
  have hrel := place?_rel g n name
  rw [h] at hrel
  obtain ⟨t, ht, hx⟩ := Alignment.exists_of_some_right hrel
  exact ⟨t, ht, hx⟩

/-- The class that is found under a name has been declared under it. -/
theorem exists_placed_of_place? (h : place? g n name = some t) :
    ∃ x, (x, t) ∈ placed g n ∧ x.name = name := exists_of_lookup h

theorem Means.mono (h : Means g n s name t) (hs : s.Completes s') : Means g n s' name t := by
  unfold Means at *
  split at h
  · next hp => rw [if_pos hp]; exact hs.type?_of_primitive h
  · next hp => rw [if_neg hp]; exact h

end Lookup

/-! ## Drafts behind the declarations -/

/-- A draft has the declared classes and, behind them, primitive types with some names. -/
structure Declares (g : Graph) (n : Nat) (ps : List QualifiedName) (d : Draft) : Prop where
  /-- The declarations and the primitive types have been registered, in this order. -/
  registry : ∃ more : Registry.History, more.map (·.1) = ps ∧
    d.registry = .ofHistory (historyOf (placed g n) ++ more) ∧
    ∀ e ∈ more, e.1.space = primitiveSpace ∧ d.store.type? e.2 = some ⟨e.1, .primitive⟩
  /-- Each declaration has its class. -/
  classes : ∀ {x t}, (x, t) ∈ placed g n →
    ∃ k, d.store.type? t = some ⟨x.name, .structured k⟩ ∧ x.detail.SameHead k

namespace Declares

variable {g : Graph} {n : Nat} {ps : List QualifiedName} {d : Draft} {name : QualifiedName}
variable {x : Declaration} {t : TypeId}

/-- The declarations leave a draft with nothing but the declared classes. -/
theorem declareAll (s : Store) :
    Declares g s.types.length [] (declareAll (declarations g) { store := s }) where
  registry := ⟨[], rfl, by rw [List.append_nil]; rfl, by simp⟩
  classes {x t} hx := by
    obtain ⟨hle, hx⟩ := mem_placedFrom.1 hx
    refine ⟨x.detail, ?_, .refl _⟩
    simp only [Store.type?, Compilation.declareAll]
    rw [List.getElem?_append_right hle, List.getElem?_map, hx]
    rfl

theorem exists_class (h : Declares g n ps d) (hx : (x, t) ∈ placed g n) :
    ∃ k, d.store.class? t = some k ∧ x.detail.SameHead k := by
  obtain ⟨k, hk, hs⟩ := h.classes hx
  exact ⟨k, by rw [Store.class?, hk]; rfl, hs⟩

/-- What is found under a name that is declared is the first class declared under it. -/
theorem lookup_of_place? (h : Declares g n ps d) (ht : place? g n name = some t) :
    d.registry.index.lookup name = some t := by
  obtain ⟨more, -, hr, -⟩ := h.registry
  rw [hr, Registry.lookup_index_ofHistory, List.lookup_append]
  rw [place?] at ht
  rw [ht, Option.some_or]

theorem resolve?_type_of_place? (h : Declares g n ps d) (ht : place? g n name = some t) :
    d.registry.resolve? d.store name .type = some t := by
  obtain ⟨x, hx, -⟩ := exists_placed_of_place? ht
  obtain ⟨k, hk, -⟩ := h.classes hx
  rw [Registry.resolve?, h.lookup_of_place? ht]
  simp [Option.filter, Store.isOf, hk, Variant.extends]

theorem resolve?_type_of_not_declared (h : Declares g n ps d) (hn : ¬ IsDeclared g name)
    (hp : name.space ≠ primitiveSpace) : d.registry.resolve? d.store name .type = none := by
  obtain ⟨more, -, hr, hmore⟩ := h.registry
  have hnone : more.lookup name = none := by
    refine lookup_eq_none_iff.2 fun hm => hp ?_
    obtain ⟨e, he, rfl⟩ := List.mem_map.1 hm
    exact (hmore e he).1
  have hplace : (historyOf (placed g n)).lookup name = none := place?_eq_none_iff.2 hn
  rw [Registry.resolve?, hr, Registry.lookup_index_ofHistory, List.lookup_append, hplace, hnone]
  rfl

/-- A class that is declared under the name of a primitive type hides it. -/
theorem resolve?_primitive_of_declared (h : Declares g n ps d) (hn : IsDeclared g name) :
    d.registry.resolve? d.store name .primitive = none := by
  obtain ⟨t, ht⟩ := Option.isSome_iff_exists.1 (isSome_place?_iff (n := n).2 hn)
  obtain ⟨x, hx, -⟩ := exists_placed_of_place? ht
  obtain ⟨k, hk, -⟩ := h.classes hx
  rw [Registry.resolve?, h.lookup_of_place? ht]
  have hclass : (Shape.structured k).variant ≠ .primitive := by
    rw [Shape.variant]
    split <;> decide
  simp [Option.filter, Store.isOf, hk, Variant.extends, hclass]

theorem resolve?_primitive_of_not_mem (h : Declares g n ps d) (hn : ¬ IsDeclared g name)
    (hps : name ∉ ps) : d.registry.resolve? d.store name .primitive = none := by
  obtain ⟨more, hmore, hr, -⟩ := h.registry
  have hnone : more.lookup name = none := lookup_eq_none_iff.2 (by rwa [hmore])
  have hplace : (historyOf (placed g n)).lookup name = none := place?_eq_none_iff.2 hn
  rw [Registry.resolve?, hr, Registry.lookup_index_ofHistory, List.lookup_append, hplace, hnone]
  rfl

theorem resolve?_primitive_of_mem (h : Declares g n ps d) (hn : ¬ IsDeclared g name)
    (hps : name ∈ ps) :
    ∃ t, d.registry.resolve? d.store name .primitive = some t ∧
      d.store.type? t = some ⟨name, .primitive⟩ := by
  obtain ⟨more, hmore, hr, hall⟩ := h.registry
  have hplace : (historyOf (placed g n)).lookup name = none := place?_eq_none_iff.2 hn
  cases ht : more.lookup name with
  | none => exact absurd (by rwa [hmore]) (lookup_eq_none_iff.1 ht)
  | some t =>
      have htype := (hall _ (lookup_eq_some_mem ht)).2
      refine ⟨t, ?_, htype⟩
      rw [Registry.resolve?, hr, Registry.lookup_index_ofHistory, List.lookup_append, hplace, ht]
      simp [Option.filter, Store.isOf, htype, Variant.extends, Shape.variant]

/-- A reference registers a primitive type exactly if it is not found. -/
theorem resolve?_primitive_eq_none_iff (h : Declares g n ps d) :
    d.registry.resolve? d.store name .primitive = none ↔ IsDeclared g name ∨ name ∉ ps := by
  by_cases hn : IsDeclared g name
  · simp [hn, h.resolve?_primitive_of_declared hn]
  · by_cases hps : name ∈ ps
    · obtain ⟨t, ht, -⟩ := h.resolve?_primitive_of_mem hn hps
      simp [hn, hps, ht]
    · simp [hps, h.resolve?_primitive_of_not_mem hn hps]

/-! ### Changes -/

/-- A change that registers nothing keeps what is declared. -/
theorem completes (h : Declares g n ps d) {d' : Draft} (hs : d.store.Completes d'.store)
    (hr : d'.registry = d.registry) : Declares g n ps d' where
  registry := by
    obtain ⟨more, hmore, hall, hprims⟩ := h.registry
    exact ⟨more, hmore, hr.trans hall, fun e he =>
      ⟨(hprims e he).1, hs.type?_of_primitive (hprims e he).2⟩⟩
  classes hx := by
    obtain ⟨k, hk, hd⟩ := h.classes hx
    obtain ⟨k', hk', hd'⟩ := hs.type?_of_class hk
    exact ⟨k', hk', hd.trans hd'⟩

theorem refer (h : Declares g n ps d) (name : QualifiedName) :
    Declares g n (noted g ps name) (d.apply (.refer name)) := by
  have hs := d.completes_apply (.refer name)
  rw [noted]
  simp only [Draft.apply, h.resolve?_primitive_eq_none_iff] at hs ⊢
  split
  · next hnew =>
      rw [if_pos hnew] at hs
      obtain ⟨more, hmore, hr, hprims⟩ := h.registry
      refine ⟨⟨more ++ [(name, ⟨d.store.types.length⟩)], ?_, ?_, ?_⟩, ?_⟩
      · rw [List.map_append, hmore]
        rfl
      · rw [← List.append_assoc, Registry.ofHistory_concat, ← hr]
      · intro e he
        rcases List.mem_append.1 he with he | he
        · exact ⟨(hprims e he).1, hs.type?_of_primitive (hprims e he).2⟩
        · obtain rfl := List.mem_singleton.1 he
          exact ⟨hnew.1, by rw [Store.type?_addType, if_pos rfl]⟩
      · intro x t hx
        obtain ⟨k, hk, hd⟩ := h.classes hx
        obtain ⟨k', hk', hd'⟩ := hs.type?_of_class hk
        exact ⟨k', hk', hd.trans hd'⟩
  · exact h

theorem apply (h : Declares g n ps d) (x : Change) :
    Declares g n ((referred [x]).foldl (noted g) ps) (d.apply x) := by
  cases x with
  | refer name => exact h.refer name
  | base c b => exact h.completes (d.completes_apply _) rfl
  | property c y => exact h.completes (d.completes_apply _) rfl
  | key c p => exact h.completes (d.completes_apply _) rfl
  | method c m y => exact h.completes (d.completes_apply _) rfl

theorem replay (h : Declares g n ps d) (cs : List Change) :
    Declares g n ((referred cs).foldl (noted g) ps) (d.replay cs) := by
  induction cs generalizing ps d with
  | nil => exact h
  | cons x cs ih =>
      have hall := ih (h.apply x)
      rw [← List.foldl_append, ← referred_append] at hall
      exact hall

end Declares

/-! ## Resolving a reference -/

section Resolve

variable {g : Graph} {n : Nat} {ps : List QualifiedName} {d : Draft} {reference place : String}

theorem resolve_apply :
    resolve g reference place d =
      if (targetName g reference).space = primitiveSpace then
        match d.registry.resolve? d.store (targetName g reference) .primitive with
        | some t => .ok (t, d)
        | none => Build.register ⟨targetName g reference, .primitive⟩ d
      else
        match d.registry.resolve? d.store (targetName g reference) .type with
        | some t => .ok (t, d)
        | none => .error (.unresolvedType (referredName g reference) place) := by
  unfold targetName
  change (if (QualifiedName.ofText (referredName g reference)).space = primitiveSpace then _ else _ :
    Build TypeId) d = _
  split
  · cases d.registry.resolve? d.store (QualifiedName.ofText (referredName g reference)) .primitive <;> rfl
  · cases d.registry.resolve? d.store (QualifiedName.ofText (referredName g reference)) .type <;> rfl

/-- A reference into the namespace of the primitive types always leads to a primitive type. -/
theorem resolve_of_primitive (place : String) (h : Declares g n ps d)
    (hp : (targetName g reference).space = primitiveSpace) :
    ∃ t, resolve g reference place d = .ok (t, d.apply (.refer (targetName g reference))) ∧
      (d.apply (.refer (targetName g reference))).store.type? t =
        some ⟨targetName g reference, .primitive⟩ := by
  rw [resolve_apply, if_pos hp, Draft.apply]
  cases ht : d.registry.resolve? d.store (targetName g reference) .primitive with
  | some t =>
      have hthere : ¬ (IsDeclared g (targetName g reference) ∨ targetName g reference ∉ ps) := by
        rw [← h.resolve?_primitive_eq_none_iff, ht]
        simp
      rw [not_or, not_not] at hthere
      obtain ⟨u, hu, htype⟩ := h.resolve?_primitive_of_mem hthere.1 hthere.2
      obtain rfl : t = u := by simpa [ht] using hu
      exact ⟨t, by simp, by simpa using htype⟩
  | none =>
      rw [if_pos ⟨hp, rfl⟩]
      exact ⟨_, rfl, by rw [Store.type?_addType, if_pos rfl]⟩

/-- Elsewhere a reference leads to the first class that is declared under its name. -/
theorem resolve_of_not_primitive (place : String) (h : Declares g n ps d)
    (hp : (targetName g reference).space ≠ primitiveSpace) :
    resolve g reference place d =
      match place? g n (targetName g reference) with
      | some t => .ok (t, d)
      | none => .error (.unresolvedType (referredName g reference) place) := by
  rw [resolve_apply, if_neg hp]
  cases ht : place? g n (targetName g reference) with
  | some t => rw [h.resolve?_type_of_place? ht]
  | none => rw [h.resolve?_type_of_not_declared (place?_eq_none_iff.1 ht) hp]

/-- A reference leads to the type that its name means, if there is one. -/
theorem resolve_yields (h : Declares g n ps d) :
    (resolve g reference place).Yields d (LeadsToType g (targetName g reference)) fun t d' =>
      d' = d.apply (.refer (targetName g reference)) ∧
        Means g n d'.store (targetName g reference) t := by
  by_cases hp : (targetName g reference).space = primitiveSpace
  · obtain ⟨t, ht, htype⟩ := resolve_of_primitive place h hp
    refine (Build.Yields.of_eq_ok ht ⟨rfl, ?_⟩).imp (by simp [LeadsToType, hp]) fun _ _ h => h
    rwa [Means, if_pos hp]
  · have hsame : d.apply (.refer (targetName g reference)) = d := by simp [Draft.apply, hp]
    have hrun := resolve_of_not_primitive place h hp
    simp only [LeadsToType, hp, false_or, hsame, Means, if_false]
    cases ht : place? g n (targetName g reference) with
    | some t =>
        have hdeclared : IsDeclared g (targetName g reference) := isSome_place?_iff.1 (by rw [ht]; rfl)
        rw [ht] at hrun
        refine ⟨by simp [hrun, hdeclared], fun {u d'} hx => ?_⟩
        obtain ⟨rfl, rfl⟩ : t = u ∧ d = d' := by simpa [hrun] using hx
        exact ⟨rfl, rfl⟩
    | none =>
        rw [ht] at hrun
        exact ⟨by simp [hrun, place?_eq_none_iff.1 ht], fun hx => by simp [hrun] at hx⟩

theorem resolveClass_of_resolve {t : TypeId} {d' : Draft}
    (h : resolve g reference place d = .ok (t, d')) :
    resolveClass g reference place d =
      if d'.store.isClass t then .ok (t, d') else .error (.unresolvedType reference place) := by
  have hrun : resolveClass g reference place d = (resolve g reference place d >>= fun r =>
      (if r.2.store.isClass r.1 then return r.1 else Build.fail (.unresolvedType reference place) :
        Build TypeId) r.2) := rfl
  rw [hrun, h]
  change (if d'.store.isClass t then _ else _ : Build TypeId) d' = _
  split
  · rfl
  · rfl

/-- A reference leads to the class that is declared first under its name, if there is one. -/
theorem resolveClass_yields (h : Declares g n ps d) :
    (resolveClass g reference place).Yields d (LeadsToClass g (targetName g reference)) fun t d' =>
      d' = d ∧ place? g n (targetName g reference) = some t := by
  by_cases hp : (targetName g reference).space = primitiveSpace
  · obtain ⟨t, ht, htype⟩ := resolve_of_primitive place h hp
    have hrun := resolveClass_of_resolve ht
    rw [Store.isClass, Store.class?, htype] at hrun
    exact ⟨by simp [hrun, LeadsToClass, hp, Shape.class?], fun hx => by simp [hrun, Shape.class?] at hx⟩
  · have hfirst := resolve_of_not_primitive place h hp
    cases ht : place? g n (targetName g reference) with
    | some t =>
        have hdeclared : IsDeclared g (targetName g reference) := isSome_place?_iff.1 (by rw [ht]; rfl)
        obtain ⟨x, hx, -⟩ := exists_placed_of_place? ht
        obtain ⟨k, hk, -⟩ := h.exists_class hx
        rw [ht] at hfirst
        have hrun := resolveClass_of_resolve hfirst
        rw [Store.isClass, hk] at hrun
        refine ⟨by simp [hrun, LeadsToClass, hp, hdeclared], fun {u d'} hx => ?_⟩
        obtain ⟨rfl, rfl⟩ : t = u ∧ d = d' := by simpa [hrun] using hx
        exact ⟨rfl, rfl⟩
    | none =>
        rw [ht] at hfirst
        have hrun : resolveClass g reference place d =
            .error (.unresolvedType (referredName g reference) place) := by
          rw [resolveClass]
          change (resolve g reference place d >>= _) = _
          rw [hfirst]
          rfl
        exact ⟨by simp [hrun, LeadsToClass, place?_eq_none_iff.1 ht], fun hx => by simp [hrun] at hx⟩

end Resolve

end EntityModel.Compilation
