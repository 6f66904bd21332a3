import EntityModel.Proofs.CodeModel.Walk
import EntityModel.Proofs.Compilation.Reference

/-!
# Filling the structured types

What the class of a structured type gets is told member by member: the class that it extends, one property for
each structural and then for each navigation property, and the properties that the key paths lead to. Every step
is described by the changes it makes, all of them about one class (`Logged`), and by the exact condition under
which it succeeds.

A key path is followed while only the classes up to this one have been filled. Where it leads to a property, it
still does when all of them are (`simulates_replay`): a class that has not been filled yet is without base and
properties, so no walk that succeeds has found anything in it.
-/

namespace EntityModel.Compilation

open CodeModel
open Edm (Graph StructuredType)

/-! ## Changes of one class -/

/-- Some changes are about one class, apart from references to some names. -/
structure Logged (c : TypeId) (own : List Change) (names : List QualifiedName) (cs : List Change) :
    Prop where
  /-- The changes of the class. -/
  own : about c cs = own
  /-- No other class is changed. -/
  others : ∀ u, u ≠ c → about u cs = []
  /-- The names that are referred to. -/
  names : referred cs = names

namespace Logged

variable {c : TypeId} {own own' cs cs' : List Change} {names names' : List QualifiedName}

theorem nil : Logged c [] [] [] := ⟨rfl, fun _ _ => rfl, rfl⟩

theorem append (h : Logged c own names cs) (h' : Logged c own' names' cs') :
    Logged c (own ++ own') (names ++ names') (cs ++ cs') where
  own := by rw [about_append, h.own, h'.own]
  others u hu := by rw [about_append, h.others u hu, h'.others u hu]; rfl
  names := by rw [referred_append, h.names, h'.names]

theorem refer (name : QualifiedName) : Logged c [] [name] [.refer name] := ⟨rfl, fun _ _ => rfl, rfl⟩

/-- Changes that all are about a class and refer to nothing. -/
theorem of_owner (h : ∀ x ∈ cs, x.owner? = some c) : Logged c cs [] cs where
  own := List.filter_eq_self.2 fun x hx => by simpa using h x hx
  others u hu := List.filter_eq_nil_iff.2 fun x hx => by simpa [h x hx] using Ne.symm hu
  names := List.filterMap_eq_nil_iff.2 fun x hx => by
    have hx := h x hx
    cases x with
    | refer m => cases hx
    | base u b => rfl
    | property u y => rfl
    | key u p => rfl
    | method u m y => rfl

/-- What holds of references and of the changes of the class holds of all changes. -/
theorem forall_mem {P : Change → Prop} (h : Logged c own names cs) (hrefer : ∀ name, P (.refer name))
    (hown : ∀ x ∈ own, P x) : ∀ x ∈ cs, P x := by
  intro x hx
  cases ho : x.owner? with
  | none =>
      cases x with
      | refer name => exact hrefer name
      | base u b => cases ho
      | property u y => cases ho
      | key u p => cases ho
      | method u m y => cases ho
  | some u =>
      have hmem : x ∈ about u cs := List.mem_filter.2 ⟨hx, by simpa using ho⟩
      by_cases hu : u = c
      · subst hu
        exact hown x (h.own ▸ hmem)
      · rw [h.others u hu] at hmem
        cases hmem

end Logged

/-! ## Visits that change a draft -/

@[simp] theorem flatMap_no_names {α : Type} (as : List α) :
    as.flatMap (fun _ => ([] : List QualifiedName)) = [] := List.flatMap_eq_nil_iff.2 fun _ _ => rfl

section Visits

variable {α : Type} {g : Graph} {n : Nat} {ps : List QualifiedName} {d : Draft} {as : List α}
variable {f : α → Build Unit} {C : α → Prop}

/-- A visit makes the changes of its steps one after another. -/
theorem forM_yields {Q : Store → α → List Change → Prop}
    (mono : ∀ {s s' a cs}, s.Completes s' → Q s a cs → Q s' a cs)
    (step : ∀ {a ps d}, Declares g n ps d →
      (f a).Yields d (C a) fun _ d' => ∃ cs, d' = d.replay cs ∧ Q d'.store a cs)
    (h : Declares g n ps d) :
    (as.forM f).Yields d (∀ a ∈ as, C a) fun _ d' =>
      ∃ css, d' = d.replay css.flatten ∧ List.Forall₂ (Q d'.store) as css := by
  refine Build.Yields.forM_mem (I := fun pre d' =>
    ∃ css, d' = d.replay css.flatten ∧ List.Forall₂ (Q d'.store) pre css) ?_ ⟨[], rfl, .nil⟩
  rintro pre a _ - ⟨css, rfl, hcss⟩
  refine (step (h.replay _)).imp .rfl ?_
  rintro _ _ ⟨cs, rfl, hcs⟩
  refine ⟨css ++ [cs], by simp [Draft.replay_append], List.rel_append (hcss.imp fun a cs hq => ?_)
    (.cons hcs .nil)⟩
  exact mono Draft.completes_replay hq

/-- A visit whose steps each give a property to a class gives it these properties in order. -/
theorem addProperties_yields {c : TypeId} {K : Store → α → Property → Prop}
    (names : α → List QualifiedName)
    (mono : ∀ {s s' a x}, s.Completes s' → K s a x → K s' a x)
    (step : ∀ {a ps d}, Declares g n ps d →
      (f a).Yields d (C a) fun _ d' => ∃ cs, d' = d.replay cs ∧
        ∃ x, K d'.store a x ∧ Logged c [.property c x] (names a) cs)
    (h : Declares g n ps d) :
    (as.forM f).Yields d (∀ a ∈ as, C a) fun _ d' =>
      ∃ cs xs, d' = d.replay cs ∧ List.Forall₂ (K d'.store) as xs ∧
        Logged c (xs.map (.property c)) (as.flatMap names) cs := by
  refine (forM_yields (Q := fun s a cs => ∃ x, K s a x ∧ Logged c [.property c x] (names a) cs)
    (fun hs ⟨x, hx, hl⟩ => ⟨x, mono hs hx, hl⟩) step h).imp .rfl ?_
  rintro _ d' ⟨css, hd, hcss⟩
  refine ⟨css.flatten, ?_⟩
  suffices hxs : ∃ xs, List.Forall₂ (K d'.store) as xs ∧
      Logged c (xs.map (.property c)) (as.flatMap names) css.flatten by
    obtain ⟨xs, hall⟩ := hxs
    exact ⟨xs, hd, hall⟩
  clear hd
  induction hcss with
  | nil => exact ⟨[], .nil, .nil⟩
  | cons hfirst _ ih =>
      obtain ⟨x, hx, hl⟩ := hfirst
      obtain ⟨xs, hxs, hls⟩ := ih
      exact ⟨x :: xs, .cons hx hxs, hl.append hls⟩

end Visits

/-! ## Members -/

/-- The property that a structural property becomes. -/
def IsStructural (g : Graph) (n : Nat) (s : Store) (p : Edm.Property) (x : Property) : Prop :=
  ∃ t, Means g n s (targetName g p.type) t ∧
    x = { name := p.name, type := t, collection := p.collection, nullable := p.nullable,
          fallback := p.fallback }

/-- The property that a navigation property becomes. -/
def IsNavigation (g : Graph) (n : Nat) (p : Edm.NavigationProperty) (x : Property) : Prop :=
  ∃ t, place? g n (targetName g p.type) = some t ∧
    x = { name := p.name, type := t, collection := p.collection, nullable := p.nullable,
          navigation := true, containsTarget := p.containsTarget }

theorem IsStructural.mono {g : Graph} {n : Nat} {s s' : Store} {p : Edm.Property} {x : Property}
    (hs : s.Completes s') (h : IsStructural g n s p x) : IsStructural g n s' p x := by
  obtain ⟨t, ht, rfl⟩ := h
  exact ⟨t, ht.mono hs, rfl⟩

section Members

variable {g : Graph} {n : Nat} {ps : List QualifiedName} {d : Draft} {c : TypeId} {owner : String}

theorem addProperty_apply (x : Property) :
    Build.addProperty c x d = .ok ((), d.apply (.property c x)) := by
  rw [Draft.apply, ← Store.attachProperty_addProperty]
  rfl

theorem addStructural_yields {p : Edm.Property} (h : Declares g n ps d) :
    (addStructural g owner c p).Yields d (LeadsToType g (targetName g p.type)) fun _ d' =>
      ∃ cs, d' = d.replay cs ∧ ∃ x, IsStructural g n d'.store p x ∧
        Logged c [.property c x] [targetName g p.type] cs := by
  refine ((resolve_yields h).bind fun t d' ht => Build.Yields.of_eq_ok (addProperty_apply _)
    (P := fun _ d'' => ∃ cs, d'' = d.replay cs ∧ ∃ x, IsStructural g n d''.store p x ∧
      Logged c [.property c x] [targetName g p.type] cs) ?_).imp (by simp) fun _ _ h => h
  obtain ⟨rfl, ht⟩ := ht
  refine ⟨[.refer _, .property c _], rfl, _, ⟨t, ?_, rfl⟩, ?_⟩
  · exact ht.mono (Draft.completes_apply _)
  · exact (Logged.refer _).append (.of_owner (by simp [Change.owner?]))

theorem addNavigation_yields {p : Edm.NavigationProperty} (h : Declares g n ps d) :
    (addNavigation g owner c p).Yields d (LeadsToClass g (targetName g p.type)) fun _ d' =>
      ∃ cs, d' = d.replay cs ∧ ∃ x, IsNavigation g n p x ∧ Logged c [.property c x] [] cs := by
  refine ((resolveClass_yields h).bind fun t d' ht => Build.Yields.of_eq_ok (addProperty_apply _)
    (P := fun _ d'' => ∃ cs, d'' = d.replay cs ∧ ∃ x, IsNavigation g n p x ∧
      Logged c [.property c x] [] cs) ?_).imp (by simp) fun _ _ h => h
  obtain ⟨rfl, ht⟩ := ht
  exact ⟨[.property c _], rfl, _, ⟨t, ht, rfl⟩, .of_owner (by simp [Change.owner?])⟩

theorem structurals_yields {as : List Edm.Property} (h : Declares g n ps d) :
    (as.forM (addStructural g owner c)).Yields d (∀ p ∈ as, LeadsToType g (targetName g p.type))
      fun _ d' => ∃ cs xs, d' = d.replay cs ∧ List.Forall₂ (IsStructural g n d'.store) as xs ∧
        Logged c (xs.map (.property c)) (as.flatMap fun p => [targetName g p.type]) cs :=
  addProperties_yields (K := IsStructural g n) (fun p => [targetName g p.type]) IsStructural.mono addStructural_yields h

theorem navigations_yields {as : List Edm.NavigationProperty} (h : Declares g n ps d) :
    (as.forM (addNavigation g owner c)).Yields d (∀ p ∈ as, LeadsToClass g (targetName g p.type))
      fun _ d' => ∃ cs xs, d' = d.replay cs ∧ List.Forall₂ (IsNavigation g n) as xs ∧
        Logged c (xs.map (.property c)) (as.flatMap fun _ => []) cs :=
  addProperties_yields (K := fun _ => IsNavigation g n) (fun _ => []) (fun _ hx => hx)
    addNavigation_yields h

/-- A class gets the base that is named. -/
theorem addBase_yields {t : StructuredType} (h : Declares g n ps d) :
    (addBase g t c).Yields d (∀ b ∈ given t.base, LeadsToClass g (targetName g b)) fun _ d' =>
      ∃ base : Option TypeId, d' = d.replay (base.toList.map (.base c)) ∧
        Option.Rel (fun b u => place? g n (targetName g b) = some u) (given t.base) base := by
  rw [addBase]
  cases hb : given t.base with
  | none => exact (Build.Yields.pure ⟨none, rfl, .none⟩).imp (by simp) fun _ _ h => h
  | some b =>
      have hbase : ∀ u d', d' = d ∧ place? g n (targetName g b) = some u →
          (Build.edit fun s => s.setBase c u).Yields d' True fun _ d' =>
            ∃ base : Option TypeId, d' = d.replay (base.toList.map (.base c)) ∧
              Option.Rel (fun b u => place? g n (targetName g b) = some u) (some b) base := by
        rintro u d' ⟨rfl, hu⟩
        exact Build.Yields.of_eq_ok (a := ()) rfl ⟨some u, rfl, .some hu⟩
      exact ((resolveClass_yields h).bind hbase).imp (by simp) fun _ _ h => h

/-- The references of the members of a structured type all lead somewhere. -/
structure MembersLead (g : Graph) (t : StructuredType) : Prop where
  /-- The base is a class. -/
  base : ∀ b ∈ given t.base, LeadsToClass g (targetName g b)
  /-- Each structural property has a type. -/
  properties : ∀ p ∈ t.properties, LeadsToType g (targetName g p.type)
  /-- Each navigation property has a class. -/
  navigation : ∀ p ∈ t.navigation, LeadsToClass g (targetName g p.type)

/-- Fills the class of a structured type, apart from the key. -/
def fillMembers (g : Graph) (t : StructuredType) (c : TypeId) : Build Unit := do
  addBase g t c
  t.properties.forM (addStructural g t.name.dotted c)
  t.navigation.forM (addNavigation g t.name.dotted c)

theorem fillStructured_eq (t : StructuredType) :
    fillStructured g t c = fillMembers g t c >>= fun _ => t.key.forM (addKey c) := by
  simp [fillStructured, fillMembers]

/-- The names that the members of a structured type refer to. -/
def memberNames (g : Graph) (t : StructuredType) : List QualifiedName :=
  t.properties.map fun p => targetName g p.type

/-- The changes by which the class of a structured type gets its base and its properties. -/
def IsMembers (g : Graph) (n : Nat) (s : Store) (t : StructuredType) (c : TypeId)
    (own : List Change) : Prop :=
  ∃ (base : Option TypeId) (xs ys : List Property),
    own = base.toList.map (.base c) ++ (xs ++ ys).map (.property c) ∧
      Option.Rel (fun b u => place? g n (targetName g b) = some u) (given t.base) base ∧
      List.Forall₂ (IsStructural g n s) t.properties xs ∧
      List.Forall₂ (IsNavigation g n) t.navigation ys

theorem IsMembers.mono {s s' : Store} {t : StructuredType} {own : List Change}
    (hs : s.Completes s') (h : IsMembers g n s t c own) : IsMembers g n s' t c own := by
  obtain ⟨base, xs, ys, hown, hbase, hxs, hys⟩ := h
  exact ⟨base, xs, ys, hown, hbase, hxs.imp fun _ _ hx => hx.mono hs, hys⟩

theorem fillMembers_yields {t : StructuredType} (h : Declares g n ps d) :
    (fillMembers g t c).Yields d (MembersLead g t) fun _ d' =>
      ∃ cs own, d' = d.replay cs ∧ IsMembers g n d'.store t c own ∧
        Logged c own (memberNames g t) cs := by
  have hconditions : ((∀ b ∈ given t.base, LeadsToClass g (targetName g b)) ∧
      (∀ p ∈ t.properties, LeadsToType g (targetName g p.type)) ∧
      ∀ p ∈ t.navigation, LeadsToClass g (targetName g p.type)) ↔ MembersLead g t :=
    ⟨fun ⟨hb, hp, hn⟩ => ⟨hb, hp, hn⟩, fun h => ⟨h.base, h.properties, h.navigation⟩⟩
  rw [← hconditions, fillMembers]
  refine (addBase_yields h).bind fun _ d₁ h₁ => ?_
  obtain ⟨base, rfl, hbase⟩ := h₁
  have hd₁ := h.replay (base.toList.map (.base c))
  refine (structurals_yields hd₁).bind fun _ d₂ h₂ => ?_
  obtain ⟨cs, xs, rfl, hxs, hlogged⟩ := h₂
  refine (navigations_yields (hd₁.replay cs)).imp .rfl fun _ d₃ h₃ => ?_
  obtain ⟨cs', ys, rfl, hys, hlogged'⟩ := h₃
  have hbaseLog : Logged c (base.toList.map (.base c)) [] (base.toList.map (.base c)) :=
    .of_owner (by simp [Change.owner?])
  refine ⟨base.toList.map (.base c) ++ (cs ++ cs'), _, ?_,
    ⟨base, xs, ys, rfl, hbase, hxs.imp fun _ _ hx => hx.mono Draft.completes_replay, hys⟩, ?_⟩
  · rw [Draft.replay_append, Draft.replay_append]
  · have hall := hbaseLog.append (hlogged.append hlogged')
    rw [flatMap_no_names, ← List.map_eq_flatMap] at hall
    simpa [memberNames] using hall

end Members

/-! ## Keys -/

section Keys

variable {g : Graph} {d : Draft} {c : TypeId} {path : String}

/-- A longer key does not matter to any walk. -/
theorem simulates_extendKey (s : Store) (p : PropertyId) :
    Store.Simulates Eq Eq s (s.extendKey c p) ∧ Store.Simulates Eq Eq (s.extendKey c p) s := by
  have hclass : ∀ u, ((s.extendKey c p).class? u).map (fun k => (k.base, k.properties)) =
      (s.class? u).map fun k => (k.base, k.properties) := by
    intro u
    rw [Store.extendKey, Store.class?_changeClass]
    split
    · rw [Option.map_map]
      rfl
    · rfl
  have hlength : (s.extendKey c p).types.length = s.types.length := Store.length_types_changeClass _
  exact ⟨.of_same hclass (fun _ => rfl) (Nat.le_of_eq hlength.symm),
    .of_same (fun u => (hclass u).symm) (fun _ => rfl) (Nat.le_of_eq hlength)⟩

theorem findProperty_extendKey {s : Store} {p q : PropertyId} {u : TypeId} :
    (s.extendKey c p).findProperty u path = .ok q ↔ s.findProperty u path = .ok q := by
  constructor
  · intro h
    obtain ⟨q', hq', rfl⟩ := (simulates_extendKey s p).2.findProperty rfl h
    exact hq'
  · intro h
    obtain ⟨q', hq', rfl⟩ := (simulates_extendKey s p).1.findProperty rfl h
    exact hq'

theorem findProperty_replay_key {ps : List PropertyId} {q : PropertyId} {u : TypeId} :
    (d.replay (ps.map (.key c))).store.findProperty u path = .ok q ↔
      d.store.findProperty u path = .ok q := by
  induction ps generalizing d with
  | nil => exact .rfl
  | cons p ps ih => exact ih.trans findProperty_extendKey

theorem addKey_apply :
    addKey c path d =
      match d.store.findProperty c path with
      | .ok p => .ok ((), d.apply (.key c p))
      | .error f => .error f := by
  change (match d.store.findProperty c path with
    | .ok p => Build.edit fun s => s.extendKey c p
    | .error f => Build.fail f : Build Unit) d = _
  cases d.store.findProperty c path with
  | ok p => rfl
  | error f => rfl

/-- The key paths of a class all lead to properties, and these become its key. -/
theorem addKeys_yields {paths : List String} :
    (paths.forM (addKey c)).Yields d (∀ path ∈ paths, ∃ p, d.store.findProperty c path = .ok p)
      fun _ d' => ∃ ps, d' = d.replay (ps.map (.key c)) ∧
        List.Forall₂ (fun path p => d'.store.findProperty c path = .ok p) paths ps := by
  let I (pre : List String) (d' : Draft) := ∃ ps, d' = d.replay (ps.map (.key c)) ∧
    List.Forall₂ (fun path p => d.store.findProperty c path = .ok p) pre ps
  have hrun : (paths.forM (addKey c)).Yields d (∀ path ∈ paths, ∃ p, d.store.findProperty c path = .ok p)
      fun _ d' => I paths d' := Build.Yields.forM_mem ?_ ⟨[], rfl, .nil⟩
  · refine hrun.imp .rfl ?_
    rintro _ _ ⟨ps, rfl, hps⟩
    exact ⟨ps, rfl, hps.imp fun path p hp => findProperty_replay_key.2 hp⟩
  · rintro pre path _ - ⟨ps, rfl, hps⟩
    cases hp : d.store.findProperty c path with
    | ok p =>
        have hrun : addKey c path (d.replay (ps.map (.key c))) =
            .ok ((), d.replay ((ps ++ [p]).map (.key c))) := by
          rw [addKey_apply, findProperty_replay_key.2 hp, List.map_append, Draft.replay_append]
          rfl
        exact (Build.Yields.of_eq_ok hrun ⟨ps ++ [p], rfl, List.rel_append hps (.cons hp .nil)⟩).imp
          (by simp) fun _ _ h => h
    | error f =>
        have hrun : ∃ f', addKey c path (d.replay (ps.map (.key c))) = .error f' := by
          rw [addKey_apply]
          cases hp' : (d.replay (ps.map (.key c))).store.findProperty c path with
          | ok p => rw [findProperty_replay_key, hp] at hp'; cases hp'
          | error f' => exact ⟨f', rfl⟩
        obtain ⟨f', hrun⟩ := hrun
        exact ⟨by simp [hrun], fun hx => by simp [hrun] at hx⟩

end Keys

end EntityModel.Compilation
