import EntityModel.CodeModel.Store
import EntityModel.Proofs.Alignment
import EntityModel.Proofs.Outcome
import Mathlib.Data.Option.Basic

/-!
# Walks in two stores

A property path is a walk through a store: from a class along its lineage to a property, from there to the class
of the property, and so on. `Simulates` tells when every walk that succeeds in one store succeeds in another as
well and ends at the property that stands for the first. A class of the first store may still be without base and
members: no walk that succeeds has found anything in it.
-/

namespace EntityModel.CodeModel.Store

variable {R : TypeId → TypeId → Prop} {P : PropertyId → PropertyId → Prop} {s s' : Store}
variable {t t' : TypeId} {name : String}

/-- What a walk takes from a property of one store is there in a property of another. -/
structure Corresponds (R : TypeId → TypeId → Prop) (P : PropertyId → PropertyId → Prop) (s : Store)
    (e e' : PropertyId × Property) : Prop where
  /-- One place stands for the other. -/
  place : P e.1 e'.1
  /-- The names are the same. -/
  name : e'.2.name = e.2.name
  /-- If the walk can go on, one class stands for the other. -/
  type : s.isClass e.2.type → R e.2.type e'.2.type

/-- Each class of a store that stands for a class of another has the same members, or none so far. -/
structure Simulates (R : TypeId → TypeId → Prop) (P : PropertyId → PropertyId → Prop) (s s' : Store) :
    Prop where
  /-- The classes have the same bases and properties, or the first one has neither. -/
  classes : ∀ {t t' k}, R t t' → s.class? t = some k → ∃ k', s'.class? t' = some k' ∧
    (k.base = none ∧ s.declared t = [] ∨
      Option.Rel R k.base k'.base ∧
        List.Forall₂ (Corresponds R P s) (s.declared t) (s'.declared t'))
  /-- The lineages of the second store are not cut off before those of the first. -/
  lineage : ∀ {t t'}, R t t' → ∃ n, s.types.length ≤ n ∧ s'.lineage t' = s'.lineageUpTo n t'

namespace Simulates

variable {e : PropertyId × Property} {p : PropertyId}

theorem isClass (h : Simulates R P s s') (hr : R t t') (ht : s.isClass t) : s'.isClass t' := by
  obtain ⟨k, hk⟩ := Option.isSome_iff_exists.1 ht
  obtain ⟨k', hk', -⟩ := h.classes hr hk
  rw [Store.isClass, hk']
  rfl

/-- A property found along a lineage is found along the lineage of the other class. -/
theorem findSome?_lineageUpTo (h : Simulates R P s s') {n m : Nat} (hn : n ≤ m) (hr : R t t')
    (he : (s.lineageUpTo n t).findSome? (fun c => s.ownProperty? c name) = some e) :
    ∃ e', (s'.lineageUpTo m t').findSome? (fun c => s'.ownProperty? c name) = some e' ∧
      Corresponds R P s e e' := by
  induction n generalizing m t t' with
  | zero => simp [lineageUpTo] at he
  | succ n ih =>
      obtain ⟨m, rfl⟩ : ∃ m', m = m' + 1 := ⟨m - 1, by omega⟩
      rw [lineageUpTo] at he
      cases hk : s.class? t with
      | none => simp [hk] at he
      | some k =>
          simp only [hk, List.findSome?_cons] at he
          obtain ⟨k', hk', hmembers⟩ := h.classes hr hk
          simp only [lineageUpTo, hk', List.findSome?_cons]
          -- Nothing is found at a blank class, so only a class with related members is left.
          rcases hmembers with ⟨hbase, hown⟩ | ⟨hbase, hown⟩
          · simp [ownProperty?, hown, hbase] at he
          · have hfirst : Option.Rel (Corresponds R P s) (s.ownProperty? t name)
                (s'.ownProperty? t' name) :=
              Alignment.find?_rel hown fun _ _ he => by rw [he.name]
            generalize s.ownProperty? t name = o, s'.ownProperty? t' name = o' at hfirst he ⊢
            cases hfirst with
            | some hx =>
                obtain rfl := Option.some.inj he
                exact ⟨_, rfl, hx⟩
            | none =>
                generalize k.base = b, k'.base = b' at hbase he ⊢
                cases hbase with
                | none => cases he
                | some hr' => exact ih (by omega) hr' he

theorem nearest? (h : Simulates R P s s') (hr : R t t') (he : s.nearest? t name = some e) :
    ∃ e', s'.nearest? t' name = some e' ∧ Corresponds R P s e e' := by
  obtain ⟨n, hn, hlineage⟩ := h.lineage hr
  rw [Store.nearest?, hlineage]
  exact h.findSome?_lineageUpTo hn hr he

/-- A walk that succeeds in the first store succeeds in the second. -/
theorem follow (h : Simulates R P s s') (hr : R t t') {path : List String}
    (hp : s.follow t path = .ok p) : ∃ p', s'.follow t' path = .ok p' ∧ P p p' := by
  induction path generalizing t t' with
  | nil => simp [Store.follow] at hp
  | cons name more ih =>
      cases more with
      | nil =>
          rw [Store.follow] at hp ⊢
          cases he : s.nearest? t name with
          | none => simp [he] at hp
          | some e =>
              obtain ⟨e', he', hc⟩ := h.nearest? hr he
              rw [he] at hp
              obtain rfl : e.1 = p := by simpa using hp
              exact ⟨e'.1, by rw [he'], hc.place⟩
      | cons next more =>
          rw [Store.follow] at hp ⊢
          cases he : s.nearest? t name with
          | none => simp [he] at hp
          | some e =>
              obtain ⟨e', he', hc⟩ := h.nearest? hr he
              simp only [he] at hp
              split at hp
              · next hclass =>
                  simp only [he']
                  rw [if_pos (h.isClass (hc.type hclass) hclass)]
                  exact ih (hc.type hclass) hp
              · cases hp

theorem findProperty (h : Simulates R P s s') (hr : R t t') {path : String}
    (hp : s.findProperty t path = .ok p) : ∃ p', s'.findProperty t' path = .ok p' ∧ P p p' := by
  obtain ⟨p', hp', hpp⟩ := h.follow hr (mapError_eq_ok_iff.1 hp)
  exact ⟨p', mapError_eq_ok_iff.2 hp', hpp⟩

/-- Stores whose classes have the same bases and properties, with the same names and types, simulate each other. -/
theorem of_same
    (hclass : ∀ u, (s'.class? u).map (fun k => (k.base, k.properties)) =
      (s.class? u).map fun k => (k.base, k.properties))
    (hprop : ∀ q, (s'.property? q).map (fun x => (x.name, x.type)) =
      (s.property? q).map fun x => (x.name, x.type))
    (hlength : s.types.length ≤ s'.types.length) : Simulates Eq Eq s s' where
  classes {t t' k} hr hk := by
    subst hr
    have hsame := hclass t
    rw [hk, Option.map_some, Option.map_eq_some_iff] at hsame
    obtain ⟨k', hk', hsame⟩ := hsame
    obtain ⟨hbase, hproperties⟩ : k'.base = k.base ∧ k'.properties = k.properties := by simpa using hsame
    refine ⟨k', hk', .inr ⟨?_, ?_⟩⟩
    · rw [hbase]
      cases k.base with
      | none => exact .none
      | some b => exact .some rfl
    · rw [declared, declared, hk, hk', Option.map_some, Option.map_some, Option.getD_some,
        Option.getD_some, hproperties]
      generalize k.properties = ps
      induction ps with
      | nil => exact .nil
      | cons q qs ih =>
          simp only [propertiesAt, List.filterMap_cons] at ih ⊢
          have hq := hprop q
          cases hx : s.property? q with
          | none =>
              rw [hx] at hq
              rw [Option.map_eq_none_iff.1 hq]
              exact ih
          | some x =>
              rw [hx, Option.map_some, Option.map_eq_some_iff] at hq
              obtain ⟨x', hx', hsame⟩ := hq
              obtain ⟨hname, htype⟩ : x'.name = x.name ∧ x'.type = x.type := by simpa using hsame
              rw [hx']
              exact .cons ⟨rfl, hname, fun _ => htype.symm⟩ ih
  lineage _ := ⟨s'.types.length, hlength, rfl⟩

end Simulates

end EntityModel.CodeModel.Store
