import EntityModel.CodeModel.Registry
import EntityModel.Proofs.Outcome
import Mathlib.Logic.Relation

/-!
# What can be reached from a type

A class refers to the class it extends, to the types of its properties, and to those of its methods' parameters and
results. A walk along a path of property names only goes through classes that can be reached in this way
(`exists_of_findProperty`).

A registry is *closed* if whatever can be reached from registered types is registered too, as the type that is found
under its name, and if properties, methods and keys belong to registered classes.
-/

namespace EntityModel.CodeModel

open Relation (ReflTransGen TransGen)

namespace Store

/-- A class refers to a type. -/
inductive Refers (s : Store) (t : TypeId) : TypeId → Prop where
  /-- It extends the type. -/
  | base {k : ClassDetail} {b : TypeId} : s.class? t = some k → k.base = some b → Refers s t b
  /-- A property of it has the type. -/
  | property {e : PropertyId × Property} : e ∈ s.declared t → Refers s t e.2.type
  /-- A parameter of a method of it has the type. -/
  | parameter {k : ClassDetail} {m : TypeId} {d : MethodDetail} {p : Parameter} :
      s.class? t = some k → m ∈ k.methods → s.method? m = some d → p ∈ d.parameters → Refers s t p.type
  /-- The result of a method of it has the type. -/
  | result {k : ClassDetail} {m : TypeId} {d : MethodDetail} {u : TypeId} :
      s.class? t = some k → m ∈ k.methods → s.method? m = some d → d.returns = some u → Refers s t u

section Walks

variable {s : Store} {t u : TypeId} {e : PropertyId × Property} {p : PropertyId} {name path : String}

theorem Refers.isClass (h : s.Refers t u) : ∃ k, s.class? t = some k := by
  cases h with
  | base hk _ => exact ⟨_, hk⟩
  | property he =>
      cases hk : s.class? t with
      | none => simp [declared, hk, propertiesAt] at he
      | some k => exact ⟨k, rfl⟩
  | parameter hk _ _ _ => exact ⟨_, hk⟩
  | result hk _ _ _ => exact ⟨_, hk⟩

theorem reaches_of_mem_lineageUpTo {n : Nat} (h : u ∈ s.lineageUpTo n t) : ReflTransGen s.Refers t u := by
  induction n generalizing t with
  | zero => cases h
  | succ n ih =>
      rw [lineageUpTo] at h
      cases hk : s.class? t with
      | none => simp [hk] at h
      | some k =>
          rw [hk] at h
          rcases List.mem_cons.1 h with rfl | h
          · exact .refl
          · cases hb : k.base with
            | none => simp [hb] at h
            | some b =>
                rw [hb] at h
                exact (ih h).head (.base hk hb)

theorem exists_of_nearest? (h : s.nearest? t name = some e) :
    ∃ c, ReflTransGen s.Refers t c ∧ e ∈ s.declared c := by
  obtain ⟨c, hc, he⟩ := List.exists_of_findSome?_eq_some h
  exact ⟨c, reaches_of_mem_lineageUpTo hc, List.mem_of_find?_eq_some he⟩

/-- A path ends at a property of a class that can be reached. -/
theorem exists_of_follow {names : List String} (h : s.follow t names = .ok p) :
    ∃ c e, ReflTransGen s.Refers t c ∧ e ∈ s.declared c ∧ e.1 = p := by
  induction names generalizing t with
  | nil => cases h
  | cons name more ih =>
      cases hq : s.nearest? t name with
      | none => cases more <;> simp [follow, hq] at h
      | some q =>
          obtain ⟨c, hc, he⟩ := exists_of_nearest? hq
          cases more with
          | nil =>
              obtain rfl : q.1 = p := by simpa [follow, hq] using h
              exact ⟨c, q, hc, he, rfl⟩
          | cons next more =>
              rw [follow, hq] at h
              dsimp only at h
              split at h
              · obtain ⟨c', e, hc', he', hp⟩ := ih h
                exact ⟨c', e, hc.trans (hc'.head (.property he)), he', hp⟩
              · cases h

theorem exists_of_findProperty (h : s.findProperty t path = .ok p) :
    ∃ c e, ReflTransGen s.Refers t c ∧ e ∈ s.declared c ∧ e.1 = p :=
  exists_of_follow (mapError_eq_ok_iff.1 h)

end Walks

end Store

/-- The registered types are closed under references, and what belongs to them belongs to registered classes. -/
structure Registry.IsClosed (r : Registry) (s : Store) : Prop where
  /-- Whatever can be reached from a registered type is registered, and it is the type that is found under its
  name. -/
  reached : ∀ {t u}, t ∈ r.types → TransGen s.Refers t u → u ∈ r.types ∧ r.resolve? s (s.nameOf u) .type = some u
  /-- A registered primitive type is the only registered type with its name. -/
  primitives : ∀ {t}, t ∈ r.types → s.isOf .primitive t → r.types.filter (fun u => s.nameOf u = s.nameOf t) = [t]
  /-- A key property of a registered class is a property of a registered class. -/
  keys : ∀ {t k p}, t ∈ r.types → s.class? t = some k → p ∈ k.key →
    ∃ u ∈ r.types, ∃ k', s.class? u = some k' ∧ p ∈ k'.properties
  /-- The properties of a registered class are there, and the class is their owner. -/
  properties : ∀ {t k p}, t ∈ r.types → s.class? t = some k → p ∈ k.properties →
    ∃ x, s.property? p = some x ∧ x.owner = some t
  /-- The methods of a registered class are there, and the class is their owner. -/
  methods : ∀ {t k u}, t ∈ r.types → s.class? t = some k → u ∈ k.methods →
    ∃ d, s.method? u = some d ∧ d.owner = some t

end EntityModel.CodeModel
