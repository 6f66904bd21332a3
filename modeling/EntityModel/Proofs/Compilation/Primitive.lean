import EntityModel.Proofs.Compilation.Registered

/-!
# Primitive types are registered once

The registered types of a draft are the declared classes and, behind them, primitive types. There is a primitive type
under each name in their namespace that the graph refers to, and under no others (`mem_foldl_noted`). If no class is
declared in that namespace, each name is registered once, however often it is referred to
(`Declares.filter_nameOf`).
-/

namespace EntityModel.Compilation

open CodeModel
open Edm (Graph)

/-- No class is declared in the namespace of the primitive types. -/
def SparesPrimitives (g : Graph) : Prop := ∀ x ∈ declarations g, x.name.space ≠ primitiveSpace

instance (g : Graph) : Decidable (SparesPrimitives g) :=
  inferInstanceAs (Decidable (∀ x ∈ declarations g, x.name.space ≠ primitiveSpace))

section Names

variable {g : Graph} {ps names : List QualifiedName} {name : QualifiedName}

theorem SparesPrimitives.not_isDeclared (h : SparesPrimitives g) (hp : name.space = primitiveSpace) :
    ¬ IsDeclared g name := by
  rintro ⟨x, hx, rfl⟩
  exact h x hx hp

theorem sparesPrimitives_of_located (h : Located g) (hspaces : ∀ x ∈ g.schemas, x.space ≠ primitiveSpace) :
    SparesPrimitives g := by
  intro x hx
  obtain ⟨schema, hschema, hx⟩ := List.mem_flatMap.1 hx
  rw [h schema hschema x hx]
  exact hspaces schema hschema

theorem mem_noted {a : QualifiedName} : name ∈ noted g ps a ↔ name ∈ ps ∨ name = a ∧ a.space = primitiveSpace := by
  rw [noted]
  split
  · next h => simp [h.1]
  · next h =>
      rw [not_and, not_or, not_not] at h
      constructor
      · exact .inl
      · rintro (hmem | ⟨rfl, hp⟩)
        · exact hmem
        · exact (h hp).2

theorem mem_foldl_noted :
    name ∈ names.foldl (noted g) ps ↔ name ∈ ps ∨ name ∈ names ∧ name.space = primitiveSpace := by
  induction names generalizing ps with
  | nil => simp
  | cons a names ih =>
      rw [List.foldl_cons, ih, mem_noted, List.mem_cons, or_assoc, or_and_right]
      refine or_congr_right (or_congr_left (and_congr_right ?_))
      rintro rfl
      rfl

theorem nodup_foldl_noted (h : SparesPrimitives g) (hps : ps.Nodup) : (names.foldl (noted g) ps).Nodup := by
  induction names generalizing ps with
  | nil => exact hps
  | cons a names ih =>
      refine ih ?_
      rw [noted]
      split
      · next hnew =>
          have ha : a ∉ ps := hnew.2.resolve_left (h.not_isDeclared hnew.1)
          exact List.nodup_append.2 ⟨hps, List.nodup_singleton a, fun b hb c hc =>
            fun hbc => ha (List.mem_singleton.1 hc ▸ hbc ▸ hb)⟩
      · exact hps

theorem filter_nameOf_of_nodup {s : Store} {ts : List TypeId} (hps : ps.Nodup) (hname : name ∈ ps)
    (hts : List.Forall₂ (fun name t => name.space = primitiveSpace ∧ s.type? t = some ⟨name, .primitive⟩) ps ts) :
    ∃ t, ts.filter (fun u => s.nameOf u = name) = [t] ∧ s.type? t = some ⟨name, .primitive⟩ := by
  induction hts with
  | nil => cases hname
  | @cons first t ps ts ht hts ih =>
      obtain ⟨hfirst, hps⟩ := List.nodup_cons.1 hps
      have hnameOf : s.nameOf t = first := by rw [Store.nameOf, ht.2]; rfl
      rcases List.mem_cons.1 hname with rfl | hname
      · refine ⟨t, ?_, ht.2⟩
        rw [List.filter_cons_of_pos (by simpa using hnameOf), List.filter_eq_nil_iff.2 fun u hu => ?_]
        obtain ⟨other, hother, -, htype⟩ := Alignment.exists_of_mem_right hts hu
        rw [Store.nameOf, htype]
        simpa using ne_of_mem_of_not_mem hother hfirst
      · rw [List.filter_cons_of_neg (by simpa [hnameOf] using Ne.symm (ne_of_mem_of_not_mem hname hfirst))]
        exact ih hps hname

end Names

namespace Declares

variable {g : Graph} {n : Nat} {ps : List QualifiedName} {d : Draft} {name : QualifiedName} {t : TypeId}

/-- The registered types: the declared classes, and then the primitive types with some names. -/
theorem exists_types (h : Declares g n ps d) :
    ∃ ts, d.registry.types = (placed g n).map (·.2) ++ ts ∧
      List.Forall₂ (fun name t => name.space = primitiveSpace ∧ d.store.type? t = some ⟨name, .primitive⟩) ps ts := by
  obtain ⟨more, rfl, hr, hmore⟩ := h.registry
  refine ⟨more.map (·.2), ?_, ?_⟩
  · rw [hr, Registry.types_ofHistory, List.map_append, historyOf, List.map_map]
    rfl
  · rw [List.forall₂_map_left_iff, List.forall₂_map_right_iff]
    exact List.forall₂_same.2 hmore

theorem nameOf_placed {x : Declaration} (h : Declares g n ps d) (hx : (x, t) ∈ placed g n) :
    d.store.nameOf t = x.name := by
  obtain ⟨k, hk, -⟩ := h.classes hx
  rw [Store.nameOf, hk]
  rfl

theorem isOf_placed {x : Declaration} (h : Declares g n ps d) (hx : (x, t) ∈ placed g n) :
    d.store.isOf .primitive t = false := by
  obtain ⟨k, hk, -⟩ := h.classes hx
  have hclass : (Shape.structured k).variant ≠ .primitive := by
    rw [Shape.variant]
    split <;> decide
  simp [Store.isOf, hk, Variant.extends, hclass]

theorem filter_isOf (h : Declares g n ps d) :
    (d.registry.types.filter fun t => !d.store.isOf .primitive t) = (placed g n).map (·.2) ∧
      List.Forall₂ (fun name t => name.space = primitiveSpace ∧ d.store.type? t = some ⟨name, .primitive⟩) ps
        (d.registry.types.filter fun t => d.store.isOf .primitive t) := by
  obtain ⟨ts, htypes, hts⟩ := h.exists_types
  have hplaced : ∀ t ∈ (placed g n).map (·.2), d.store.isOf .primitive t = false := by
    intro t ht
    obtain ⟨x, hx, rfl⟩ := List.mem_map.1 ht
    exact h.isOf_placed hx
  have hprimitive : ∀ t ∈ ts, d.store.isOf .primitive t = true := by
    intro t ht
    obtain ⟨name, -, -, htype⟩ := Alignment.exists_of_mem_right hts ht
    simp [Store.isOf, htype, Shape.variant, Variant.extends]
  rw [htypes, List.filter_append, List.filter_append]
  constructor
  · rw [List.filter_eq_self.2 fun t ht => by rw [hplaced t ht]; rfl,
      List.filter_eq_nil_iff.2 fun t ht => by rw [hprimitive t ht]; simp, List.append_nil]
  · rw [List.filter_eq_nil_iff.2 fun t ht => by rw [hplaced t ht]; simp,
      List.filter_eq_self.2 hprimitive, List.nil_append]
    exact hts

/-- A primitive type is the only registered type with its name. -/
theorem filter_nameOf (h : Declares g n ps d) (hg : SparesPrimitives g) (hps : ps.Nodup) (hname : name ∈ ps) :
    ∃ t, d.registry.types.filter (fun u => d.store.nameOf u = name) = [t] ∧
      d.store.type? t = some ⟨name, .primitive⟩ := by
  obtain ⟨ts, htypes, hts⟩ := h.exists_types
  obtain ⟨-, -, hspace, -⟩ := Alignment.exists_of_mem_left hts hname
  have hplaced : ∀ u ∈ (placed g n).map (·.2), ¬ decide (d.store.nameOf u = name) := by
    intro u hu
    obtain ⟨x, hx, rfl⟩ := List.mem_map.1 hu
    rw [h.nameOf_placed hx, decide_eq_true_eq]
    rintro rfl
    exact hg _ (mem_of_mem_placedFrom hx) hspace
  rw [htypes, List.filter_append, List.filter_eq_nil_iff.2 hplaced, List.nil_append]
  exact filter_nameOf_of_nodup hps hname hts

end Declares

end EntityModel.Compilation
