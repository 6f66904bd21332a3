import EntityModel.CodeModel.Registry
import Mathlib.Data.List.Induction
import Mathlib.Data.List.Perm.Basic

/-!
# Registries by their history

A registry is determined by what has been registered, in order: `ofHistory` replays a list of names with their
types. The three parts of a registry are then three views of that list. The types are its second components, the
index finds its first entry for a name, and a namespace has the types of the entries that are in it, the
namespaces standing in the order of their first entries.
-/

namespace EntityModel.CodeModel.Registry

/-- The types registered with their names, in order. -/
abbrev History := List (QualifiedName × TypeId)

/-- Registers more types. -/
def addAll (r : Registry) (h : History) : Registry := h.foldl (fun r e => r.add e.1 e.2) r

/-- The registry after a history. -/
def ofHistory (h : History) : Registry := addAll {} h

@[simp] theorem addAll_nil (r : Registry) : r.addAll [] = r := rfl

@[simp] theorem addAll_cons (r : Registry) (e : QualifiedName × TypeId) (h : History) :
    r.addAll (e :: h) = (r.add e.1 e.2).addAll h := rfl

theorem addAll_append (r : Registry) (h k : History) :
    r.addAll (h ++ k) = (r.addAll h).addAll k := by
  rw [addAll, List.foldl_append]
  rfl

theorem ofHistory_append (h k : History) : ofHistory (h ++ k) = (ofHistory h).addAll k :=
  addAll_append {} h k

theorem ofHistory_concat (h : History) (e : QualifiedName × TypeId) :
    ofHistory (h ++ [e]) = (ofHistory h).add e.1 e.2 := ofHistory_append h [e]

/-! ## Types and index -/

theorem types_ofHistory (h : History) : (ofHistory h).types = h.map (·.2) := by
  induction h using List.reverseRecOn with
  | nil => rfl
  | append_singleton h e ih => rw [ofHistory_concat, add, ih, List.map_append]; rfl

/-- The index finds the first type registered under a name. -/
theorem lookup_index_ofHistory (h : History) (n : QualifiedName) :
    (ofHistory h).index.lookup n = h.lookup n := by
  induction h using List.reverseRecOn with
  | nil => rfl
  | append_singleton h e ih =>
      rw [ofHistory_concat, add, List.lookup_append, ← ih]
      split
      · next hold =>
          by_cases hn : n = e.1
          · subst hn
            obtain ⟨t, ht⟩ := Option.isSome_iff_exists.1 hold
            rw [ht, Option.some_or]
          · have hne : (n == e.1) = false := by simpa using hn
            have hlast : List.lookup n [e] = none := by
              rw [List.lookup_cons, hne]
              rfl
            rw [hlast, Option.or_none]
      · next hnew =>
          rw [List.lookup_append]

/-! ## Namespaces -/

/-- The namespaces of a history, in the order of their first types. -/
def spaces (h : History) : List String :=
  h.foldl (fun ns e => if e.1.space ∈ ns then ns else ns ++ [e.1.space]) []

/-- The types of a history that are in a namespace. -/
def inSpace (h : History) (space : String) : List TypeId :=
  (h.filter fun e => e.1.space = space).map (·.2)

theorem spaces_concat (h : History) (e : QualifiedName × TypeId) :
    spaces (h ++ [e]) = if e.1.space ∈ spaces h then spaces h else spaces h ++ [e.1.space] := by
  rw [spaces, List.foldl_append]
  rfl

theorem inSpace_concat (h : History) (e : QualifiedName × TypeId) (space : String) :
    inSpace (h ++ [e]) space =
      if e.1.space = space then inSpace h space ++ [e.2] else inSpace h space := by
  by_cases hs : e.1.space = space
  · simp [inSpace, hs]
  · simp [inSpace, hs]

theorem mem_spaces {h : History} {space : String} :
    space ∈ spaces h ↔ ∃ e ∈ h, e.1.space = space := by
  induction h using List.reverseRecOn with
  | nil => simp [spaces]
  | append_singleton h e ih =>
      rw [spaces_concat]
      constructor
      · intro hm
        split at hm
        · obtain ⟨x, hx, hs⟩ := ih.1 hm
          exact ⟨x, List.mem_append_left _ hx, hs⟩
        · rcases List.mem_append.1 hm with hm | hm
          · obtain ⟨x, hx, hs⟩ := ih.1 hm
            exact ⟨x, List.mem_append_left _ hx, hs⟩
          · exact ⟨e, by simp, (List.mem_singleton.1 hm).symm⟩
      · rintro ⟨x, hx, rfl⟩
        rcases List.mem_append.1 hx with hx | hx
        · have hm := ih.2 ⟨x, hx, rfl⟩
          split
          · exact hm
          · exact List.mem_append_left _ hm
        · obtain rfl := List.mem_singleton.1 hx
          split
          · assumption
          · simp

/-- The namespaces stand in the order of their first entries. -/
theorem pairwise_spaces (h : History) :
    (spaces h).Pairwise fun a b => (h.map (·.1.space)).idxOf a < (h.map (·.1.space)).idxOf b := by
  induction h using List.reverseRecOn with
  | nil => exact .nil
  | append_singleton h e ih =>
      have hold : ∀ a ∈ spaces h, a ∈ h.map (·.1.space) := by
        intro a ha
        obtain ⟨x, hx, rfl⟩ := mem_spaces.1 ha
        exact List.mem_map_of_mem hx
      have hkept : ∀ a ∈ spaces h,
          ((h ++ [e]).map (·.1.space)).idxOf a = (h.map (·.1.space)).idxOf a := by
        intro a ha
        rw [List.map_append, List.idxOf_append_of_mem (hold a ha)]
      have hfirst : (spaces h).Pairwise fun a b =>
          ((h ++ [e]).map (·.1.space)).idxOf a < ((h ++ [e]).map (·.1.space)).idxOf b :=
        ih.imp_of_mem fun ha hb hab => by rwa [hkept _ ha, hkept _ hb]
      rw [spaces_concat]
      split
      · exact hfirst
      · next hnew =>
          refine List.pairwise_append.2 ⟨hfirst, List.pairwise_singleton _ _, fun a ha b hb => ?_⟩
          obtain rfl := List.mem_singleton.1 hb
          have hnot : e.1.space ∉ h.map (·.1.space) := by
            intro hmem
            obtain ⟨x, hx, hspace⟩ := List.mem_map.1 hmem
            exact hnew (mem_spaces.2 ⟨x, hx, hspace⟩)
          rw [hkept a ha, List.map_append, List.idxOf_append_of_notMem hnot]
          exact Nat.lt_of_lt_of_le (List.idxOf_lt_length_of_mem (hold a ha)) (Nat.le_add_right _ _)

theorem nodup_spaces (h : History) : (spaces h).Nodup := by
  induction h using List.reverseRecOn with
  | nil => simp [spaces]
  | append_singleton h e ih =>
      rw [spaces_concat]
      split
      · exact ih
      · next hnew => exact List.nodup_append.2 ⟨ih, by simp, by grind⟩

/-- Adding to a namespace that is open changes it and no other; a new namespace comes last. -/
theorem addToNamespace_map {space : String} {t : TypeId} {f g : String → List TypeId}
    (hself : g space = f space ++ [t]) (hother : ∀ n, n ≠ space → g n = f n)
    {ns : List String} (hns : ns.Nodup) (hempty : space ∉ ns → f space = []) :
    addToNamespace space t (ns.map fun n => ⟨n, f n⟩) =
      (if space ∈ ns then ns else ns ++ [space]).map fun n => ⟨n, g n⟩ := by
  induction ns with
  | nil => simp [addToNamespace, hself, hempty]
  | cons n ns ih =>
      rw [List.nodup_cons] at hns
      rw [List.map_cons, addToNamespace]
      by_cases hn : n = space
      · subst hn
        have hrest : ns.map (fun m => (⟨m, f m⟩ : Namespace)) = ns.map fun m => ⟨m, g m⟩ :=
          List.map_congr_left fun m hm => by rw [hother m fun h => hns.1 (h ▸ hm)]
        simp [hself, hrest]
      · have hmem : space ∈ n :: ns ↔ space ∈ ns := by
          simp [List.mem_cons, Ne.symm hn]
        simp only [hn, if_false, ih hns.2 fun h => hempty (hmem.not.2 h), hmem]
        split
        · rw [List.map_cons, hother n hn]
        · rw [List.cons_append, List.map_cons, hother n hn]

/-- A namespace has the types registered in it, in order. -/
theorem namespaces_ofHistory (h : History) :
    (ofHistory h).namespaces = (spaces h).map fun n => ⟨n, inSpace h n⟩ := by
  induction h using List.reverseRecOn with
  | nil => rfl
  | append_singleton h e ih =>
      rw [ofHistory_concat, add, ih, spaces_concat]
      refine addToNamespace_map ?_ ?_ (nodup_spaces h) ?_
      · rw [inSpace_concat, if_pos rfl]
      · intro n hn
        rw [inSpace_concat, if_neg (Ne.symm hn)]
      · intro hnew
        have hnone : h.filter (fun x => x.1.space = e.1.space) = [] :=
          List.filter_eq_nil_iff.2 fun x hx hs => hnew (mem_spaces.2 ⟨x, hx, by simpa using hs⟩)
        rw [inSpace, hnone, List.map_nil]

/-- The order of the namespaces depends on the namespaces of the entries alone. -/
theorem spaces_congr {h k : History} (hspaces : h.map (·.1.space) = k.map (·.1.space)) : spaces h = spaces k := by
  have hfold : ∀ h : History, spaces h =
      (h.map (·.1.space)).foldl (fun ns space => if space ∈ ns then ns else ns ++ [space]) [] := by
    intro h
    rw [spaces, List.foldl_map]
  rw [hfold, hfold, hspaces]

theorem addToNamespace_perm (space : String) (t : TypeId) (ns : List Namespace) :
    ((addToNamespace space t ns).flatMap (·.types)).Perm (ns.flatMap (·.types) ++ [t]) := by
  induction ns with
  | nil => exact .refl _
  | cons n ns ih =>
      rw [addToNamespace]
      split
      · rw [List.flatMap_cons, List.flatMap_cons, List.append_assoc, List.append_assoc]
        exact List.perm_append_comm.append_left n.types
      · rw [List.flatMap_cons, List.flatMap_cons, List.append_assoc]
        exact ih.append_left n.types

/-- The namespaces together have all types. -/
theorem namespaces_perm (h : History) : ((ofHistory h).namespaces.flatMap (·.types)).Perm (ofHistory h).types := by
  induction h using List.reverseRecOn with
  | nil => exact .refl _
  | append_singleton h e ih =>
      rw [ofHistory_concat]
      exact (addToNamespace_perm _ _ _).trans (ih.append_right _)

end EntityModel.CodeModel.Registry
