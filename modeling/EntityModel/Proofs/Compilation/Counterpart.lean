import EntityModel.Proofs.Compilation.Rearrangement

/-!
# Counterparts

In the compilations of two graphs that differ in the order of their types, the class at one place is the
counterpart of the class at another if both show the same declaration. A container is declared behind the types of
its schema, so its class is its own counterpart, even where two containers are alike. This makes counterparts
unique. Every name that leads to a class in one compilation leads to its counterpart in the other.
-/

namespace EntityModel.Compilation

open CodeModel
open Edm (Graph Schema NamedType Container)

/-- Two places belong to the same declaration; a container has one place. -/
def Paired (n : Nat) (xs xs' : List Declaration) (t t' : TypeId) : Prop :=
  ∃ x, (x, t) ∈ placedFrom n xs ∧ (x, t') ∈ placedFrom n xs' ∧ (x.container?.isSome → t = t')

/-- The class at one place stands for the class at another. -/
abbrev Counterpart (g g' : Graph) (n : Nat) : TypeId → TypeId → Prop :=
  Paired n (declarations g) (declarations g')

/-! ## Names -/

section Names

variable {n : Nat} {xs xs' ys ys' : List Declaration} {name : QualifiedName}

theorem Paired.append_left {t t' : TypeId} (h : Paired n xs xs' t t') : Paired n (xs ++ ys) (xs' ++ ys') t t' := by
  obtain ⟨x, hx, hx', hcontainer⟩ := h
  refine ⟨x, ?_, ?_, hcontainer⟩
  · rw [placedFrom_append]
    exact List.mem_append_left _ hx
  · rw [placedFrom_append]
    exact List.mem_append_left _ hx'

theorem Paired.append_right {t t' : TypeId} (hlength : xs'.length = xs.length)
    (h : Paired (n + xs.length) ys ys' t t') : Paired n (xs ++ ys) (xs' ++ ys') t t' := by
  obtain ⟨x, hx, hx', hcontainer⟩ := h
  refine ⟨x, ?_, ?_, hcontainer⟩
  · rw [placedFrom_append]
    exact List.mem_append_right _ hx
  · rw [placedFrom_append, hlength]
    exact List.mem_append_right _ hx'

theorem rel_lookup_append (hlength : xs'.length = xs.length)
    (hx : Option.Rel (Paired n xs xs') ((historyOf (placedFrom n xs)).lookup name)
      ((historyOf (placedFrom n xs')).lookup name))
    (hy : Option.Rel (Paired (n + xs.length) ys ys') ((historyOf (placedFrom (n + xs.length) ys)).lookup name)
      ((historyOf (placedFrom (n + xs.length) ys')).lookup name)) :
    Option.Rel (Paired n (xs ++ ys) (xs' ++ ys')) ((historyOf (placedFrom n (xs ++ ys))).lookup name)
      ((historyOf (placedFrom n (xs' ++ ys'))).lookup name) := by
  have hhistory : ∀ us vs : List (Declaration × TypeId), historyOf (us ++ vs) = historyOf us ++ historyOf vs :=
    fun _ _ => List.map_append
  rw [placedFrom_append, placedFrom_append, hhistory, hhistory, List.lookup_append, List.lookup_append, hlength]
  generalize (historyOf (placedFrom n xs)).lookup name = o at hx ⊢
  generalize (historyOf (placedFrom n xs')).lookup name = o' at hx ⊢
  cases hx with
  | some h => exact .some h.append_left
  | none => exact Alignment.option_imp hy fun _ _ h => h.append_right hlength

theorem rel_lookup_types {ts ts' : List NamedType} (h : ts.Perm ts') (hnames : (ts.map NamedType.name).Nodup) :
    Option.Rel (Paired n (ts.map .type) (ts'.map .type))
      ((historyOf (placedFrom n (ts.map .type))).lookup name)
      ((historyOf (placedFrom n (ts'.map .type))).lookup name) := by
  have hiff : (historyOf (placedFrom n (ts.map .type))).lookup name = none ↔
      (historyOf (placedFrom n (ts'.map .type))).lookup name = none := by
    rw [lookup_historyOf_eq_none_iff, lookup_historyOf_eq_none_iff, ((h.map _).map _).mem_iff]
  cases ht : (historyOf (placedFrom n (ts.map .type))).lookup name with
  | none =>
      rw [hiff.1 ht]
      exact .none
  | some t =>
      cases ht' : (historyOf (placedFrom n (ts'.map .type))).lookup name with
      | none =>
          rw [hiff.2 ht'] at ht
          cases ht
      | some t' =>
          obtain ⟨x, hx, hname⟩ := exists_of_lookup ht
          obtain ⟨x', hx', hname'⟩ := exists_of_lookup ht'
          obtain ⟨y, hy, rfl⟩ := List.mem_map.1 (mem_of_mem_placedFrom hx)
          obtain ⟨y', hy', rfl⟩ := List.mem_map.1 (mem_of_mem_placedFrom hx')
          obtain rfl := List.inj_on_of_nodup_map hnames hy (h.mem_iff.2 hy') (hname.trans hname'.symm)
          exact .some ⟨_, hx, hx', fun hc => by cases hc⟩

theorem rel_lookup_self : Option.Rel (Paired n xs xs) ((historyOf (placedFrom n xs)).lookup name)
    ((historyOf (placedFrom n xs)).lookup name) := by
  cases ht : (historyOf (placedFrom n xs)).lookup name with
  | none => exact .none
  | some t =>
      obtain ⟨x, hx, -⟩ := exists_of_lookup ht
      exact .some ⟨x, hx, hx, fun _ => rfl⟩

theorem rel_lookup_schemas {as bs : List Schema} (h : List.Forall₂ Reordered as bs)
    (hnames : ((as.flatMap Schema.types).map NamedType.name).Nodup) :
    Option.Rel (Paired n (as.flatMap declarationsOf) (bs.flatMap declarationsOf))
      ((historyOf (placedFrom n (as.flatMap declarationsOf))).lookup name)
      ((historyOf (placedFrom n (bs.flatMap declarationsOf))).lookup name) := by
  induction h generalizing n with
  | nil => exact .none
  | @cons a b as bs hs _ ih =>
      rw [List.flatMap_cons, List.map_append, List.nodup_append] at hnames
      rw [List.flatMap_cons, List.flatMap_cons]
      refine rel_lookup_append hs.declarationsOf.length_eq.symm ?_ (ih hnames.2.1)
      unfold declarationsOf
      rw [hs.containers]
      exact rel_lookup_append (by simp [hs.types.length_eq]) (rel_lookup_types hs.types hnames.1) rel_lookup_self

end Names

/-! ## Pairs -/

/-- A declaration, with its place if it is a container. -/
def pinned (x : Declaration × TypeId) : Declaration × Option TypeId := (x.1, x.1.container?.map fun _ => x.2)

section Pairs

variable {g g' : Graph} {n : Nat} {name : QualifiedName} {t t' u u' : TypeId}

theorem map_pinned_types (ts : List NamedType) :
    (placedFrom n (ts.map .type)).map pinned = ts.map fun t => (.type t, none) := by
  induction ts generalizing n with
  | nil => rfl
  | cons t ts ih => rw [List.map_cons, placedFrom_cons, List.map_cons, List.map_cons, ih]; rfl

/-- Both graphs have the same declarations, the containers in the same places. -/
theorem Rearranged.pinned_perm (h : Rearranged g g') :
    ((placed g n).map pinned).Perm ((placed g' n).map pinned) := by
  have hschemas := h.schemas
  unfold placed Compilation.declarations
  generalize g.schemas = as at hschemas ⊢
  generalize g'.schemas = bs at hschemas ⊢
  clear h
  induction hschemas generalizing n with
  | nil => exact .refl _
  | @cons a b as bs hs _ ih =>
      rw [List.flatMap_cons, List.flatMap_cons, placedFrom_append, placedFrom_append, List.map_append,
        List.map_append, hs.declarationsOf.length_eq]
      refine List.Perm.append ?_ ih
      unfold declarationsOf
      rw [hs.containers, placedFrom_append, placedFrom_append, List.map_append, List.map_append,
        map_pinned_types, map_pinned_types, List.length_map, List.length_map, hs.types.length_eq]
      exact (hs.types.map _).append_right _

/-- Each class has a counterpart, and no class of the other compilation is left out. -/
theorem Rearranged.exists_counterparts (h : Rearranged g g') (n : Nat) :
    ∃ ys, List.Forall₂ (fun x y => y.1 = x.1 ∧ Counterpart g g' n x.2 y.2) (placed g n) ys ∧
      ys.Perm (placed g' n) := by
  have hsame : List.Forall₂ (fun x y => x = pinned y) ((placed g' n).map pinned) (placed g' n) :=
    List.forall₂_map_left_iff.2 (List.forall₂_same.2 fun _ _ => rfl)
  obtain ⟨ys, hys, hperm⟩ := List.perm_comp_forall₂ h.pinned_perm hsame
  rw [List.forall₂_map_left_iff] at hys
  refine ⟨ys, ?_, hperm⟩
  have hplaced : List.Forall₂ (fun x y => pinned x = pinned y ∧ y ∈ placed g' n) (placed g n) ys :=
    (Alignment.imp_of_mem hys.flip fun y x hy hxy => ⟨hxy, hperm.mem_iff.1 hy⟩).flip
  refine Alignment.imp_of_mem hplaced ?_
  rintro ⟨x, t⟩ ⟨y, t'⟩ hx ⟨hpinned, hy⟩
  obtain ⟨rfl, hplace⟩ := Prod.mk.inj hpinned
  refine ⟨rfl, x, hx, hy, fun hc => ?_⟩
  obtain ⟨c, hc⟩ := Option.isSome_iff_exists.1 hc
  simpa [hc] using hplace

theorem Paired.symm {xs xs' : List Declaration} (h : Paired n xs xs' t t') : Paired n xs' xs t' t := by
  obtain ⟨x, hx, hx', hcontainer⟩ := h
  exact ⟨x, hx', hx, fun hc => (hcontainer hc).symm⟩

/-- A class has no other counterpart. -/
theorem Counterpart.unique (hd : DistinctTypes g') (h : Counterpart g g' n t t') (h' : Counterpart g g' n t u') :
    t' = u' := by
  obtain ⟨x, hx, hx', hcontainer⟩ := h
  obtain ⟨y, hy, hy', hcontainer'⟩ := h'
  obtain rfl := placedFrom_unique hx hy
  rcases x with x | x
  · exact (hd.unique hx' hy' rfl).2
  · exact (hcontainer rfl).symm.trans (hcontainer' rfl)

theorem Counterpart.eq_iff (hd : DistinctTypes g) (hd' : DistinctTypes g') (h : Counterpart g g' n t t')
    (h' : Counterpart g g' n u u') : t = u ↔ t' = u' := by
  constructor
  · rintro rfl
    exact h.unique hd' h'
  · rintro rfl
    exact Counterpart.unique hd h.symm h'.symm

/-- What a name leads to in one compilation is the counterpart of what it leads to in the other. -/
theorem Rearranged.place?_rel (h : Rearranged g g') (hd : DistinctTypes g) (n : Nat) (name : QualifiedName) :
    Option.Rel (Counterpart g g' n) (place? g n name) (place? g' n name) :=
  rel_lookup_schemas h.schemas hd

theorem Rearranged.counterpart_of_place? (h : Rearranged g g') (hd : DistinctTypes g)
    (ht : place? g n name = some t) (ht' : place? g' n name = some t') : Counterpart g g' n t t' := by
  have hrel := h.place?_rel hd n name
  rw [ht, ht'] at hrel
  cases hrel with
  | some hrel => exact hrel

end Pairs

/-! ## What counterparts have in common -/

section Common

variable {g g' : Graph} {n : Nat} {c c' : TypeId}

theorem Rearranged.declaration? (h : Rearranged g g') (hd : DistinctTypes g) (name : QualifiedName) :
    declaration? g' name = declaration? g name := by
  have hrel := h.place?_rel hd 0 name
  cases hx : Compilation.declaration? g name with
  | none =>
      cases hx' : Compilation.declaration? g' name with
      | none => rfl
      | some x' =>
          obtain ⟨t', ht', -⟩ := exists_place 0 hx'
          have hdeclared := h.isDeclared.1 (isSome_place?_iff.1 (by rw [ht']; rfl))
          obtain ⟨t, ht⟩ := Option.isSome_iff_exists.1 (isSome_place?_iff (n := 0).2 hdeclared)
          obtain ⟨x, hsome, -⟩ := exists_declaration ht
          rw [hx] at hsome
          cases hsome
  | some x =>
      obtain ⟨t, ht, hplaced⟩ := exists_place 0 hx
      rw [ht] at hrel
      obtain ⟨t', ht', y, hy, hy', -⟩ := Alignment.exists_of_some_left hrel
      obtain ⟨x', hx', hplaced'⟩ := exists_declaration ht'
      obtain rfl := placedFrom_unique hplaced hy
      obtain rfl := placedFrom_unique hplaced' hy'
      exact hx'

/-- The chains of bases are the same. -/
theorem Rearranged.acyclicBases (h : Rearranged g g') (hd : DistinctTypes g) (ha : AcyclicBases g) :
    AcyclicBases g' := by
  have hextends : Extends g' = Extends g := by
    funext t u
    simp only [Extends, structured?, h.targetName, h.declaration? hd]
  unfold AcyclicBases
  rw [hextends]
  exact ha

/-- The containers have the same classes. -/
theorem Rearranged.containersOf (h : Rearranged g g') (n : Nat) :
    containersOf (placed g' n) = containersOf (placed g n) := by
  have hschemas := h.schemas
  unfold placed Compilation.declarations Compilation.containersOf
  generalize g.schemas = as at hschemas ⊢
  generalize g'.schemas = bs at hschemas ⊢
  clear h
  induction hschemas generalizing n with
  | nil => rfl
  | @cons a b as bs hs _ ih =>
      rw [List.flatMap_cons, List.flatMap_cons, placedFrom_append, placedFrom_append, select_append,
        select_append, ← hs.declarationsOf.length_eq, ih]
      unfold declarationsOf
      rw [hs.containers, placedFrom_append, placedFrom_append, select_append, select_append,
        select_placedFrom_of_none (x := .type) fun _ => rfl, select_placedFrom_of_none (x := .type) fun _ => rfl,
        List.length_map, List.length_map, hs.types.length_eq]

/-- The class of a container is its own counterpart. -/
theorem Rearranged.counterpart_of_container (h : Rearranged g g') {x : Container}
    (hx : (x, c) ∈ Compilation.containersOf (placed g n)) : Counterpart g g' n c c :=
  ⟨.container x, placed_of_containersOf hx, placed_of_containersOf (h.containersOf n ▸ hx), fun _ => rfl⟩

/-- The same operations are bound to a class and its counterpart. -/
theorem Rearranged.boundTo (h : Rearranged g g') (hd : DistinctTypes g) (hc : Counterpart g g' n c c') :
    boundTo g' n c' = boundTo g n c := by
  have hbinds : ∀ name, place? g' n name = some c' ↔ place? g n name = some c := by
    intro name
    have hrel := h.place?_rel hd n name
    constructor
    · intro hc'
      rw [hc'] at hrel
      obtain ⟨u, hu, hcounterpart⟩ := Alignment.exists_of_some_right hrel
      rw [hu, (hcounterpart.eq_iff hd (h.distinctTypes hd) hc).2 rfl]
    · intro hplace
      rw [hplace] at hrel
      obtain ⟨u', hu', hcounterpart⟩ := Alignment.exists_of_some_left hrel
      rw [hu', (hcounterpart.eq_iff hd (h.distinctTypes hd) hc).1 rfl]
  unfold Compilation.boundTo
  rw [h.operations, h.targetName]
  refine List.filter_congr fun o _ => ?_
  cases o.binding? with
  | none => rfl
  | some p => simp only [hbinds]

theorem Rearranged.importedBy (h : Rearranged g g') : importedBy g' = importedBy g := by
  funext x
  cases x with
  | type t => rfl
  | container c => simp only [Compilation.importedBy, h.operation?]

end Common

end EntityModel.Compilation
