import EntityModel.Proofs.CodeModel.Likeness
import EntityModel.Proofs.Compilation.Counterpart
import Mathlib.Data.List.Zip

/-!
# Compilations that are alike

Two graphs that differ in the order of their types are built into stores that are alike: a class stands for its
counterpart, a primitive type for one of the same name, and a property for the one in the same position of the
counterpart of its class (`Built.alike`). Keys are compared last. Where a key path leads is told by a walk, so it is
shown before that the walks of the one store are those of the other (`Built.simulates`).
-/

namespace EntityModel.Compilation

open CodeModel
open Edm (Graph Operation)

/-! ## What stands for what -/

/-- A type stands for its counterpart if it is a class, and for a type of the same name if it is primitive. -/
def SameType (g g' : Graph) (n : Nat) (s s' : Store) (t t' : TypeId) : Prop :=
  Counterpart g g' n t t' ∨ ∃ name, s.type? t = some ⟨name, .primitive⟩ ∧ s'.type? t' = some ⟨name, .primitive⟩

/-- A property stands for the one in the same position of the counterpart of its class. -/
def SamePosition (g g' : Graph) (n : Nat) (s s' : Store) (p p' : PropertyId) : Prop :=
  ∃ c c' x x', Counterpart g g' n c c' ∧ ((p, x), (p', x')) ∈ (s.declared c).zip (s'.declared c')

section Parts

variable {g g' : Graph} {n : Nat} {s s' : Store} {x : Declaration} {c c' t t' : TypeId} {k k' : ClassDetail}

theorem SamePosition.symm {p p' : PropertyId} (h : SamePosition g g' n s s' p p') :
    SamePosition g' g n s' s p' p := by
  obtain ⟨c, c', x, x', hc, hmem⟩ := h
  refine ⟨c', c, x', x, hc.symm, ?_⟩
  rw [← List.zip_swap]
  exact List.mem_map.2 ⟨_, hmem, rfl⟩

/-- What a name means in one compilation stands for what it means in the other. -/
theorem sameType_of_means (h : Rearranged g g') (hd : DistinctTypes g) {name : QualifiedName}
    (ht : Means g n s name t) (ht' : Means g' n s' name t') : SameType g g' n s s' t t' := by
  unfold Means at ht ht'
  split at ht
  · next hspace =>
      rw [if_pos hspace] at ht'
      exact .inr ⟨name, ht, ht'⟩
  · next hspace =>
      rw [if_neg hspace] at ht'
      exact .inl (h.counterpart_of_place? hd ht ht')

/-- A member becomes the same property in both compilations. -/
theorem IsProperty.same (h : Rearranged g g') (hd : DistinctTypes g) (hc : Counterpart g g' n c c') {m : Member}
    {y y' : Property} (hy : IsProperty g n s c m y) (hy' : IsProperty g' n s' c' m y') :
    SameProperty (SameType g g' n s s') y y' := by
  cases m with
  | structural p =>
      obtain ⟨_, rfl, t, ht, rfl⟩ := hy
      obtain ⟨_, rfl, t', ht', rfl⟩ := hy'
      rw [h.targetName] at ht'
      exact ⟨rfl, sameType_of_means h hd ht ht', .some (.inl hc), rfl, rfl, rfl, rfl, rfl, rfl, .none⟩
  | navigation p =>
      obtain ⟨_, rfl, t, ht, rfl⟩ := hy
      obtain ⟨_, rfl, t', ht', rfl⟩ := hy'
      rw [h.targetName] at ht'
      exact ⟨rfl, .inl (h.counterpart_of_place? hd ht ht'), .some (.inl hc), rfl, rfl, rfl, rfl, rfl, rfl, .none⟩
  | offered collection m =>
      obtain ⟨_, rfl, t, ht, rfl⟩ := hy
      obtain ⟨_, rfl, t', ht', rfl⟩ := hy'
      rw [h.targetName] at ht'
      exact ⟨rfl, .inl (h.counterpart_of_place? hd ht ht'), .some (.inl hc), rfl, rfl, rfl, rfl, rfl, rfl, .none⟩

/-- An operation becomes the same method in both compilations. -/
theorem IsMethodOf.same (h : Rearranged g g') (hd : DistinctTypes g) (hc : Counterpart g g' n c c')
    {o : Operation × String} (hm : IsMethodOf g n s c o t) (hm' : IsMethodOf g' n s' c' o t') :
    SameMethodAt (SameType g g' n s s') s s' t t' := by
  obtain ⟨_, ⟨returns, parameters, hreturns, hparameters, rfl⟩, ht⟩ := hm
  obtain ⟨_, ⟨returns', parameters', hreturns', hparameters', rfl⟩, ht'⟩ := hm'
  refine ⟨_, _, _, ht, ht', .some (.inl hc), ?_, ?_, rfl, rfl, rfl, rfl⟩
  · refine (Alignment.comp hparameters.flip hparameters').imp ?_
    rintro q q' ⟨p, ⟨u, hu, rfl⟩, u', hu', rfl⟩
    rw [h.targetName] at hu'
    exact ⟨rfl, sameType_of_means h hd hu hu', rfl, rfl⟩
  · dsimp only
    generalize given o.1.returns = r at hreturns hreturns'
    cases hreturns with
    | none =>
        cases hreturns'
        exact .none
    | some hu =>
        cases hreturns' with
        | some hu' =>
            rw [resultName, h.targetName] at hu'
            exact .some (sameType_of_means h hd hu hu')

/-- The bases of a class and of its counterpart are counterparts. -/
theorem Shows.base_rel (h : Rearranged g g') (hd : DistinctTypes g) (hk : Shows g n s x c k)
    (hk' : Shows g' n s' x c' k') : Option.Rel (SameType g g' n s s') k.base k'.base := by
  have hbase := hk.base
  have hbase' := hk'.base
  rw [h.targetName] at hbase'
  generalize x.base? = b, k.base = o, k'.base = o' at hbase hbase' ⊢
  cases hbase with
  | none =>
      cases hbase'
      exact .none
  | some hu =>
      cases hbase' with
      | some hu' => exact .some (.inl (h.counterpart_of_place? hd hu hu'))

/-- The properties of a class and of its counterpart are the same. -/
theorem Shows.declared_rel (h : Rearranged g g') (hd : DistinctTypes g) (hc : Counterpart g g' n c c')
    (hk : Shows g n s x c k) (hk' : Shows g' n s' x c' k') :
    List.Forall₂ (fun e e' => SamePosition g g' n s s' e.1 e'.1 ∧ SameProperty (SameType g g' n s s') e.2 e'.2)
      (s.declared c) (s'.declared c') := by
  have hsame := (Alignment.comp hk.properties.flip hk'.properties).imp
    fun y y' ⟨m, hy, hy'⟩ => IsProperty.same h hd hc hy hy'
  rw [List.forall₂_map_left_iff, List.forall₂_map_right_iff, List.forall₂_iff_zip] at hsame
  rw [List.forall₂_iff_zip]
  exact ⟨hsame.1, fun hmem => ⟨⟨c, c', _, _, hc, hmem⟩, hsame.2 hmem⟩⟩

end Parts

/-! ## Built drafts -/

section Built

variable {g g' : Graph} {s : Store} {d d' : Draft} {x y : Declaration} {c c' b t t' : TypeId}
variable {p p' q q' : PropertyId}

/-- A property belongs to one class. -/
theorem Built.eq_of_mem_declared (hb : Built g s d) (hx : (x, c) ∈ placed g s.types.length)
    (hy : (y, b) ∈ placed g s.types.length) {e e' : PropertyId × Property} (he : e ∈ d.store.declared c)
    (he' : e' ∈ d.store.declared b) (hp : e.1 = e'.1) : c = b := by
  have howner : ∀ {x c e}, (x, c) ∈ placed g s.types.length → e ∈ d.store.declared c → e.2.owner = some c := by
    intro x c e hx he
    obtain ⟨k, hk⟩ := hb.shows hx
    obtain ⟨m, -, hm⟩ := Alignment.exists_of_mem_right hk.properties (List.mem_map_of_mem he)
    exact hm.owner
  have hsame := Store.property?_of_mem_declared he
  rw [hp, Store.property?_of_mem_declared he'] at hsame
  have howners := (howner hy he').symm.trans ((congrArg Property.owner (Option.some.inj hsame)).trans (howner hx he))
  exact (Option.some.inj howners).symm

/-- A property stands for no more than one other. -/
theorem SamePosition.unique (hb : Built g s d) (hd' : DistinctTypes g')
    (hp : SamePosition g g' s.types.length d.store d'.store p p')
    (hq : SamePosition g g' s.types.length d.store d'.store p q') : p' = q' := by
  obtain ⟨c, c', x, x', hc, hmem⟩ := hp
  obtain ⟨b, b', y, y', hcounterpart, hmem'⟩ := hq
  obtain ⟨z, hz, -⟩ := id hc
  obtain ⟨w, hw, -⟩ := id hcounterpart
  obtain rfl := hb.eq_of_mem_declared hz hw (List.of_mem_zip hmem).1 (List.of_mem_zip hmem').1 rfl
  obtain rfl := hc.unique hd' hcounterpart
  obtain ⟨k, -, hplaces, hnodup⟩ := hb.map_fst_declared hz
  exact congrArg Prod.fst (Alignment.eq_of_mem_zip (hplaces ▸ hnodup) hmem hmem' rfl)

theorem SamePosition.eq_iff (hb : Built g s d) (hb' : Built g' s d') (hd : DistinctTypes g)
    (hd' : DistinctTypes g') (hp : SamePosition g g' s.types.length d.store d'.store p p')
    (hq : SamePosition g g' s.types.length d.store d'.store q q') : q = p ↔ q' = p' := by
  constructor
  · rintro rfl
    exact hq.unique hb hd' hp
  · rintro rfl
    exact hq.symm.unique hb' hd hp.symm

/-- The lineage of a declared class ends. -/
theorem Built.exists_isLineage (hb : Built g s d) (ha : AcyclicBases g)
    (hx : (x, c) ∈ placed g s.types.length) : ∃ l, d.store.IsLineage c l := by
  refine HasBases.exists_isLineage (g := g) (n := s.types.length) (fun x c hx => ?_) ha hx
  obtain ⟨k, hk⟩ := hb.shows hx
  refine ⟨k, hk.class?, fun b hkb => ?_⟩
  obtain ⟨base, hbase, hplace⟩ := Alignment.exists_of_some_right ((Option.mem_def.1 hkb) ▸ hk.base)
  exact ⟨base, hbase, hplace⟩

theorem SameType.exists_isLineage (hb : Built g s d) (ha : AcyclicBases g) {s' : Store}
    (ht : SameType g g' s.types.length d.store s' t t') : ∃ l, d.store.IsLineage t l := by
  rcases ht with ⟨x, hx, -⟩ | ⟨name, hname, -⟩
  · exact hb.exists_isLineage ha hx
  · exact ⟨[], .nil (by rw [Store.class?, hname]; rfl)⟩

theorem SameType.symm {n : Nat} {s s' : Store} (ht : SameType g g' n s s' t t') : SameType g' g n s' s t' t := by
  rcases ht with hc | ⟨name, hname, hname'⟩
  · exact .inl hc.symm
  · exact .inr ⟨name, hname', hname⟩

/-- The walks of one compilation are those of the other. -/
theorem Built.simulates (hb : Built g s d) (hb' : Built g' s d') (h : Rearranged g g') (hd : DistinctTypes g)
    (ha : AcyclicBases g) :
    d.store.Simulates (SameType g g' s.types.length d.store d'.store)
      (SamePosition g g' s.types.length d.store d'.store) d'.store where
  classes {t t' k} ht hk := by
    rcases ht with hc | ⟨name, hname, -⟩
    · obtain ⟨x, hx, hx', -⟩ := id hc
      obtain ⟨k₁, hk₁⟩ := hb.shows hx
      obtain ⟨k₂, hk₂⟩ := hb'.shows hx'
      obtain rfl := Option.some.inj (hk₁.class?.symm.trans hk)
      refine ⟨k₂, hk₂.class?, .inr ⟨hk₁.base_rel h hd hk₂, (hk₁.declared_rel h hd hc hk₂).imp fun e e' he => ?_⟩⟩
      exact ⟨he.1, he.2.name, fun _ => he.2.type⟩
    · rw [Store.class?, hname] at hk
      cases hk
  lineage ht := by
    obtain ⟨l, hl⟩ := ht.symm.exists_isLineage hb' (h.acyclicBases hd ha)
    refine ⟨max d.store.types.length d'.store.types.length, Nat.le_max_left .., ?_⟩
    rw [hl.lineage_eq, hl.lineageUpTo_eq,
      List.take_of_length_le (Nat.le_trans hl.length_le (Nat.le_max_right ..))]

/-- The stores of both compilations are alike. -/
theorem Built.alike (hb : Built g s d) (hb' : Built g' s d') (h : Rearranged g g') (hd : DistinctTypes g)
    (ha : AcyclicBases g) :
    Alike (SameType g g' s.types.length d.store d'.store) (SamePosition g g' s.types.length d.store d'.store)
      d.store d'.store where
  type? {t t'} ht := by
    rcases ht with hc | ⟨name, hname, hname'⟩
    · obtain ⟨x, hx, hx', -⟩ := id hc
      obtain ⟨k, hk⟩ := hb.shows hx
      obtain ⟨k', hk'⟩ := hb'.shows hx'
      refine ⟨x.name, _, _, hk.type?, hk'.type?,
        .structured ⟨hk.head.symm.trans hk'.head, hk.base_rel h hd hk', ?_, ?_, ?_⟩⟩
      -- Key paths are walked from related classes, so they end at related properties.
      · refine (Alignment.comp hk.key.flip hk'.key).imp ?_
        rintro p p' ⟨path, hp, hp'⟩
        obtain ⟨q, hq, hsame⟩ := (hb.simulates hb' h hd ha).findProperty (.inl hc) hp
        obtain rfl := Except.ok.inj (hq.symm.trans hp')
        exact hsame
      · obtain ⟨k₁, hk₁, hplaces, -⟩ := hb.map_fst_declared hx
        obtain ⟨k₂, hk₂, hplaces', -⟩ := hb'.map_fst_declared hx'
        obtain rfl := Option.some.inj (hk₁.symm.trans hk.class?)
        obtain rfl := Option.some.inj (hk₂.symm.trans hk'.class?)
        rw [← hplaces, ← hplaces', List.forall₂_map_left_iff, List.forall₂_map_right_iff]
        exact (hk.declared_rel h hd hc hk').imp fun _ _ he => he.1
      · have hmethods := hk'.methods
        rw [h.boundTo hd hc, h.importedBy] at hmethods
        exact (Alignment.comp hk.methods.flip hmethods).imp fun u u' ⟨o, hu, hu'⟩ => IsMethodOf.same h hd hc hu hu'
    · exact ⟨name, _, _, hname, hname', .primitive⟩
  property? {p p'} hp := by
    obtain ⟨c, c', x, x', hc, hmem⟩ := hp
    obtain ⟨z, hz, hz', -⟩ := id hc
    obtain ⟨k, hk⟩ := hb.shows hz
    obtain ⟨k', hk'⟩ := hb'.shows hz'
    obtain ⟨hx, hx'⟩ := List.of_mem_zip hmem
    refine ⟨x, x', Store.property?_of_mem_declared hx, Store.property?_of_mem_declared hx', ?_⟩
    exact ((List.forall₂_iff_zip.1 (hk.declared_rel h hd hc hk')).2 hmem).2
  lineage ht := ht.exists_isLineage hb ha

end Built

end EntityModel.Compilation
