import EntityModel.Proofs.CodeModel.Likeness
import EntityModel.Surface.Basic

/-!
# Surfaces of stores that are alike

A surface shows names, flags and capabilities, and no places. So two stores that are alike have the same surface
from related roots (`Alike.ofRoot`): the same collections and singletons, each with the same navigation and
accessors, and the same operations.
-/

namespace EntityModel.CodeModel.Alike

open Surface (unseen)

variable {T : TypeId → TypeId → Prop} {P : PropertyId → PropertyId → Prop} {s s' : Store}
variable {t t' : TypeId} {x x' : Property}

/-! ## Properties -/

theorem supports (hx : SameProperty T x x') (kind : CapabilityKind) :
    Surface.supports x' kind = Surface.supports x kind := by
  rw [Surface.supports, Surface.supports, capabilities_projection hx]

theorem keyNames (h : Alike T P s s') (hx : SameProperty T x x') :
    Surface.keyNames s' x' = Surface.keyNames s x :=
  Alignment.map_eq (h.keyOf hx.type) fun _ _ he => he.2.name

theorem isEmpty_targetKey (h : Alike T P s s') (hx : SameProperty T x x') :
    (Surface.targetKey s' x').isEmpty = (Surface.targetKey s x).isEmpty := by
  have hkey := h.keyOf hx.type
  rw [Surface.targetKey, Surface.targetKey]
  generalize s.keyOf x.type = es, s'.keyOf x'.type = es' at hkey ⊢
  cases hkey with
  | nil => rfl
  | cons _ _ => rfl

theorem accessors (h : Alike T P s s') (hx : SameProperty T x x') :
    Surface.accessors s' x' = Surface.accessors s x := by
  simp only [Surface.accessors, Surface.collectionAccessors, Surface.singleAccessors, hx.collection,
    h.isEmpty_targetKey hx, supports hx]

theorem collectionKey (h : Alike T P s s') (hx : SameProperty T x x') :
    Surface.collectionKey s' x' = Surface.collectionKey s x := by
  rw [Surface.collectionKey, Surface.collectionKey, hx.collection, h.keyNames hx]

/-! ## Navigation -/

/-- Among properties that are the same, the same ones are seen. -/
theorem unseen_rel {es es' : List (PropertyId × Property)} {seen : List String}
    (hes : List.Forall₂ (fun e e' => SameProperty T e.2 e'.2) es es') :
    List.Forall₂ (fun e e' => SameProperty T e.2 e'.2) (unseen seen es) (unseen seen es') := by
  induction hes generalizing seen with
  | nil => exact .nil
  | @cons e e' es es' he _ ih =>
      rw [unseen, unseen, he.navigation, he.name]
      split
      · exact ih
      · exact .cons he ih

theorem navigationEntry (h : Alike T P s s') (hx : SameProperty T x x') :
    Surface.navigationEntry s' x' = Surface.navigationEntry s x := by
  simp only [Surface.navigationEntry, hx.name, h.fullName hx.type, hx.collection, supports hx, h.accessors hx,
    h.collectionKey hx]

/-- The same navigation starts from related types. -/
theorem navigation (h : Alike T P s s') (ht : T t t') : Surface.navigation s' t' = Surface.navigation s t := by
  have hall : List.Forall₂ (fun e e' => SameProperty T e.2 e'.2) ((s.lineage t).flatMap s.declared)
      ((s'.lineage t').flatMap s'.declared) :=
    Alignment.flatMap_rel (h.lineageOf ht) fun c c' hc => (h.declared hc).imp fun _ _ he => he.2
  exact Alignment.map_eq (unseen_rel hall) fun e e' he => h.navigationEntry he

/-! ## Roots -/

theorem entry (h : Alike T P s s') (hx : SameProperty T x x') : Surface.entry s' x' = Surface.entry s x := by
  simp only [Surface.entry, hx.name, h.fullName hx.type, h.fullName (type_projection hx),
    capabilities_projection hx, h.navigation hx.type, h.accessors hx, h.collectionKey hx]

theorem operation (h : Alike T P s s') (hm : SameMethodAt T s s' t t') :
    Surface.operation s' t' = Surface.operation s t := by
  obtain ⟨name, m, m', htype, htype', hsame⟩ := hm
  have hparameters := Alignment.map_eq hsame.parameters (f := (·.name)) (g := (·.name)) fun _ _ hq => hq.name
  have hreturns : m'.returns.map s'.fullName = m.returns.map s.fullName := by
    have hrel := hsame.returns
    generalize m.returns = o, m'.returns = o' at hrel ⊢
    cases hrel with
    | none => rfl
    | some ht => exact congrArg some (h.fullName ht)
  rw [Surface.operation, Surface.operation, Store.method?, Store.method?, Store.nameOf, Store.nameOf, htype, htype']
  simp only [Option.bind_some, Shape.method?, Option.map_some, Option.getD_some, hsame.verbs, hparameters, hreturns,
    hsame.collection]

/-- Related roots have the same surface. -/
theorem ofRoot (h : Alike T P s s') (ht : T t t') : Surface.ofRoot s' t' = Surface.ofRoot s t := by
  have hproperties : List.Forall₂ (SameProperty T) ((s.declared t).map (·.2)) ((s'.declared t').map (·.2)) := by
    rw [List.forall₂_map_left_iff, List.forall₂_map_right_iff]
    exact (h.declared ht).imp fun _ _ he => he.2
  have hoperations : (((s'.class? t').map (·.methods)).getD []).filterMap (Surface.operation s') =
      (((s.class? t).map (·.methods)).getD []).filterMap (Surface.operation s) := by
    have hclass := h.class? ht
    generalize s.class? t = o, s'.class? t' = o' at hclass ⊢
    cases hclass with
    | none => rfl
    | some hk => exact Alignment.filterMap_eq hk.methods fun _ _ hm => h.operation hm
  have hcollections := List.rel_filter (p := (·.collection)) (q := (·.collection))
    (fun y y' (hy : SameProperty T y y') => by simp only [hy.collection]) hproperties
  have hsingletons := List.rel_filter (p := (!·.collection)) (q := (!·.collection))
    (fun y y' (hy : SameProperty T y y') => by simp only [hy.collection]) hproperties
  simp only [Surface.ofRoot, h.fullName ht, hoperations, Alignment.map_eq hcollections fun _ _ hy => h.entry hy,
    Alignment.map_eq hsingletons fun _ _ hy => h.entry hy]

end EntityModel.CodeModel.Alike
