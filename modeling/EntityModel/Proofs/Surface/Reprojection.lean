import EntityModel.Proofs.CodeModel.Reprojection
import EntityModel.Surface.Basic

/-!
# Surfaces of stores with other projections

A surface shows capabilities in the projections of its entries, and it reads accessors and expandable flags off them.
So if two stores differ in projections only, their surfaces have the same *outline*, which leaves these three out
(`outline_ofModel`). If the projections differ in the order of their capabilities only, so do the surfaces (`ofModel`).
-/

namespace EntityModel

open CodeModel

/-! ## Surfaces that differ in projections -/

namespace Surface

/-- A navigation property without what can be done with it. -/
def Navigation.outline (n : Navigation) : Navigation := { n with expandable := true, accessors := [] }

/-- An entry without its capabilities and what can be done with it. -/
def Entry.outline (e : Entry) : Entry :=
  { e with projection := (e.projection.1, []), navigation := e.navigation.map (·.outline), accessors := [] }

/-- A surface without capabilities and what can be done. -/
def outline (a : Surface) : Surface :=
  { a with collections := a.collections.map (·.outline), singletons := a.singletons.map (·.outline) }

/-- An entry is another one with the capabilities of its projection in another order. -/
structure Entry.Reorders (e e' : Entry) : Prop where
  same : { e with projection := e'.projection } = e'
  type_projection : e'.projection.1 = e.projection.1
  capabilities : e.projection.2.Perm e'.projection.2

/-- A surface is another one with the capabilities of its entries in another order. -/
structure Reorders (a a' : Surface) : Prop where
  service : a'.service = a.service
  collections : List.Forall₂ Entry.Reorders a.collections a'.collections
  singletons : List.Forall₂ Entry.Reorders a.singletons a'.singletons
  operations : a'.operations = a.operations

end Surface

/-- A projection is another one with its capabilities in another order. -/
structure CodeModel.Projection.Reorders (p p' : Projection) : Prop where
  type : p'.type = p.type
  capabilities : p.capabilities.Perm p'.capabilities

/-- The order of capabilities does not matter to what they support. -/
theorem CodeModel.Capability.support_of_perm {cs cs' : List Capability} (h : cs.Perm cs') (kind : CapabilityKind) :
    Capability.support kind cs' = Capability.support kind cs := by
  rw [Bool.eq_iff_iff, ← Bool.not_eq_false, ← Bool.not_eq_false, not_iff_not, Capability.support_eq_false_iff,
    Capability.support_eq_false_iff, h.mem_iff]

/-- The projections of the own properties of a class are of the types of these. -/
def CodeModel.Store.ProjectsTypes (s : Store) (t : TypeId) : Prop :=
  ∀ x ∈ (s.declared t).map (·.2), x.projection.type = x.type

namespace CodeModel.Store.Reprojects

open Surface (unseen)

variable {R : Projection → Projection → Prop} {s s' : Store} {t : TypeId} {x y : Property}

/-! ## What projections do not matter to -/

theorem keyNames (h : s.Reprojects R s') (hxy : Reprojected R x y) : Surface.keyNames s' y = Surface.keyNames s x := by
  rw [Surface.keyNames, Surface.keyNames, Surface.targetKey, Surface.targetKey, hxy.type]
  exact Alignment.map_eq h.keyOf fun _ _ he => he.2.name

theorem isEmpty_targetKey (h : s.Reprojects R s') (hxy : Reprojected R x y) :
    (Surface.targetKey s' y).isEmpty = (Surface.targetKey s x).isEmpty := by
  have hkey := h.keyOf (t := x.type)
  rw [Surface.targetKey, Surface.targetKey, hxy.type]
  generalize s.keyOf x.type = es, s'.keyOf x.type = es' at hkey ⊢
  cases hkey with
  | nil => rfl
  | cons _ _ => rfl

theorem collectionKey (h : s.Reprojects R s') (hxy : Reprojected R x y) :
    Surface.collectionKey s' y = Surface.collectionKey s x := by
  rw [Surface.collectionKey, Surface.collectionKey, hxy.collection, h.keyNames hxy]

theorem unseen {es es' : List (PropertyId × Property)} {seen : List String}
    (hes : List.Forall₂ (SamePlace R) es es') :
    List.Forall₂ (SamePlace R) (unseen seen es) (Surface.unseen seen es') := by
  induction hes generalizing seen with
  | nil => exact .nil
  | @cons e e' es es' he _ ih =>
      rw [Surface.unseen, Surface.unseen, he.2.navigation, he.2.name]
      split
      · exact ih
      · exact .cons he ih

theorem navigationProperties (h : s.Reprojects R s') :
    List.Forall₂ (SamePlace R) (Surface.navigationProperties s t) (Surface.navigationProperties s' t) := by
  rw [Surface.navigationProperties, Surface.navigationProperties, h.lineage]
  refine unseen (Alignment.flatMap_rel (R := Eq) (List.forall₂_same.2 fun _ _ => rfl) ?_)
  rintro c _ rfl
  exact h.declared

theorem operation (h : s.Reprojects R s') : Surface.operation s' t = Surface.operation s t := by
  have hname : s'.fullName = s.fullName := funext fun _ => h.fullName
  rw [Surface.operation, Surface.operation, h.method?, h.nameOf, hname]

/-! ## Outlines -/

theorem outline_navigationEntry (h : s.Reprojects R s') (hxy : Reprojected R x y) :
    (Surface.navigationEntry s' y).outline = (Surface.navigationEntry s x).outline := by
  simp only [Surface.navigationEntry, Surface.Navigation.outline, hxy.name, hxy.type, h.fullName, hxy.collection,
    h.collectionKey hxy]

theorem outline_entry (h : s.Reprojects R s') (hxy : Reprojected R x y) (hx : x.projection.type = x.type)
    (hy : y.projection.type = y.type) : (Surface.entry s' y).outline = (Surface.entry s x).outline := by
  have hnavigation : (Surface.navigation s' x.type).map (·.outline) = (Surface.navigation s x.type).map (·.outline) := by
    rw [Surface.navigation, Surface.navigation, List.map_map, List.map_map]
    exact Alignment.map_eq h.navigationProperties fun _ _ he => h.outline_navigationEntry he.2
  simp only [Surface.entry, Surface.Entry.outline, hx, hy, hxy.name, hxy.type, h.fullName, h.collectionKey hxy,
    hnavigation]

/-- Members of both roots that pass the same test stand side by side. -/
theorem members {p : Property → Bool} (h : s.Reprojects R s') (hp : ∀ x y, Reprojected R x y → p y = p x) :
    List.Forall₂ (fun x y => Reprojected R x y ∧ x ∈ (s.declared t).map (·.2) ∧ y ∈ (s'.declared t).map (·.2))
      (((s.declared t).map (·.2)).filter p) (((s'.declared t).map (·.2)).filter p) := by
  have hall : List.Forall₂ (Reprojected R) ((s.declared t).map (·.2)) ((s'.declared t).map (·.2)) := by
    rw [List.forall₂_map_left_iff, List.forall₂_map_right_iff]
    exact h.declared.imp fun _ _ he => he.2
  refine List.rel_filter (fun x y hxy => by simp only [hp x y hxy.1]) ?_
  exact Alignment.imp_of_mem (Alignment.and_mem_right hall) fun x y hx hxy => ⟨hxy.2, hx, hxy.1⟩

theorem operations (h : s.Reprojects R s') :
    (Surface.ofRoot s' t).operations = (Surface.ofRoot s t).operations := by
  have hall : Surface.operation s' = Surface.operation s := funext fun _ => h.operation
  simp only [Surface.ofRoot, h.class?, hall]

/-- Stores that differ in projections have surfaces with the same outline. -/
theorem outline_ofModel (h : s.Reprojects R s') {m : Model}
    (hroot : ∀ t, m.root? s = .ok (some t) → s.ProjectsTypes t ∧ s'.ProjectsTypes t) :
    (Surface.ofModel s' m).map (·.outline) = (Surface.ofModel s m).map (·.outline) := by
  rw [Surface.ofModel, Surface.ofModel, Model.root?_of_types h.types]
  cases hm : m.root? s with
  | error f => rfl
  | ok root =>
      cases root with
      | none => rfl
      | some t =>
          obtain ⟨hs, hs'⟩ := hroot t hm
          have hentries : ∀ p : Property → Bool, (∀ x y, Reprojected R x y → p y = p x) →
              ((((s'.declared t).map (·.2)).filter p).map (Surface.entry s')).map (·.outline) =
                ((((s.declared t).map (·.2)).filter p).map (Surface.entry s)).map (·.outline) := by
            intro p hp
            rw [List.map_map, List.map_map]
            exact Alignment.map_eq (h.members hp) fun x y hxy => h.outline_entry hxy.1 (hs x hxy.2.1) (hs' y hxy.2.2)
          have houtline : (Surface.ofRoot s' t).outline = (Surface.ofRoot s t).outline := by
            have hoperations := h.operations (t := t)
            simp only [Surface.ofRoot] at hoperations ⊢
            simp only [Surface.outline, h.fullName, hoperations, hentries _ fun x y hxy => hxy.collection,
              hentries (!·.collection) fun x y hxy => by rw [hxy.collection]]
          exact congrArg Except.ok houtline

/-! ## Capabilities in another order -/

section Reorders

variable (h : s.Reprojects Projection.Reorders s')

theorem supports (hxy : Reprojected Projection.Reorders x y) (kind : CapabilityKind) :
    Surface.supports y kind = Surface.supports x kind := Capability.support_of_perm hxy.projection.capabilities kind

include h

theorem accessors (hxy : Reprojected Projection.Reorders x y) : Surface.accessors s' y = Surface.accessors s x := by
  simp only [Surface.accessors, Surface.collectionAccessors, Surface.singleAccessors, hxy.collection,
    h.isEmpty_targetKey hxy, supports hxy]

theorem navigation : Surface.navigation s' t = Surface.navigation s t := by
  refine Alignment.map_eq h.navigationProperties fun e e' he => ?_
  simp only [Surface.navigationEntry, he.2.name, he.2.type, h.fullName, he.2.collection, supports he.2,
    h.accessors he.2, h.collectionKey he.2]

theorem entry (hxy : Reprojected Projection.Reorders x y) : (Surface.entry s x).Reorders (Surface.entry s' y) where
  same := by
    simp only [Surface.entry, hxy.name, hxy.type, h.fullName, h.navigation, h.accessors hxy, h.collectionKey hxy]
  type_projection := by simp only [Surface.entry, hxy.projection.type, h.fullName]
  capabilities := hxy.projection.capabilities

/-- Stores that differ in the order of capabilities have surfaces that differ in nothing else. -/
theorem ofModel (m : Model) :
    (∀ f, Surface.ofModel s' m = .error f ↔ Surface.ofModel s m = .error f) ∧
      ∀ a, Surface.ofModel s m = .ok a → ∃ a', Surface.ofModel s' m = .ok a' ∧ a.Reorders a' := by
  have hroot : ∀ t, (Surface.ofRoot s t).Reorders (Surface.ofRoot s' t) := by
    intro t
    have hentries : ∀ p : Property → Bool, (∀ x y, Reprojected Projection.Reorders x y → p y = p x) →
        List.Forall₂ Surface.Entry.Reorders ((((s.declared t).map (·.2)).filter p).map (Surface.entry s))
          ((((s'.declared t).map (·.2)).filter p).map (Surface.entry s')) := by
      intro p hp
      rw [List.forall₂_map_left_iff, List.forall₂_map_right_iff]
      exact (h.members hp).imp fun _ _ hxy => h.entry hxy.1
    exact ⟨by simp only [Surface.ofRoot, h.fullName], hentries _ fun x y hxy => hxy.collection,
      hentries _ fun x y hxy => by rw [hxy.collection], h.operations⟩
  rw [Surface.ofModel, Surface.ofModel, Model.root?_of_types h.types]
  cases m.root? s with
  | error f =>
      refine ⟨fun _ => .rfl, fun a ha => ?_⟩
      cases ha
  | ok root =>
      cases root with
      | none =>
          refine ⟨fun _ => .rfl, fun a ha => ⟨a, ha, ?_⟩⟩
          obtain rfl := Except.ok.inj ha
          exact ⟨rfl, .nil, .nil, rfl⟩
      | some t =>
          refine ⟨fun f => iff_of_false (fun hf => ?_) fun hf => ?_, fun a ha => ?_⟩
          · cases hf
          · cases hf
          · obtain rfl := Except.ok.inj ha
            exact ⟨_, rfl, hroot t⟩

end Reorders

end CodeModel.Store.Reprojects

end EntityModel
