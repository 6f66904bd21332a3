import EntityModel.CodeModel.Model
import EntityModel.Proofs.Alignment

/-!
# Stores with other projections

Two stores may hold the same types, and the same properties apart from their projections. What is looked up then stands
at the same places: lineages, keys, own properties and the root of a service. A relation says how the projections of a
property differ.
-/

namespace EntityModel.CodeModel

variable {R : Projection → Projection → Prop}

/-- A property is another one with a projection that is related. -/
structure Reprojected (R : Projection → Projection → Prop) (x y : Property) : Prop where
  same : { x with assigned := y.assigned } = y
  projection : R x.projection y.projection

/-- A store is another one with other projections. -/
structure Store.Reprojects (R : Projection → Projection → Prop) (s s' : Store) : Prop where
  types : s'.types = s.types
  properties : List.Forall₂ (Reprojected R) s.properties s'.properties

namespace Reprojected

variable {x y : Property}

theorem name (h : Reprojected R x y) : y.name = x.name := by rw [← h.same]

theorem type (h : Reprojected R x y) : y.type = x.type := by rw [← h.same]

theorem collection (h : Reprojected R x y) : y.collection = x.collection := by rw [← h.same]

theorem navigation (h : Reprojected R x y) : y.navigation = x.navigation := by rw [← h.same]

end Reprojected

/-! ## The root of a service -/

theorem Model.services_of_types {m : Model} {s s' : Store} (h : s'.types = s.types) :
    m.services s' = m.services s := by
  have hservice : Model.isService s' = Model.isService s := by
    funext t
    simp only [Model.isService, Store.class?, Store.type?, h]
  rw [Model.services, Model.services, hservice]

theorem Model.root?_of_types {m : Model} {s s' : Store} (h : s'.types = s.types) : m.root? s' = m.root? s := by
  have hname : s'.fullName = s.fullName := by
    funext t
    simp only [Store.fullName, Store.nameOf, Store.type?, h]
  rw [Model.root?, Model.root?, Model.services_of_types h, hname]

namespace Store.Reprojects

variable {s s' : Store} {t : TypeId} {p : PropertyId} {ps : List PropertyId}

/-! ## Types -/

theorem class? (h : s.Reprojects R s') : s'.class? t = s.class? t := by
  rw [Store.class?, Store.class?, Store.type?, Store.type?, h.types]

theorem method? (h : s.Reprojects R s') : s'.method? t = s.method? t := by
  rw [Store.method?, Store.method?, Store.type?, Store.type?, h.types]

theorem nameOf (h : s.Reprojects R s') : s'.nameOf t = s.nameOf t := by
  rw [Store.nameOf, Store.nameOf, Store.type?, Store.type?, h.types]

theorem fullName (h : s.Reprojects R s') : s'.fullName t = s.fullName t := by
  rw [Store.fullName, Store.fullName, h.nameOf]

theorem lineage (h : s.Reprojects R s') : s'.lineage t = s.lineage t := by
  have hfirst : ∀ n t, s'.lineageUpTo n t = s.lineageUpTo n t := by
    intro n
    induction n with
    | zero => exact fun _ => rfl
    | succ n ih =>
        intro t
        rw [lineageUpTo, lineageUpTo, h.class?]
        simp only [ih]
  rw [Store.lineage, Store.lineage, h.types, hfirst]

/-! ## Properties -/

theorem property? (h : s.Reprojects R s') : Option.Rel (Reprojected R) (s.property? p) (s'.property? p) := by
  have hall := h.properties
  rw [Store.property?, Store.property?]
  generalize s.properties = xs, s'.properties = ys, p.index = i at hall ⊢
  induction hall generalizing i with
  | nil => exact .none
  | cons hxy _ ih =>
      cases i with
      | zero => exact .some hxy
      | succ i => exact ih i

/-- Two entries are of the same place. -/
abbrev SamePlace (R : Projection → Projection → Prop) (e e' : PropertyId × Property) : Prop :=
  e.1 = e'.1 ∧ Reprojected R e.2 e'.2

theorem propertiesAt (h : s.Reprojects R s') :
    List.Forall₂ (SamePlace R) (s.propertiesAt ps) (s'.propertiesAt ps) := by
  induction ps with
  | nil => exact .nil
  | cons p ps ih =>
      have hp := h.property? (p := p)
      rw [Store.propertiesAt, Store.propertiesAt, List.filterMap_cons, List.filterMap_cons]
      generalize s.property? p = o, s'.property? p = o' at hp ⊢
      cases hp with
      | none => exact ih
      | some hxy => exact .cons ⟨rfl, hxy⟩ ih

theorem declared (h : s.Reprojects R s') : List.Forall₂ (SamePlace R) (s.declared t) (s'.declared t) := by
  rw [Store.declared, Store.declared, h.class?]
  exact h.propertiesAt

theorem keyOf (h : s.Reprojects R s') : List.Forall₂ (SamePlace R) (s.keyOf t) (s'.keyOf t) := by
  rw [Store.keyOf, Store.keyOf, h.lineage]
  simp only [h.class?]
  cases (s.lineage t).findSome? fun c => (s.class? c).filter fun d => !d.key.isEmpty with
  | none => exact .nil
  | some d => exact h.propertiesAt

end Store.Reprojects

end EntityModel.CodeModel
