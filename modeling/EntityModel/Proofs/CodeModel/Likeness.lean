import EntityModel.CodeModel.Listing
import EntityModel.Proofs.Alignment
import EntityModel.Proofs.CodeModel.Completion
import EntityModel.Proofs.CodeModel.Lineage

/-!
# Stores that are alike

Two stores may hold the same types and properties in different places. They are alike under a relation of their
places if related places hold the same, up to places that are related again. Nothing that is told by names can
tell such stores apart: related types have the same portrait (`Alike.portrait`), which shows everything about a
type and refers to other types by their full names.
-/

namespace EntityModel.CodeModel

/-- What a store shows of a type, where places are left out. -/
def portrait (s : Store) (t : TypeId) : Json := ({} : Model).typeListing s t

/-! ## The same up to places -/

section Same

variable (T : TypeId → TypeId → Prop) (P : PropertyId → PropertyId → Prop) (s s' : Store)

/-- Two parameters are the same. -/
structure SameParameter (q q' : Parameter) : Prop where
  name : q'.name = q.name
  type : T q.type q'.type
  collection : q'.collection = q.collection
  nullable : q'.nullable = q.nullable

/-- Two methods are the same. -/
structure SameMethod (m m' : MethodDetail) : Prop where
  owner : Option.Rel T m.owner m'.owner
  parameters : List.Forall₂ (SameParameter T) m.parameters m'.parameters
  returns : Option.Rel T m.returns m'.returns
  collection : m'.collection = m.collection
  bound : m'.bound = m.bound
  composable : m'.composable = m.composable
  verbs : m'.verbs = m.verbs

/-- Two properties are the same. -/
structure SameProperty (x x' : Property) : Prop where
  name : x'.name = x.name
  type : T x.type x'.type
  owner : Option.Rel T x.owner x'.owner
  collection : x'.collection = x.collection
  nullable : x'.nullable = x.nullable
  navigation : x'.navigation = x.navigation
  containsTarget : x'.containsTarget = x.containsTarget
  readOnly : x'.readOnly = x.readOnly
  fallback : x'.fallback = x.fallback
  assigned : Option.Rel (fun a a' : Projection => T a.type a'.type ∧ a'.capabilities = a.capabilities)
    x.assigned x'.assigned

/-- Two places have the same method. -/
def SameMethodAt (t t' : TypeId) : Prop :=
  ∃ name m m', s.type? t = some ⟨name, .method m⟩ ∧ s'.type? t' = some ⟨name, .method m'⟩ ∧ SameMethod T m m'

/-- Two classes are the same, where `M` relates the places of methods. -/
structure SameClass (M : TypeId → TypeId → Prop) (k k' : ClassDetail) : Prop where
  head : k.SameHead k'
  base : Option.Rel T k.base k'.base
  key : List.Forall₂ P k.key k'.key
  properties : List.Forall₂ P k.properties k'.properties
  methods : List.Forall₂ M k.methods k'.methods

/-- Two shapes are those of primitive types or of classes that are the same. -/
inductive SameShape (M : TypeId → TypeId → Prop) : Shape → Shape → Prop
  /-- Both types are primitive. -/
  | primitive : SameShape M .primitive .primitive
  /-- Both types are classes. -/
  | structured {k k' : ClassDetail} (h : SameClass T P M k k') : SameShape M (.structured k) (.structured k')

/-- Related places of two stores hold the same. -/
structure Alike : Prop where
  /-- Related types have the same name and shape. -/
  type? : ∀ {t t'}, T t t' → ∃ name x x', s.type? t = some ⟨name, x⟩ ∧ s'.type? t' = some ⟨name, x'⟩ ∧
    SameShape T P (SameMethodAt T s s') x x'
  /-- Related properties are the same. -/
  property? : ∀ {p p'}, P p p' →
    ∃ x x', s.property? p = some x ∧ s'.property? p' = some x' ∧ SameProperty T x x'
  /-- Lineages end. -/
  lineage : ∀ {t t'}, T t t' → ∃ l, s.IsLineage t l

end Same

namespace Alike

variable {T : TypeId → TypeId → Prop} {P : PropertyId → PropertyId → Prop} {s s' : Store}
variable {t t' : TypeId} {x x' : Property}

/-! ## Names -/

theorem nameOf (h : Alike T P s s') (ht : T t t') : s'.nameOf t' = s.nameOf t := by
  obtain ⟨name, x, x', hx, hx', -⟩ := h.type? ht
  rw [Store.nameOf, Store.nameOf, hx, hx']
  rfl

theorem fullName (h : Alike T P s s') (ht : T t t') : s'.fullName t' = s.fullName t := by
  rw [Store.fullName, Store.fullName, h.nameOf ht]

theorem reference (h : Alike T P s s') (ht : T t t') :
    ({} : Model).reference s' t' = ({} : Model).reference s t := by
  obtain ⟨name, x, x', hx, hx', -⟩ := h.type? ht
  rw [Model.reference, Model.reference, h.fullName ht, hx, hx']
  rfl

theorem reference? (h : Alike T P s s') {o o' : Option TypeId} (ho : Option.Rel T o o') :
    ({} : Model).reference? s' o' = ({} : Model).reference? s o := by
  cases ho with
  | none => rfl
  | some ht => exact h.reference ht

theorem qualifiedName (h : Alike T P s s') (hx : SameProperty T x x') :
    s'.qualifiedName x' = s.qualifiedName x := by
  have howner := hx.owner
  rw [Store.qualifiedName, Store.qualifiedName, hx.name]
  generalize x.owner = o, x'.owner = o' at howner ⊢
  cases howner with
  | none => rfl
  | some ht => exact congrArg (· ++ "/" ++ x.name) (h.fullName ht)

theorem capabilities_projection (hx : SameProperty T x x') :
    x'.projection.capabilities = x.projection.capabilities := by
  have hassigned := hx.assigned
  rw [Property.projection, Property.projection]
  generalize x.assigned = o, x'.assigned = o' at hassigned ⊢
  cases hassigned with
  | none => rfl
  | some ha => exact ha.2

theorem type_projection (hx : SameProperty T x x') : T x.projection.type x'.projection.type := by
  have hassigned := hx.assigned
  rw [Property.projection, Property.projection]
  generalize x.assigned = o, x'.assigned = o' at hassigned ⊢
  cases hassigned with
  | none => exact hx.type
  | some ha => exact ha.1

/-! ## Members -/

theorem propertiesAt (h : Alike T P s s') {ps ps' : List PropertyId} (hps : List.Forall₂ P ps ps') :
    List.Forall₂ (fun e e' => P e.1 e'.1 ∧ SameProperty T e.2 e'.2) (s.propertiesAt ps) (s'.propertiesAt ps') := by
  induction hps with
  | nil => exact .nil
  | @cons p p' ps ps' hp _ ih =>
      obtain ⟨x, x', hx, hx', hsame⟩ := h.property? hp
      rw [Store.propertiesAt, Store.propertiesAt, List.filterMap_cons, List.filterMap_cons, hx, hx']
      exact .cons ⟨hp, hsame⟩ ih

theorem class? (h : Alike T P s s') (ht : T t t') :
    Option.Rel (SameClass T P (SameMethodAt T s s')) (s.class? t) (s'.class? t') := by
  obtain ⟨name, x, x', hx, hx', hsame⟩ := h.type? ht
  rw [Store.class?, Store.class?, hx, hx']
  cases hsame with
  | primitive => exact .none
  | structured hk => exact .some hk

theorem declared (h : Alike T P s s') (ht : T t t') :
    List.Forall₂ (fun e e' => P e.1 e'.1 ∧ SameProperty T e.2 e'.2) (s.declared t) (s'.declared t') := by
  have hclass := h.class? ht
  rw [Store.declared, Store.declared]
  generalize s.class? t = o, s'.class? t' = o' at hclass ⊢
  cases hclass with
  | none => exact .nil
  | some hk => exact h.propertiesAt hk.properties

theorem ownProperty? (h : Alike T P s s') (ht : T t t') (name : String) :
    Option.Rel (fun e e' => P e.1 e'.1 ∧ SameProperty T e.2 e'.2) (s.ownProperty? t name)
      (s'.ownProperty? t' name) :=
  Alignment.find?_rel (h.declared ht) fun _ _ he => by rw [he.2.name]

/-! ## Portraits -/

theorem propertyListing (h : Alike T P s s') (hx : SameProperty T x x') :
    ({} : Model).propertyListing s' x' = ({} : Model).propertyListing s x := by
  simp only [Model.propertyListing, hx.name, h.qualifiedName hx, h.reference hx.type, hx.collection, hx.nullable,
    hx.navigation, hx.containsTarget, hx.readOnly, hx.fallback, capabilities_projection hx]

theorem methodMembers (h : Alike T P s s') {m m' : MethodDetail} (hm : SameMethod T m m') :
    ({} : Model).methodMembers s' m' = ({} : Model).methodMembers s m := by
  have hparameters := Alignment.map_eq (f := fun q : Parameter =>
      Json.list [.text q.name, ({} : Model).reference s q.type, .bool q.collection, .bool q.nullable])
    (g := fun q : Parameter =>
      Json.list [.text q.name, ({} : Model).reference s' q.type, .bool q.collection, .bool q.nullable])
    hm.parameters fun q q' hq => by rw [hq.name, h.reference hq.type, hq.collection, hq.nullable]
  simp only [Model.methodMembers, h.reference? hm.owner, h.reference? hm.returns, hm.collection, hm.bound,
    hm.composable, hm.verbs, hparameters]

theorem methodListing (h : Alike T P s s') (hm : SameMethodAt T s s' t t') :
    ({} : Model).methodListing s' t' = ({} : Model).methodListing s t := by
  obtain ⟨name, m, m', hm, hm', hsame⟩ := hm
  rw [Model.methodListing, Model.methodListing, hm, hm']
  simp only [Shape.method?, Option.map_some, h.methodMembers hsame]
  rfl

theorem classMembers (h : Alike T P s s') {k k' : ClassDetail} (hk : SameClass T P (SameMethodAt T s s') k k') :
    ({} : Model).classMembers s' k' = ({} : Model).classMembers s k := by
  have hkey := Alignment.map_eq (h.propertiesAt hk.key) (f := fun e => s.qualifiedName e.2)
    (g := fun e => s'.qualifiedName e.2) fun e e' he => h.qualifiedName he.2
  have hproperties := Alignment.map_eq (h.propertiesAt hk.properties)
    (f := fun e => ({} : Model).propertyListing s e.2)
    (g := fun e => ({} : Model).propertyListing s' e.2) fun e e' he => h.propertyListing he.2
  have hmethods := Alignment.filterMap_eq hk.methods fun t t' ht => h.methodListing ht
  simp only [Model.classMembers, hk.head.kind, h.reference? hk.base, hk.head.isAbstract, hk.head.isOpen, hkey,
    hproperties, hmethods, hk.head.enumeration]

/-- Related types have the same portrait. -/
theorem portrait (h : Alike T P s s') (ht : T t t') : portrait s' t' = portrait s t := by
  obtain ⟨name, x, x', hx, hx', hsame⟩ := h.type? ht
  rw [CodeModel.portrait, CodeModel.portrait, Model.typeListing, Model.typeListing, hx, hx']
  cases hsame with
  | primitive => rfl
  | structured hk =>
      have hvariant : ∀ k : ClassDetail, (Shape.structured k).variant =
          if k.enumeration.isSome then .enum else .structured := fun _ => rfl
      simp only [Model.nameMembers, hvariant, hk.head.enumeration, h.classMembers hk]

/-! ## Lineages -/

theorem isLineage (h : Alike T P s s') {l : List TypeId} (hl : s.IsLineage t l) (ht : T t t') :
    ∃ l', s'.IsLineage t' l' ∧ List.Forall₂ T l l' := by
  induction hl generalizing t' with
  | nil hnone =>
      have hclass := h.class? ht
      rw [hnone] at hclass
      exact ⟨[], .nil ((Alignment.eq_none_iff hclass).1 rfl), .nil⟩
  | last hk hb =>
      have hclass := h.class? ht
      rw [hk] at hclass
      obtain ⟨k', hk', hsame⟩ := Alignment.exists_of_some_left hclass
      exact ⟨[t'], .last hk' ((Alignment.eq_none_iff hsame.base).1 hb), .cons ht .nil⟩
  | step hk hb _ ih =>
      have hclass := h.class? ht
      rw [hk] at hclass
      obtain ⟨k', hk', hsame⟩ := Alignment.exists_of_some_left hclass
      obtain ⟨b', hb', hbase⟩ := Alignment.exists_of_some_left (hb ▸ hsame.base)
      obtain ⟨l', hl', hall⟩ := ih hbase
      exact ⟨t' :: l', .step hk' hb' hl', .cons ht hall⟩

/-- The lineages of related types are related class by class. -/
theorem lineageOf (h : Alike T P s s') (ht : T t t') : List.Forall₂ T (s.lineage t) (s'.lineage t') := by
  obtain ⟨l, hl⟩ := h.lineage ht
  obtain ⟨l', hl', hall⟩ := h.isLineage hl ht
  rwa [hl.lineage_eq, hl'.lineage_eq]

/-- Related types have the same key. -/
theorem keyOf (h : Alike T P s s') (ht : T t t') :
    List.Forall₂ (fun e e' => P e.1 e'.1 ∧ SameProperty T e.2 e'.2) (s.keyOf t) (s'.keyOf t') := by
  have hfirst : Option.Rel (SameClass T P (SameMethodAt T s s'))
      ((s.lineage t).findSome? fun c => (s.class? c).filter fun d => !d.key.isEmpty)
      ((s'.lineage t').findSome? fun c => (s'.class? c).filter fun d => !d.key.isEmpty) := by
    refine Alignment.findSome?_rel (h.lineageOf ht) fun c c' hc => ?_
    have hclass := h.class? hc
    generalize s.class? c = o, s'.class? c' = o' at hclass ⊢
    cases hclass with
    | none => exact .none
    | @some k k' hk =>
        have hempty : k'.key.isEmpty = k.key.isEmpty := by
          have hkey := hk.key
          generalize k.key = ps, k'.key = ps' at hkey ⊢
          cases hkey with
          | nil => rfl
          | cons _ _ => rfl
        simp only [Option.filter, hempty]
        split
        · exact .some hk
        · exact .none
  rw [Store.keyOf, Store.keyOf]
  generalize (s.lineage t).findSome? _ = o, (s'.lineage t').findSome? _ = o' at hfirst ⊢
  cases hfirst with
  | none => exact .nil
  | some hk => exact h.propertiesAt hk.key

end Alike

end EntityModel.CodeModel
