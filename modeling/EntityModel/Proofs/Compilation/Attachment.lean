import EntityModel.Proofs.Compilation.Closure
import EntityModel.Proofs.Compilation.Import

/-!
# Where operations become methods

A bound operation with a parameter is invoked on the class that the type of this parameter resolves to. There it
becomes a method, once, and nowhere else. The methods of a class are those of the operations that are invoked on it, in
the order of the operations; a service class has the methods of its imports behind them. All this is told in terms of
the registry and the store of a compiled service (`attached_of_compileGraph`).

Two passes make the methods, and both only ever put a new type behind the methods that are there. So the methods of a
class stand in the order of their places (`MethodsInOrder`), and none of them comes twice.
-/

namespace EntityModel.Compilation

open CodeModel
open Edm (Graph Operation OperationImport Container StructuredType)

/-! ## What a method carries -/

/-- A reference denotes a registered type: in the namespace of the primitive types the primitive type with the name,
elsewhere the type that the registry finds. -/
def Denotes (g : Graph) (r : Registry) (s : Store) (reference : String) (t : TypeId) : Prop :=
  t ∈ r.types ∧
    if (targetName g reference).space = primitiveSpace then s.type? t = some ⟨targetName g reference, .primitive⟩
    else r.resolve? s (targetName g reference) .type = some t

/-- A method carries the signature of an operation whose parameters are the given ones. -/
structure Carries (g : Graph) (r : Registry) (s : Store) (o : Operation) (parameters : List Edm.Parameter)
    (m : MethodDetail) : Prop where
  /-- It has a parameter for each of them, in order. -/
  parameters : List.Forall₂ (fun p q => q.name = p.name ∧ Denotes g r s p.type q.type ∧
    q.collection = p.collection ∧ q.nullable = p.nullable) parameters m.parameters
  /-- Its result is the element of the result. -/
  returns : Option.Rel (fun result t => Denotes g r s (TypeReference.ofText result).element t) (given o.returns) m.returns
  /-- It yields a collection if the result is one. -/
  collection : m.collection = (given o.returns).any fun result => (TypeReference.ofText result).collection
  /-- It is bound if the operation is. -/
  bound : m.bound = o.bound
  /-- More may be applied to it if it may to the operation. -/
  composable : m.composable = o.composable
  /-- Functions are requested with GET, actions with POST. -/
  verbs : m.verbs = if o.kind = .function then "GET" else "POST"

/-- The type at a place is the method of a class that an operation becomes under a name, with the given parameters. -/
def IsMethodFor (g : Graph) (r : Registry) (s : Store) (c : TypeId) (o : Operation)
    (parameters : List Edm.Parameter) (name : String) (t : TypeId) : Prop :=
  ∃ m, s.type? t = some ⟨⟨o.name.space, name⟩, .method m⟩ ∧ m.owner = some c ∧ Carries g r s o parameters m

/-- An operation is invoked on a class: it is bound, and the type of its first parameter resolves to the class. -/
def InvokedOn (g : Graph) (r : Registry) (s : Store) (c : TypeId) (o : Operation) : Prop :=
  ∃ p ∈ o.binding?, r.resolve? s (targetName g p.type) .structured = some c

instance (g : Graph) (r : Registry) (s : Store) (c : TypeId) (o : Operation) : Decidable (InvokedOn g r s c o) :=
  inferInstanceAs (Decidable (∃ p ∈ o.binding?, r.resolve? s (targetName g p.type) .structured = some c))

/-- Some methods of a class are made for the imports of a container: each import adds one for the first operation with
the name, unless that is bound. -/
def MadeFor (g : Graph) (r : Registry) (s : Store) (c : TypeId) (x : Container) (ts : List TypeId) : Prop :=
  ∃ added : List (Option TypeId), ts = added.filterMap id ∧
    List.Forall₂ (fun i t => ∃ o, g.operation? i.operation = some o ∧ (t = none ↔ o.bound = true) ∧
      ∀ u ∈ t, IsMethodFor g r s c o o.parameters (if i.name = "" then o.name.name else i.name) u) x.imports added

/-- How the operations of a graph are attached to the classes. -/
structure Attached (g : Graph) (r : Registry) (s : Store) : Prop where
  /-- A class has a method for each operation that is invoked on it, and behind them those of its imports. -/
  methods : ∀ c ∈ r.types, ∀ k ∈ s.class? c, ∃ own imported, k.methods = own ++ imported ∧
    List.Forall₂ (fun o t => IsMethodFor g r s c o o.parameters.tail o.name.name t)
      (g.operations.filter fun o => InvokedOn g r s c o) own ∧
    (Model.isService s c = false → imported = []) ∧
    ∀ x, (x, c) ∈ g.containers.zip (r.types.filter (Model.isService s)) → MadeFor g r s c x imported
  /-- A service class is that of a container. -/
  services : ∀ c ∈ r.types, Model.isService s c = true →
    ∃ x, (x, c) ∈ g.containers.zip (r.types.filter (Model.isService s))
  /-- No method comes twice. -/
  nodup : ∀ c ∈ r.types, ∀ k ∈ s.class? c, k.methods.Nodup
  /-- A bound operation with a parameter is invoked on exactly one class. -/
  once : ∀ o ∈ g.operations, o.bound = true → o.parameters ≠ [] →
    ∃! c, c ∈ r.types ∧ s.isClass c = true ∧ InvokedOn g r s c o

/-! ## Methods in order -/

/-- The methods of a class stand in the order of their places, among a number of types. -/
def MethodsInOrder (n : Nat) (k : ClassDetail) : Prop :=
  k.methods.Pairwise (fun t u => t.index < u.index) ∧ ∀ t ∈ k.methods, t.index < n

section Order

variable {n n' : Nat} {k : ClassDetail} {d : Draft} {c : TypeId} {cs : List Change}

theorem MethodsInOrder.mono (h : MethodsInOrder n k) (hn : n ≤ n') : MethodsInOrder n' k :=
  ⟨h.1, fun t ht => Nat.lt_of_lt_of_le (h.2 t ht) hn⟩

theorem MethodsInOrder.nodup (h : MethodsInOrder n k) : k.methods.Nodup :=
  h.1.imp fun hlt heq => by simp [heq] at hlt

theorem length_types_method (c : TypeId) (name : QualifiedName) (m : MethodDetail) :
    (d.apply (.method c name m)).store.types.length = d.store.types.length + 1 := by
  simp [Draft.apply, Store.withMethod, Store.addType]

/-- A change of a class keeps its methods in order. -/
theorem MethodsInOrder.onto (h : MethodsInOrder d.store.types.length k) (x : Change) :
    MethodsInOrder (d.apply x).store.types.length (x.onto d.store k) := by
  have hle := (d.completes_apply x).length_types_le
  cases x with
  | method c name m =>
      rw [length_types_method]
      refine ⟨List.pairwise_append.2 ⟨h.1, List.pairwise_singleton _ _, fun t ht u hu => ?_⟩, fun t ht => ?_⟩
      · obtain rfl := List.mem_singleton.1 hu
        exact h.2 t ht
      · rcases List.mem_append.1 ht with ht | ht
        · exact Nat.lt_succ_of_lt (h.2 t ht)
        · obtain rfl := List.mem_singleton.1 ht
          exact Nat.lt_succ_self _
  | refer name => exact h.mono hle
  | base c b => exact h.mono hle
  | property c y => exact h.mono hle
  | key c p => exact h.mono hle

/-- A class that begins without methods has its methods in order behind any changes. -/
theorem methodsInOrder_replay (cs : List Change) (hk : d.store.class? c = some k)
    (h : MethodsInOrder d.store.types.length k) :
    ∃ k', (d.replay cs).store.class? c = some k' ∧ MethodsInOrder (d.replay cs).store.types.length k' := by
  induction cs generalizing d k with
  | nil => exact ⟨k, hk, h⟩
  | cons x cs ih =>
      rw [Draft.replay_cons]
      have hclass : (d.apply x).store.class? c = some (if x.owner? = some c then x.onto d.store k else k) := by
        rw [Draft.class?_apply, hk, Option.map_some]
      refine ih hclass ?_
      split
      · exact h.onto x
      · exact h.mono (d.completes_apply x).length_types_le

theorem Built.nodup_methods {g : Graph} {s : Store} {x : Declaration} (h : Built g s d)
    (hx : (x, c) ∈ placed g s.types.length) (hk : d.store.class? c = some k) : k.methods.Nodup := by
  obtain ⟨fs, bs, es, rfl, -⟩ := h
  have hclass := class?_declareAll (d := { store := s }) hx
  have hempty : MethodsInOrder (declareAll (declarations g) { store := s }).store.types.length x.detail := by
    simp [MethodsInOrder, x.methods_detail]
  obtain ⟨k', hk', horder⟩ := methodsInOrder_replay (fs.flatten ++ (bs.flatten ++ es.flatten)) hclass hempty
  obtain rfl := Option.some.inj (hk.symm.trans hk')
  exact horder.nodup

end Order

/-! ## Built graphs -/

section Built

variable {g : Graph} {n : Nat} {ps : List QualifiedName} {s s' : Store} {d : Draft} {r : Registry} {c t : TypeId}
variable {o : Operation} {name : String} {reference : String} {m : QualifiedName × MethodDetail}

theorem Means.denotes (h : Declares g n ps d) (hm : Means g n d.store (targetName g reference) t)
    (ht : t ∈ d.registry.types) : Denotes g d.registry d.store reference t := by
  refine ⟨ht, ?_⟩
  unfold Means at hm
  split at hm
  · next hp => rwa [if_pos hp]
  · next hp => rw [if_neg hp]; exact h.resolve?_type_of_place? hm

/-- A method carries the signature of its operation if the types that it has to do with are registered. -/
theorem IsMethod.carries (h : Declares g n ps d) (hm : IsMethod g n d.store o name m)
    (hmem : methodTargets m.2 ⊆ d.registry.types) (owner : Option TypeId) :
    Carries g d.registry d.store o (methodParameters o) { m.2 with owner } := by
  obtain ⟨returns, parameters, hreturns, hparameters, rfl⟩ := hm
  obtain ⟨hps, hr⟩ := List.append_subset.1 hmem
  constructor
  case parameters =>
    refine (Alignment.and_mem_right hparameters).imp fun p q ⟨hq, hpq⟩ => ?_
    obtain ⟨t, ht, rfl⟩ := hpq
    exact ⟨rfl, ht.denotes h (hps (List.mem_map_of_mem hq)), rfl, rfl⟩
  case returns =>
    dsimp only at hr ⊢
    generalize given o.returns = result at hreturns ⊢
    cases hreturns with
    | none => exact .none
    | some ht => exact .some (ht.denotes h (hr (by simp)))
  case collection =>
    change returnsCollection o = _
    rw [returnsCollection]
    cases given o.returns <;> rfl
  case bound => rfl
  case composable => rfl
  case verbs =>
    change methodVerb o = _
    rw [methodVerb]
    cases o.kind <;> rfl

/-- The methods of a class carry the signatures of their operations. -/
theorem IsMethodOf.isMethodFor {k : ClassDetail} (h : Declares g n ps d) (hk : d.store.class? c = some k)
    (hmem : ∀ u, d.store.Refers c u → u ∈ d.registry.types) (ht : t ∈ k.methods)
    (hm : IsMethodOf g n d.store c (o, name) t) :
    IsMethodFor g d.registry d.store c o (methodParameters o) (if name = "" then o.name.name else name) t := by
  obtain ⟨m, hm, htype⟩ := hm
  have hdetail : d.store.method? t = some { m.2 with owner := some c } := by
    rw [Store.method?, htype]
    rfl
  have htargets : methodTargets m.2 ⊆ d.registry.types := by
    refine List.append_subset.2 ⟨fun u hu => ?_, fun u hu => ?_⟩
    · obtain ⟨q, hq, rfl⟩ := List.mem_map.1 hu
      exact hmem _ (.parameter hk ht hdetail hq)
    · exact hmem _ (.result hk ht hdetail (Option.mem_toList.1 hu))
  refine ⟨{ m.2 with owner := some c }, ?_, rfl, hm.carries h htargets _⟩
  obtain ⟨returns, parameters, -, -, rfl⟩ := hm
  exact htype

theorem Declares.resolve?_structured_of_place? {a : QualifiedName} (h : Declares g n ps d) (ht : place? g n a = some t) :
    d.registry.resolve? d.store a .structured = some t := by
  obtain ⟨x, hx, -⟩ := exists_placed_of_place? ht
  obtain ⟨k, hk, -⟩ := h.classes hx
  have hvariant : (Shape.structured k).variant.extends .structured = true := by
    rw [Shape.variant]
    split <;> rfl
  rw [Registry.resolve?, h.lookup_of_place? ht]
  simp [Option.filter, Store.isOf, hk, hvariant]

/-- In a built graph the type of the parameter that an operation is bound to resolves to a declared class. -/
theorem Built.exists_place {p : Edm.Parameter} (h : Built g s d) (ho : o ∈ g.operations) (hp : o.binding? = some p) :
    ∃ c, place? g s.types.length (targetName g p.type) = some c := by
  obtain ⟨fs, bs, es, -, -, hbs, -⟩ := h
  obtain ⟨cs, -, hbound⟩ := Alignment.exists_of_mem_left hbs ho
  rw [Bound, hp] at hbound
  obtain ⟨c, m, hc, -⟩ := hbound
  exact ⟨c, hc⟩

/-- The operations that become methods of a class by being bound are those that are invoked on it. -/
theorem Built.boundTo_eq (h : Built g s d) (c : TypeId) :
    boundTo g s.types.length c = g.operations.filter fun o => InvokedOn g d.registry d.store c o := by
  obtain ⟨ps, hd⟩ := h.declares
  rw [boundTo]
  refine List.filter_congr fun o ho => ?_
  cases hp : o.binding? with
  | none => simp [InvokedOn, hp]
  | some p =>
      obtain ⟨u, hu⟩ := h.exists_place ho hp
      simp [InvokedOn, hp, hu, hd.resolve?_structured_of_place? hu]

theorem binding?_of_bound (hb : o.bound = true) : o.binding? = o.parameters.head? := by
  rw [Operation.binding?, if_pos hb]

theorem bound_of_invokedOn (h : InvokedOn g r s c o) : o.bound = true := by
  obtain ⟨p, hp, -⟩ := h
  by_contra hb
  simp [Operation.binding?, hb] at hp

/-- A bound operation with a parameter is invoked on the class of this parameter and on no other one. -/
theorem Built.existsUnique_invokedOn (h : Built g s d) (ho : o ∈ g.operations) (hb : o.bound = true)
    (hps : o.parameters ≠ []) :
    ∃! c, c ∈ d.registry.types ∧ d.store.isClass c = true ∧ InvokedOn g d.registry d.store c o := by
  obtain ⟨p, hp⟩ := Option.ne_none_iff_exists'.1 fun he => hps (List.head?_eq_none_iff.1 he)
  rw [← binding?_of_bound hb] at hp
  obtain ⟨ps, hd⟩ := h.declares
  obtain ⟨c, hc⟩ := h.exists_place ho hp
  obtain ⟨x, hx, -⟩ := exists_placed_of_place? hc
  obtain ⟨k, hk, -⟩ := hd.exists_class hx
  have hresolve := hd.resolve?_structured_of_place? hc
  refine ⟨c, ⟨hd.mem_types_of_placed hx, by rw [Store.isClass, hk]; rfl, p, hp, hresolve⟩, ?_⟩
  rintro u ⟨-, -, q, hq, hu⟩
  obtain rfl : q = p := Option.some.inj (hq.symm.trans hp)
  exact Option.some.inj (hu.symm.trans hresolve)

/-- The containers of a built graph with the service classes. -/
theorem Declares.zip_services (h : Declares g n ps d) :
    g.containers.zip (d.registry.types.filter (Model.isService d.store)) = containersOf (placed g n) := by
  rw [services_of_declares h, ← map_fst_containersOf (n := n), List.zip_map', List.map_id']

theorem methodParameters_of_bound (hb : o.bound = true) : methodParameters o = o.parameters.tail := by
  rw [methodParameters, if_pos hb, List.drop_one]

theorem methodParameters_of_not_bound (hb : ¬ o.bound = true) : methodParameters o = o.parameters := by
  rw [methodParameters, if_neg hb]

/-- In a built graph the methods of a class are those of the operations invoked on it and of its imports. -/
theorem Built.methods {x : Declaration} {k : ClassDetail} (h : Built g s d)
    (hx : (x, c) ∈ placed g s.types.length) (hk : Shows g s.types.length d.store x c k)
    (hmem : ∀ u, d.store.Refers c u → u ∈ d.registry.types) :
    ∃ own imported, k.methods = own ++ imported ∧
      List.Forall₂ (fun o t => IsMethodFor g d.registry d.store c o o.parameters.tail o.name.name t)
        (g.operations.filter fun o => InvokedOn g d.registry d.store c o) own ∧
      (x.container? = none → imported = []) ∧ ∀ y ∈ x.container?, MadeFor g d.registry d.store c y imported := by
  obtain ⟨ps, hd⟩ := h.declares
  obtain ⟨own, imported, hmethods, hown, himported⟩ := Alignment.exists_append (Alignment.and_mem_right hk.methods)
  refine ⟨own, imported, hmethods, ?_, ?_, ?_⟩
  · rw [List.forall₂_map_left_iff, h.boundTo_eq] at hown
    refine Alignment.imp_of_mem hown fun o t ho ⟨ht, hm⟩ => ?_
    have hinvoked : InvokedOn g d.registry d.store c o := by simpa using (List.mem_filter.1 ho).2
    rw [← methodParameters_of_bound (bound_of_invokedOn hinvoked)]
    simpa using hm.isMethodFor hd hk.class? hmem ht
  · intro hnone
    cases x with
    | type t =>
        cases himported
        rfl
    | container y => cases hnone
  · intro y hy
    cases x with
    | type t => cases hy
    | container z =>
        obtain rfl := Option.some.inj hy
        have hcontainer : (z, c) ∈ containersOf (placed g s.types.length) := mem_select.2 ⟨_, hx, rfl⟩
        obtain ⟨added, rfl, hadded⟩ := exists_added (fun i hi => h.exists_operation hcontainer hi) himported
        refine ⟨added, rfl, hadded.imp ?_⟩
        rintro i t ⟨o, ho, hnone, hq⟩
        refine ⟨o, ho, hnone, fun u hu => ?_⟩
        have hb : ¬ o.bound = true := by
          rw [← hnone, Option.mem_def.1 hu]
          simp
        rw [← methodParameters_of_not_bound hb]
        exact (hq u hu).2.isMethodFor hd hk.class? hmem (hq u hu).1

theorem attached_of_build {containers : List (Container × TypeId)}
    (hrun : build g { store := s } = .ok (containers, d)) : Attached g d.registry d.store := by
  obtain ⟨-, hb⟩ := build_post hrun
  obtain ⟨ps, hd⟩ := hb.declares
  constructor
  case methods =>
    intro c hc k hk
    obtain ⟨x, hx, hshows⟩ := hb.exists_shows hc hk
    obtain ⟨own, imported, hmethods, hown, hnone, hmade⟩ :=
      hb.methods hx hshows fun u => mem_types_of_refers hrun hx
    refine ⟨own, imported, hmethods, hown, fun hservice => hnone ?_, fun y hy => hmade y ?_⟩
    · have hkind : x.detail.kind ≠ .service := by
        rw [← hshows.head.kind]
        simpa [Model.isService, Option.mem_def.1 hk] using hservice
      simpa [x.kind_detail_iff] using hkind
    · rw [hd.zip_services] at hy
      obtain rfl := placedFrom_unique hx (placed_of_containersOf hy)
      rfl
  case services =>
    intro c hc hservice
    have hmem := List.mem_filter.2 ⟨hc, hservice⟩
    rw [services_of_declares hd] at hmem
    obtain ⟨⟨x, u⟩, hx, rfl⟩ := List.mem_map.1 hmem
    exact ⟨x, by rwa [hd.zip_services]⟩
  case nodup =>
    intro c hc k hk
    obtain ⟨x, hx⟩ := hd.exists_placed_of_class? hc hk
    exact hb.nodup_methods hx hk
  case once => exact fun o ho hbound hps => hb.existsUnique_invokedOn ho hbound hps

/-! ### What is seen in the types of a store alone -/

theorem Carries.of_types {parameters : List Edm.Parameter} {m : MethodDetail} (h : s'.types = s.types)
    (hm : Carries g r s o parameters m) : Carries g r s' o parameters m := by
  obtain ⟨types, properties⟩ := s
  obtain ⟨types', properties'⟩ := s'
  dsimp only at h
  subst h
  exact ⟨hm.parameters, hm.returns, hm.collection, hm.bound, hm.composable, hm.verbs⟩

theorem IsMethodFor.of_types {parameters : List Edm.Parameter} (h : s'.types = s.types)
    (hm : IsMethodFor g r s c o parameters name t) : IsMethodFor g r s' c o parameters name t := by
  obtain ⟨m, htype, howner, hcarries⟩ := hm
  exact ⟨m, by rwa [Store.type?, h], howner, hcarries.of_types h⟩

theorem MadeFor.of_types {x : Container} {ts : List TypeId} (h : s'.types = s.types) (hm : MadeFor g r s c x ts) :
    MadeFor g r s' c x ts := by
  obtain ⟨added, hts, hadded⟩ := hm
  refine ⟨added, hts, hadded.imp ?_⟩
  rintro i t ⟨o, ho, hnone, hq⟩
  exact ⟨o, ho, hnone, fun u hu => (hq u hu).of_types h⟩

theorem Attached.of_types (h : s'.types = s.types) (ha : Attached g r s) : Attached g r s' := by
  have htype : s'.type? = s.type? := by
    funext t
    rw [Store.type?, Store.type?, h]
  have hclass : s'.class? = s.class? := by
    funext t
    rw [Store.class?, Store.class?, htype]
  have hservice : Model.isService s' = Model.isService s := by
    funext t
    rw [Model.isService, Model.isService, hclass]
  have hinvoked : ∀ c, InvokedOn g r s' c = InvokedOn g r s c := by
    intro c
    funext o
    simp only [InvokedOn, Registry.resolve?, Store.isOf, htype]
  constructor
  case methods =>
    intro c hc k hk
    rw [hclass] at hk
    obtain ⟨own, imported, hmethods, hown, hnone, hmade⟩ := ha.methods c hc k hk
    refine ⟨own, imported, hmethods, ?_, by rwa [hservice], fun x hx => (hmade x ?_).of_types h⟩
    · simp only [hinvoked]
      exact hown.imp fun o t ho => ho.of_types h
    · rwa [← hservice]
  case services => rw [hservice]; exact ha.services
  case nodup => rw [hclass]; exact ha.nodup
  case once => simpa only [Store.isClass, hclass, hinvoked] using ha.once

end Built

/-- In a compiled service each bound operation with a parameter is attached to the class it is invoked on, once, and
the methods of a class are those of its operations and, behind them, of its imports. -/
theorem attached_of_compileGraph {settings : Settings} {vocabulary : Option SourceFile}
    {metadata : Table String String} {s : Store} {g : Graph} {r : Compiled}
    (h : compileGraph settings vocabulary metadata s g = .ok r) : Attached g r.model.registry r.store := by
  obtain ⟨d, terms, hpassed⟩ := compileGraph_eq_ok_iff.1 h
  rw [hpassed.model]
  exact (attached_of_build hpassed.built).of_types (types_of_restrict hpassed.restricted)

/-! ## Operations of several sorts -/

/-- Items that are special. -/
def specialType : StructuredType := { name := ⟨"NS", "Special"⟩, kind := .entity, base := some "NS.Item" }

/-- Operations that are invoked on an item, on some items, on a special item, on nothing at all, and one that is not
bound. -/
def itemOperations : List Operation :=
  [countOfItem,
    { name := ⟨"NS", "Merge"⟩, kind := .action, bound := true,
      parameters := [{ name := "items", type := "NS.Item", collection := true },
        { name := "others", type := "NS.Item", collection := true, nullable := false }] },
    { name := ⟨"NS", "Label"⟩, kind := .function, bound := true, composable := true,
      parameters := [{ name := "item", type := "NS.Special" }, { name := "language", type := "Edm.String" }],
      returns := some "Collection(Edm.String)" },
    { name := ⟨"NS", "Ping"⟩, kind := .action, bound := true },
    { name := ⟨"NS", "Total"⟩, kind := .function, returns := some "Edm.Int32" }]

/-- A graph with these operations, of which a container imports two. -/
def itemGraph : Graph :=
  { schemas := [
      { space := "NS", entities := [itemType, specialType], operations := itemOperations,
        containers := [
          { name := ⟨"NS", "Service"⟩,
            imports := [{ name := "Count", operation := "NS.Count", kind := .function },
              { name := "Sum", operation := "NS.Total", kind := .function }] }] }] }

/-- Each operation is where it is invoked: a special item does not get the methods of an item again, an operation that
is invoked on nothing gets nowhere, and only the operation that is not bound is imported. -/
theorem attached_of_itemGraph :
    ∃ r, compileGraph {} none [] {} itemGraph = .ok r ∧ Attached itemGraph r.model.registry r.store ∧
      r.model.registry.types.filterMap (fun c =>
          (r.store.class? c).map fun k => (r.store.fullName c, k.methods.map r.store.fullName)) =
        [("NS.Item", ["NS.Count", "NS.Merge"]), ("NS.Special", ["NS.Label"]), ("NS.Service", ["NS.Sum"])] := by
  have hcompiles : (compileGraph {} none [] {} itemGraph).toOption.any (fun r =>
      r.model.registry.types.filterMap (fun c =>
          (r.store.class? c).map fun k => (r.store.fullName c, k.methods.map r.store.fullName)) =
        [("NS.Item", ["NS.Count", "NS.Merge"]), ("NS.Special", ["NS.Label"]), ("NS.Service", ["NS.Sum"])]) = true := by
    decide +kernel
  obtain ⟨r, hr, hmethods⟩ := exists_of_any_toOption hcompiles
  exact ⟨r, hr, attached_of_compileGraph hr, of_decide_eq_true hmethods⟩

end EntityModel.Compilation
