import EntityModel.Compilation.Attempt
import EntityModel.Proofs.Compilation.Image

/-!
# Compiled services

A compilation that succeeds has built a draft, loaded the terms, resolved the entity sets, and found that the root
is clear. Resolving entity sets changes projections and nothing else, so the types of the service are those of
the draft. Among them the service classes are the classes of the containers, in the same order.
-/

namespace EntityModel.Compilation

open CodeModel
open Edm (Graph Container ContainerMember)
open Restriction (Ledger Terms)

/-! ## The parts of a compilation -/

/-- What a successful compilation has gone through. -/
structure Passed (settings : Settings) (vocabulary : Option SourceFile)
    (metadata : Table String String) (s : Store) (g : Graph) (r : Compiled) (d : Draft) (terms : Terms) :
    Prop where
  /-- The graph has been built. -/
  built : build g { store := s } = .ok (containersOf (placed g s.types.length), d)
  /-- The terms have been loaded. -/
  loaded : Restriction.loadTerms vocabulary = .ok terms
  /-- The entity sets have been resolved. -/
  restricted : restrict g terms (containersOf (placed g s.types.length)) d.store = .ok r.store
  /-- The root is clear. -/
  clear : ∃ t, r.model.root? r.store = .ok t
  /-- The model is the registry of the draft with what is known about the service. -/
  model : r.model =
    { metadata, serviceType := serviceType settings g.version, strict := settings.strictContainer,
      registry := d.registry }
  /-- The graph is kept. -/
  graph : r.graph = g

section Parts

variable {settings : Settings} {vocabulary : Option SourceFile} {metadata : Table String String}
variable {s : Store} {g : Graph} {r : Compiled}

theorem compileGraph_eq_ok_iff :
    compileGraph settings vocabulary metadata s g = .ok r ↔
      ∃ d terms, Passed settings vocabulary metadata s g r d terms := by
  rw [compileGraph]
  constructor
  · intro h
    obtain ⟨⟨containers, d⟩, hbuild, h₁⟩ := bind_eq_ok_iff.1 h
    obtain ⟨terms, hterms, h₂⟩ := bind_eq_ok_iff.1 h₁
    obtain ⟨store, hstore, h₃⟩ := bind_eq_ok_iff.1 h₂
    obtain ⟨t, hroot, h₄⟩ := bind_eq_ok_iff.1 h₃
    have hbuild : build g { store := s } = .ok (containers, d) := mapError_eq_ok_iff.1 hbuild
    obtain ⟨rfl, -⟩ := build_post hbuild
    obtain rfl := Except.ok.inj h₄
    exact ⟨d, terms, hbuild, mapError_eq_ok_iff.1 hterms, mapError_eq_ok_iff.1 hstore,
      ⟨t, mapError_eq_ok_iff.1 hroot⟩, rfl, rfl⟩
  · rintro ⟨d, terms, hbuilt, hloaded, hrestricted, ⟨t, hclear⟩, hmodel, hgraph⟩
    obtain ⟨graph, store, model⟩ := r
    dsimp only at hrestricted hclear hmodel hgraph
    subst hgraph hmodel
    refine bind_eq_ok_iff.2 ⟨_, mapError_eq_ok_iff.2 hbuilt, ?_⟩
    refine bind_eq_ok_iff.2 ⟨_, mapError_eq_ok_iff.2 hloaded, ?_⟩
    refine bind_eq_ok_iff.2 ⟨_, mapError_eq_ok_iff.2 hrestricted, ?_⟩
    exact bind_eq_ok_iff.2 ⟨t, mapError_eq_ok_iff.2 hclear, rfl⟩

/-- A service is compiled if there is a document, it can be read, and its graph passes. -/
theorem compile_eq_compiled_iff {metadata : Option (Table String String)} :
    compile settings vocabulary metadata s = .compiled r ↔
      ∃ m document g d terms, documentOf settings metadata = .ok (m, document) ∧ Csdl.readText document = .ok g ∧
        Passed settings vocabulary m s g r d terms := by
  have hdocument : ∀ m document, compileDocument settings vocabulary m s document = .ok r ↔
      ∃ g d terms, Csdl.readText document = .ok g ∧ Passed settings vocabulary m s g r d terms := by
    intro m document
    rw [compileDocument, bind_eq_ok_iff]
    simp only [mapError_eq_ok_iff, compileGraph_eq_ok_iff, exists_and_left]
  rw [compile]
  constructor
  · intro h
    split at h
    · cases h
    · next m document hm =>
        split at h
        · cases h
        · cases h
        · next hok =>
            obtain rfl := Attempt.compiled.inj h
            obtain ⟨g, d, terms, hread, hpassed⟩ := (hdocument m document).1 hok
            exact ⟨m, document, g, d, terms, hm, hread, hpassed⟩
  · rintro ⟨m, document, g, d, terms, hm, hread, hpassed⟩
    rw [hm]
    dsimp only
    rw [(hdocument m document).2 ⟨g, d, terms, hread, hpassed⟩]

/-- What an attempt has made, if it has been successful. -/
def Attempt.result? : Attempt → Option Compiled
  | compiled r => some r
  | _ => none

/-- An attempt that is known to succeed with a property. -/
theorem Attempt.exists_of_any_result? {a : Attempt} {p : Compiled → Bool} (h : a.result?.any p = true) :
    ∃ r, a = .compiled r ∧ p r = true := by
  cases a with
  | compiled r => exact ⟨r, rfl, h⟩
  | refused f => cases h
  | broken cause => cases h
  | failed f => cases h

end Parts

/-! ## Resolving changes no type -/

theorem types_of_restrictSet {g : Graph} {terms : Terms} {state state' : Ledger × Store}
    {x : TypeId × ContainerMember} (h : restrictSet g terms state x = .ok state') :
    state'.2.types = state.2.types := by
  unfold restrictSet at h
  split at h
  · obtain rfl := Except.ok.inj h
    rfl
  · split at h
    · next p l s' hres =>
        obtain rfl := Except.ok.inj h
        unfold Restriction.resolveSet at hres
        split at hres
        · obtain ⟨-, rfl⟩ : _ ∧ state.2 = s' := by simpa using hres
          rfl
        · split at hres
          · simp at hres
          · obtain ⟨-, rfl⟩ : _ ∧ _ = s' := by simpa using hres
            rfl
    · cases h

theorem types_of_restrict {g : Graph} {terms : Terms} {containers : List (Container × TypeId)}
    {s s' : Store} (h : restrict g terms containers s = .ok s') : s'.types = s.types := by
  obtain ⟨⟨l, s₁⟩, hfold, h⟩ := bind_eq_ok_iff.1 h
  obtain rfl := Except.ok.inj h
  suffices hall : ∀ (xs : List (TypeId × ContainerMember)) (state : Ledger × Store),
      xs.foldlM (restrictSet g terms) state = .ok (l, s₁) → s₁.types = state.2.types from hall _ _ hfold
  intro xs
  induction xs with
  | nil =>
      intro state hstate
      obtain rfl := Except.ok.inj hstate
      rfl
  | cons x xs ih =>
      intro state hstate
      rw [List.foldlM_cons] at hstate
      obtain ⟨state', hfirst, hrest⟩ := bind_eq_ok_iff.1 hstate
      rw [ih state' hrest, types_of_restrictSet hfirst]

/-! ## Service classes -/

section Services

variable {g : Graph} {n : Nat} {ps : List QualifiedName} {d : Draft}

theorem map_fst_containersOf : (containersOf (placed g n)).map (·.1) = g.containers := by
  rw [placed, map_fst_select, declarations, Graph.containers, List.filterMap_flatMap]
  congr 1
  funext s
  rw [declarationsOf, List.filterMap_append, List.filterMap_map, List.filterMap_map]
  have htypes : s.types.filterMap (Declaration.container? ∘ Declaration.type) = [] :=
    List.filterMap_eq_nil_iff.2 fun _ _ => rfl
  rw [htypes]
  exact List.filterMap_some

/-- The service classes among some declared classes are those of the containers. -/
theorem filter_isService_historyOf (h : Declares g n ps d) {xs : List (Declaration × TypeId)}
    (hxs : ∀ x ∈ xs, x ∈ placed g n) :
    ((historyOf xs).map (·.2)).filter (Model.isService d.store) = (containersOf xs).map (·.2) := by
  induction xs with
  | nil => rfl
  | cons x xs ih =>
      obtain ⟨k, hk, hhead⟩ := h.exists_class (hxs x List.mem_cons_self)
      have hrest := ih fun y hy => hxs y (List.mem_cons_of_mem _ hy)
      have hservice : Model.isService d.store x.2 = x.1.container?.isSome := by
        rw [Model.isService, hk, Option.any_some, hhead.kind, ← Bool.coe_iff_coe, decide_eq_true_iff]
        exact x.1.kind_detail_iff
      rw [historyOf, List.map_cons, List.map_cons, List.filter_cons, hservice, containersOf, select,
        List.filterMap_cons]
      cases hc : x.1.container? with
      | none => exact hrest
      | some c => exact congrArg (x.2 :: ·) hrest

/-- Primitive types are no service classes. -/
theorem filter_isService_primitive {s : Store} {h : Registry.History}
    (hall : ∀ e ∈ h, s.type? e.2 = some ⟨e.1, .primitive⟩) :
    (h.map (·.2)).filter (Model.isService s) = [] := by
  refine List.filter_eq_nil_iff.2 fun t ht => ?_
  obtain ⟨e, he, rfl⟩ := List.mem_map.1 ht
  simp [Model.isService, Store.class?, hall e he, Shape.class?]

/-- The service classes of a draft are the classes of the containers. -/
theorem services_of_declares (h : Declares g n ps d) :
    d.registry.types.filter (Model.isService d.store) = (containersOf (placed g n)).map (·.2) := by
  obtain ⟨more, -, hr, hmore⟩ := h.registry
  rw [hr, Registry.types_ofHistory, List.map_append, List.filter_append, filter_isService_historyOf h fun _ hx => hx,
    filter_isService_primitive fun e he => (hmore e he).2, List.append_nil]

/-- The service classes are those among the registered types. -/
theorem services_perm (h : Declares g n ps d) {m : Model} (hm : m.registry = d.registry) (s : Store) :
    (m.services s).Perm (d.registry.types.filter (Model.isService s)) := by
  obtain ⟨more, -, hr, -⟩ := h.registry
  have hfilter : m.services s = (d.registry.namespaces.flatMap (·.types)).filter (Model.isService s) := by
    rw [Model.services, hm, List.filter_flatMap]
  rw [hfilter, hr]
  exact (Registry.namespaces_perm _).filter _

theorem placed_of_containersOf {x : Container} {c : TypeId} (hx : (x, c) ∈ containersOf (placed g n)) :
    (.container x, c) ∈ placed g n := by
  obtain ⟨y, hy, hyx⟩ := mem_select.1 hx
  rcases y with t | y
  · cases t <;> cases hyx
  · obtain rfl := Option.some.inj hyx
    exact hy

/-- The registered types of a draft are declared classes and primitive types. -/
theorem exists_placed_or_primitive (h : Declares g n ps d) {t : TypeId} (ht : t ∈ d.registry.types) :
    (∃ x, (x, t) ∈ placed g n) ∨ ∃ name, d.store.type? t = some ⟨name, .primitive⟩ := by
  obtain ⟨more, -, hr, hmore⟩ := h.registry
  rw [hr, Registry.types_ofHistory, List.map_append, List.mem_append] at ht
  rcases ht with ht | ht
  · obtain ⟨e, he, rfl⟩ := List.mem_map.1 ht
    obtain ⟨⟨x, t⟩, hx, rfl⟩ := List.mem_map.1 he
    exact .inl ⟨x, hx⟩
  · obtain ⟨e, he, rfl⟩ := List.mem_map.1 ht
    exact .inr ⟨e.1, (hmore e he).2⟩

theorem Declares.mem_types_of_placed (h : Declares g n ps d) {x : Declaration} {t : TypeId} (hx : (x, t) ∈ placed g n) :
    t ∈ d.registry.types := by
  obtain ⟨more, -, hr, -⟩ := h.registry
  rw [hr, Registry.types_ofHistory, List.map_append]
  exact List.mem_append_left _ (List.mem_map.2 ⟨(x.name, t), List.mem_map.2 ⟨(x, t), hx, rfl⟩, rfl⟩)

theorem Declares.exists_placed_of_class? (h : Declares g n ps d) {t : TypeId} {k : ClassDetail}
    (ht : t ∈ d.registry.types) (hk : d.store.class? t = some k) : ∃ x, (x, t) ∈ placed g n := by
  rcases exists_placed_or_primitive h ht with hplaced | ⟨name, hname⟩
  · exact hplaced
  · rw [Store.class?, hname] at hk
    cases hk

/-- A registered class shows a declaration. -/
theorem Built.exists_shows {s : Store} (hb : Built g s d) {t : TypeId} {k : ClassDetail} (ht : t ∈ d.registry.types)
    (hk : d.store.class? t = some k) :
    ∃ x, (x, t) ∈ placed g s.types.length ∧ Shows g s.types.length d.store x t k := by
  obtain ⟨ps, hd⟩ := hb.declares
  obtain ⟨x, hx⟩ := hd.exists_placed_of_class? ht hk
  obtain ⟨k', hk'⟩ := hb.shows hx
  obtain rfl := Option.some.inj (hk'.class?.symm.trans hk)
  exact ⟨x, hx, hk'⟩

section Passed

variable {settings : Settings} {vocabulary : Option SourceFile} {metadata : Table String String}
variable {s : Store} {r : Compiled} {terms : Terms}

theorem Passed.services (h : Passed settings vocabulary metadata s g r d terms) :
    r.model.registry.types.filter (Model.isService r.store) =
      (containersOf (placed g s.types.length)).map (·.2) := by
  have hservice : Model.isService r.store = Model.isService d.store := by
    funext t
    rw [Model.isService, Store.class?, Store.type?, types_of_restrict h.restricted]
    rfl
  obtain ⟨ps, hd⟩ := (build_post h.built).2.declares
  rw [hservice, h.model, services_of_declares hd]

/-- The service classes of a compiled service are those of the containers, in the same order. -/
theorem Passed.zip_services (h : Passed settings vocabulary metadata s g r d terms) :
    g.containers.zip (r.model.registry.types.filter (Model.isService r.store)) =
      containersOf (placed g s.types.length) := by
  rw [h.services, ← map_fst_containersOf (n := s.types.length), List.zip_map', List.map_id']

/-- The root of a compiled service is the class of a container. -/
theorem Passed.exists_container (h : Passed settings vocabulary metadata s g r d terms) {root : TypeId}
    (hroot : r.model.root? r.store = .ok (some root)) :
    root ∈ r.model.registry.types ∧ ∃ x, (x, root) ∈ containersOf (placed g s.types.length) := by
  have hmem : root ∈ r.model.services r.store := by
    unfold Model.root? at hroot
    split at hroot
    · next t u more hservices =>
        split at hroot
        · cases hroot
        · obtain rfl : t = root := by simpa using hroot
          rw [hservices]
          exact List.mem_cons_self
    · exact List.mem_of_head? (Except.ok.inj hroot)
  obtain ⟨ps, hd⟩ := (build_post h.built).2.declares
  have hfilter := (services_perm hd (by rw [h.model]) r.store).mem_iff.1 hmem
  have htypes : root ∈ r.model.registry.types := by
    rw [h.model]
    exact List.mem_of_mem_filter hfilter
  have hregistry : d.registry = r.model.registry := by rw [h.model]
  rw [hregistry, h.services] at hfilter
  obtain ⟨x, hx, rfl⟩ := List.mem_map.1 hfilter
  exact ⟨htypes, x.1, hx⟩

end Passed

end Services

end EntityModel.Compilation
