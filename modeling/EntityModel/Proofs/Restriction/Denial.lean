import EntityModel.Proofs.Compilation.Service
import EntityModel.Proofs.Restriction.Assembly
import EntityModel.Surface.Basic

/-!
# What restrictions deny

A restriction denies a kind of capability to properties: to that of its entity set by its truth value, and to
those that its paths lead to. Nothing else does. In a compiled service a registered class has a property that
does not support a kind exactly if some entity set of some container has a restriction that denies the kind to
that property, and the surface of the service shows exactly that (`supports_eq_false_iff_denied`).

It does not matter how many sets restrict one property, or in which order: a capability once denied is not
granted again by another entry.
-/

namespace EntityModel.Restriction

open CodeModel
open Compilation (Compiled Passed Declaration compileGraph placed containersOf containerSets)
open Edm (Graph Annotation ContainerMember)

/-- A restriction of the entity set with a property denies a kind to a property. -/
def Denies (s : Store) (first : PropertyId × Property) (a : Annotation) (p : PropertyId) : Prop :=
  ∃ flag elements, HasShape a flag elements ∧
    (flag = false ∧ p = first.1 ∨ ∃ e ∈ elements, LeadsTo s first.2.type e p)

/-- Some entity set of a compiled service has a restriction that denies a kind to a property. -/
def Denied (r : Compiled) (kind : CapabilityKind) (p : PropertyId) : Prop :=
  ∃ x c set first a,
    (x, c) ∈ r.graph.containers.zip (r.model.registry.types.filter (Model.isService r.store)) ∧
      set ∈ x.sets ∧ r.store.ownProperty? c set.name = some first ∧
      r.graph.annotationWith? set.targetPath ⟨Vocabulary.Capabilities.space, termLabel kind⟩ = some a ∧
      Denies r.store first a p

/-! ## Entries that deny -/

section Entries

variable {g : Graph} {s : Store} {t c : TypeId} {p : PropertyId} {first : PropertyId × Property}
variable {set : ContainerMember} {a : Annotation} {kind : CapabilityKind} {l e : Ledger}
variable {u : CapabilityKind × QualifiedName} {terms : Terms}

theorem LeadsTo.unique {x : Edm.Expression} {q : PropertyId} (hp : LeadsTo s t x p)
    (hq : LeadsTo s t x q) : p = q := by
  obtain ⟨ps, hps, -, hp⟩ := hp
  obtain ⟨qs, hqs, -, hq⟩ := hq
  obtain rfl : ps = qs := by simpa [hps] using hqs
  exact Except.ok.inj (hp.symm.trans hq)

theorem Statement.mem_entries_iff {x : Statement} {k : CapabilityKind} {q : PropertyId} :
    (p, ⟨kind, false⟩) ∈ x.entries k q ↔ k = kind ∧ (x.flag = false ∧ p = q ∨ p ∈ x.excluded) := by
  simp only [entries, List.mem_cons, List.mem_map, Prod.mk.injEq, Capability.mk.injEq]
  constructor
  · rintro (⟨rfl, rfl, hflag⟩ | ⟨q', hq', rfl, rfl, -⟩)
    · exact ⟨rfl, .inl ⟨hflag.symm, rfl⟩⟩
    · exact ⟨rfl, .inr hq'⟩
  · rintro ⟨rfl, ⟨hflag, rfl⟩ | hp⟩
    · exact .inl ⟨rfl, rfl, hflag.symm⟩
    · exact .inr ⟨p, hp, rfl, rfl, trivial⟩

/-- What a statement denies is what the restriction denies that it is read from. -/
theorem denies_iff {x : Statement} (h : readStatement s first.2.type a = .ok x) :
    Denies s first a p ↔ x.flag = false ∧ p = first.1 ∨ p ∈ x.excluded := by
  obtain ⟨elements, hshape, hall⟩ := readStatement_eq_ok_iff.1 h
  constructor
  · rintro ⟨flag, elements', hshape', hdenies⟩
    obtain ⟨rfl, rfl⟩ := hshape'.unique hshape
    refine hdenies.imp_right fun ⟨e, he, hp⟩ => ?_
    obtain ⟨q, hq, hleads⟩ := Alignment.exists_of_mem_left hall he
    rwa [hp.unique hleads]
  · intro hdenies
    refine ⟨x.flag, elements, hshape, hdenies.imp_right fun hp => ?_⟩
    exact Alignment.exists_of_mem_right hall hp

theorem mem_entriesOf_iff (h : entriesOf g s first.1 first.2.type set u = .ok e) :
    (p, ⟨kind, false⟩) ∈ e ↔
      u.1 = kind ∧ ∃ a, g.annotationWith? set.targetPath u.2 = some a ∧ Denies s first a p := by
  rw [entriesOf_eq_ok_iff] at h
  cases ha : g.annotationWith? set.targetPath u.2 with
  | none =>
      rw [ha] at h
      simp [h]
  | some a =>
      rw [ha] at h
      obtain ⟨x, hx, rfl⟩ := h
      simp only [Statement.mem_entries_iff, Option.some.injEq, exists_eq_left', denies_iff hx]

theorem mem_setEntries_iff (h : SetEntries g terms s (c, set) l) :
    (p, ⟨kind, false⟩) ∈ l ↔ ∃ u ∈ terms, u.1 = kind ∧ ∃ first a,
      s.ownProperty? c set.name = some first ∧ g.annotationWith? set.targetPath u.2 = some a ∧
        Denies s first a p := by
  unfold SetEntries at h
  cases hfirst : s.ownProperty? c set.name with
  | none =>
      rw [hfirst] at h
      simp [h]
  | some first =>
      rw [hfirst] at h
      obtain ⟨es, hes, rfl⟩ := h
      simp only [List.mem_flatten, Option.some.injEq, exists_and_left, exists_eq_left']
      constructor
      · rintro ⟨e, he, hp⟩
        obtain ⟨u, hu, hentries⟩ := Alignment.exists_of_mem_right hes he
        exact ⟨u, hu, (mem_entriesOf_iff hentries).1 hp⟩
      · rintro ⟨u, hu, hdenied⟩
        obtain ⟨e, he, hentries⟩ := Alignment.exists_of_mem_left hes hu
        exact ⟨e, he, (mem_entriesOf_iff hentries).2 hdenied⟩

theorem denies_materialize {x : Property} :
    Denies (l.materialize s) (first.1, l.projected first.1 x) a p ↔ Denies s (first.1, x) a p := by
  simp only [Denies, leadsTo_materialize, Ledger.type_projected]

theorem Ledger.mem_accumulated {y : Capability} : y ∈ l.accumulated p ↔ (p, y) ∈ l := by
  simp only [accumulated, List.mem_map, List.mem_filter, decide_eq_true_eq]
  constructor
  · rintro ⟨⟨q, y⟩, ⟨hq, rfl⟩, rfl⟩
    exact hq
  · intro hp
    exact ⟨(p, y), ⟨hp, rfl⟩, rfl⟩

/-- A projection that is made anew has what has accumulated. -/
theorem Ledger.capabilities_projected {x : Property} (h : x.assigned = none) :
    (l.projected p x).projection.capabilities = l.accumulated p := by
  by_cases hl : l.accumulated p = []
  · rw [projected, if_pos hl, Property.projection, h, hl]
    rfl
  · rw [projected, if_neg hl]
    rfl

/-- The vocabulary of the installation has a term for each kind. -/
theorem loadTerms_none :
    loadTerms none = .ok (CapabilityKind.all.map fun k => (k, ⟨Vocabulary.Capabilities.space, termLabel k⟩)) := by
  rfl

end Entries

/-! ## Compiled services -/

section Services

variable {settings : Settings} {metadata : Table String String} {s : Store} {g : Graph} {r : Compiled}
variable {d : Compilation.Draft} {terms : Terms} {kind : CapabilityKind} {t : TypeId}
variable {p : PropertyId × Property}

/-- The entries of all sets deny what is denied. -/
theorem mem_ledger_iff {ls : List Ledger} (h : Passed settings none metadata s g r d terms)
    (hls : List.Forall₂ (SetEntries g terms d.store) (containerSets (containersOf (placed g s.types.length))) ls)
    (hr : r.store = Ledger.materialize ls.flatten d.store) (q : PropertyId) :
    (q, ⟨kind, false⟩) ∈ ls.flatten ↔ Denied r kind q := by
  obtain rfl : CapabilityKind.all.map _ = terms := Except.ok.inj (loadTerms_none.symm.trans h.loaded)
  unfold Denied
  rw [h.graph, h.zip_services, hr, List.mem_flatten]
  constructor
  · rintro ⟨l, hl, hq⟩
    obtain ⟨⟨c, set⟩, hset, hentries⟩ := Alignment.exists_of_mem_right hls hl
    obtain ⟨⟨x, c'⟩, hx, hxset⟩ := List.mem_flatMap.1 hset
    obtain ⟨set', hmem, hsame⟩ := List.mem_map.1 hxset
    obtain ⟨rfl, rfl⟩ : c' = c ∧ set' = set := by simpa using hsame
    obtain ⟨u, hu, rfl, first, a, hfirst, ha, hdenies⟩ := (mem_setEntries_iff hentries).1 hq
    obtain ⟨k, -, rfl⟩ := List.mem_map.1 hu
    refine ⟨x, c', set', _, a, hx, hmem, ?_, ha, denies_materialize.2 hdenies⟩
    rw [ownProperty?_materialize, hfirst, Option.map_some]
  · rintro ⟨x, c, set, first, a, hx, hmem, hfirst, ha, hdenies⟩
    have hset : (c, set) ∈ containerSets (containersOf (placed g s.types.length)) :=
      List.mem_flatMap.2 ⟨(x, c), hx, List.mem_map_of_mem hmem⟩
    obtain ⟨l, hl, hentries⟩ := Alignment.exists_of_mem_left hls hset
    rw [ownProperty?_materialize] at hfirst
    obtain ⟨own, hown, rfl⟩ := Option.map_eq_some_iff.1 hfirst
    refine ⟨l, hl, (mem_setEntries_iff hentries).2 ?_⟩
    exact ⟨_, List.mem_map_of_mem (CapabilityKind.mem_all kind), rfl, own, a, hown, ha,
      denies_materialize.1 hdenies⟩

/-- A property of a declared class does not support a kind exactly if the kind is denied to it. -/
theorem supports_eq_false_iff (h : Passed settings none metadata s g r d terms) {x : Declaration}
    (hx : (x, t) ∈ placed g s.types.length) (hp : p ∈ r.store.declared t) :
    Surface.supports p.2 kind = false ↔ Denied r kind p.1 := by
  obtain ⟨ls, hls, hr⟩ := restrict_eq_ok_iff.1 h.restricted
  rw [hr, declared_materialize] at hp
  obtain ⟨⟨q, y⟩, hq, rfl⟩ := List.mem_map.1 hp
  have hnone : y.assigned = none := (Compilation.build_post h.built).2.assigned hx hq
  rw [← mem_ledger_iff h hls hr, Surface.supports, Capability.support_eq_false_iff,
    Ledger.capabilities_projected hnone, Ledger.mem_accumulated]

/-- A registered class has no property but those of declared classes. -/
theorem exists_placed_of_declared (h : Passed settings none metadata s g r d terms)
    (ht : t ∈ r.model.registry.types) (hp : p ∈ r.store.declared t) :
    ∃ x, (x, t) ∈ placed g s.types.length := by
  obtain ⟨ps, hd⟩ := (Compilation.build_post h.built).2.declares
  rw [h.model] at ht
  rcases Compilation.exists_placed_or_primitive hd ht with hx | ⟨name, hprimitive⟩
  · exact hx
  · have hclass : r.store.class? t = none := by
      rw [Store.class?, Store.type?, Compilation.types_of_restrict h.restricted, ← Store.type?, hprimitive]
      rfl
    rw [Store.declared, hclass] at hp
    cases hp

theorem mem_of_mem_unseen {seen : List String} {qs : List (PropertyId × Property)}
    (hp : p ∈ Surface.unseen seen qs) : p ∈ qs := by
  induction qs generalizing seen with
  | nil => exact hp
  | cons q qs ih =>
      rw [Surface.unseen] at hp
      split at hp
      · exact List.mem_cons_of_mem _ (ih hp)
      · rcases List.mem_cons.1 hp with rfl | hp
        · exact List.mem_cons_self
        · exact List.mem_cons_of_mem _ (ih hp)

/-- Navigation from a property of a root goes to properties of declared classes. -/
theorem exists_placed_of_navigation (h : Passed settings none metadata s g r d terms) {root : TypeId}
    (hroot : r.model.root? r.store = .ok (some root)) (hp : p ∈ r.store.declared root)
    {q : PropertyId × Property} (hq : q ∈ Surface.navigationProperties r.store p.2.type) :
    ∃ x u, (x, u) ∈ placed g s.types.length ∧ q ∈ r.store.declared u := by
  obtain ⟨-, x, hx⟩ := h.exists_container hroot
  have hbuilt := (Compilation.build_post h.built).2
  obtain ⟨k, hk⟩ := hbuilt.shows (Compilation.placed_of_containersOf hx)
  obtain ⟨ls, -, hr⟩ := restrict_eq_ok_iff.1 h.restricted
  obtain ⟨u, hu, hown⟩ := List.mem_flatMap.1 (mem_of_mem_unseen hq)
  rw [hr, declared_materialize] at hp
  obtain ⟨⟨p, y⟩, hy, rfl⟩ := List.mem_map.1 hp
  obtain ⟨m, hm, hmember⟩ := Alignment.exists_of_mem_right hk.properties (List.mem_map_of_mem hy)
  have htype : ∃ x, (x, y.type) ∈ placed g s.types.length := by
    rcases List.mem_append.1 hm with hm | hm
    all_goals
      obtain ⟨m, -, rfl⟩ := List.mem_map.1 hm
      obtain ⟨z, rfl, t, ht, rfl⟩ := hmember
      obtain ⟨x, hx, -⟩ := Compilation.exists_placed_of_place? ht
      exact ⟨x, hx⟩
  obtain ⟨x, hx⟩ := htype
  rw [hr, Store.lineage, lineageUpTo_materialize, Ledger.type_projected] at hu
  obtain ⟨x, hx⟩ := hbuilt.exists_placed_of_mem_lineageUpTo hx hu
  exact ⟨x, u, hx, hown⟩

end Services

/-! ## Surfaces -/

/-- An entry of a surface shows a property of the root with what is denied to it and to the navigation that
starts from its type. -/
structure Reflects (r : Compiled) (p : PropertyId × Property) (e : Surface.Entry) : Prop where
  /-- The entry has the name of the property. -/
  name : e.name = p.2.name
  /-- Entities can be added to a collection unless that is denied. -/
  add : p.2.collection = true → ("add" ∈ e.accessors ↔ ¬ Denied r .insert p.1)
  /-- Entities can be changed unless that is denied. -/
  update : "update" ∈ e.accessors ↔ ¬ Denied r .update p.1
  /-- Entities can be removed from a collection unless that is denied. -/
  delete : p.2.collection = true → ("delete" ∈ e.accessors ↔ ¬ Denied r .delete p.1)
  /-- Navigation can be fetched with its source unless that is denied. -/
  navigation : List.Forall₂ (fun q n => n.name = q.2.name ∧ (n.expandable = false ↔ Denied r .expand q.1))
    (Surface.navigationProperties r.store p.2.type) e.navigation

section Surfaces

variable {settings : Settings} {metadata : Table String String} {s : Store} {g : Graph} {r : Compiled}

/-- The entry of a property shows what is denied if projections tell it. -/
theorem reflects_entry {p : PropertyId × Property}
    (hp : ∀ kind, Surface.supports p.2 kind = false ↔ Denied r kind p.1)
    (hnavigation : ∀ q ∈ Surface.navigationProperties r.store p.2.type,
      Surface.supports q.2 .expand = false ↔ Denied r .expand q.1) :
    Reflects r p (Surface.entry r.store p.2) where
  name := rfl
  add hc := by
    rw [← hp]
    simp [Surface.entry, Surface.accessors, hc, Surface.collectionAccessors, Surface.wordIf]
  update := by
    rw [← hp]
    cases hc : p.2.collection
    · simp [Surface.entry, Surface.accessors, hc, Surface.singleAccessors, Surface.wordIf]
    · simp [Surface.entry, Surface.accessors, hc, Surface.collectionAccessors, Surface.wordIf]
  delete hc := by
    rw [← hp]
    simp [Surface.entry, Surface.accessors, hc, Surface.collectionAccessors, Surface.wordIf]
  navigation := by
    rw [Surface.entry, Surface.navigation, List.forall₂_map_right_iff, List.forall₂_same]
    exact fun q hq => ⟨rfl, hnavigation q hq⟩

/-- A service denies what its restrictions deny and nothing else, and its surface shows that. -/
theorem supports_eq_false_iff_denied (h : compileGraph settings none metadata s g = .ok r) :
    (∀ t ∈ r.model.registry.types, ∀ p ∈ r.store.declared t, ∀ kind,
      Surface.supports p.2 kind = false ↔ Denied r kind p.1) ∧
    ∃ surface, Surface.ofModel r.store r.model = .ok surface ∧
      ∀ root, r.model.root? r.store = .ok (some root) →
        List.Forall₂ (Reflects r) ((r.store.declared root).filter (·.2.collection)) surface.collections ∧
        List.Forall₂ (Reflects r) ((r.store.declared root).filter (!·.2.collection)) surface.singletons := by
  obtain ⟨d, terms, hpassed⟩ := Compilation.compileGraph_eq_ok_iff.1 h
  have hregistered : ∀ t ∈ r.model.registry.types, ∀ p ∈ r.store.declared t, ∀ kind,
      Surface.supports p.2 kind = false ↔ Denied r kind p.1 := by
    intro t ht p hp kind
    obtain ⟨x, hx⟩ := exists_placed_of_declared hpassed ht hp
    exact supports_eq_false_iff hpassed hx hp
  refine ⟨hregistered, ?_⟩
  obtain ⟨root?, hroot?⟩ := hpassed.clear
  cases root? with
  | none => exact ⟨{}, by rw [Surface.ofModel, hroot?]; rfl, fun root hroot => by simp [hroot?] at hroot⟩
  | some root =>
      refine ⟨Surface.ofRoot r.store root, by rw [Surface.ofModel, hroot?]; rfl, fun root' hroot => ?_⟩
      obtain rfl : root = root' := by simpa [hroot?] using hroot
      have hentry : ∀ p ∈ r.store.declared root, Reflects r p (Surface.entry r.store p.2) := by
        intro p hp
        have hsupports := hregistered root (hpassed.exists_container hroot).1 p hp
        refine reflects_entry hsupports fun q hq => ?_
        obtain ⟨x, u, hx, hqu⟩ := exists_placed_of_navigation hpassed hroot hp hq
        exact supports_eq_false_iff hpassed hx hqu
      simp only [Surface.ofRoot, List.filter_map, List.map_map]
      constructor
      · rw [List.forall₂_map_right_iff]
        exact List.forall₂_same.2 fun p hp => hentry p (List.mem_of_mem_filter hp)
      · rw [List.forall₂_map_right_iff]
        exact List.forall₂_same.2 fun p hp => hentry p (List.mem_of_mem_filter hp)

end Surfaces

/-- A graph with a set of items that is closed for insertion, and whose items are fetched without their parts. -/
def closedGraph : Graph :=
  let parts : Edm.Expression := .path "PropertyPath" ["Parts"]
  { schemas :=
      [{ space := "NS",
         entities := [{ name := ⟨"NS", "Item"⟩, kind := .entity,
                        navigation := [{ name := "Parts", type := "NS.Item", collection := true }] }],
         containers := [{ name := ⟨"NS", "Service"⟩, sets := [itemSet] }] }],
    annotations :=
      [(itemSet.targetPath, restriction .insert (some (.record none
          [("Flag", some (.constant (.bool false))), ("Paths", some (.collection []))]))),
        (itemSet.targetPath, restriction .expand (some (.record none
          [("Flag", some (.constant (.bool true))), ("Paths", some (.collection [parts]))])))] }

/-- Insertion is denied to the set of items, and expansion to the parts of an item. -/
theorem denied_of_closedGraph :
    ∃ r, compileGraph {} none [] {} closedGraph = .ok r ∧
      (∃ t ∈ r.model.registry.types, ∃ p ∈ r.store.declared t,
        p.2.name = "Items" ∧ Denied r .insert p.1 ∧ ¬ Denied r .update p.1) ∧
      ∃ t ∈ r.model.registry.types, ∃ p ∈ r.store.declared t,
        p.2.name = "Parts" ∧ Denied r .expand p.1 ∧ ¬ Denied r .insert p.1 := by
  have hcompiles : (compileGraph {} none [] {} closedGraph).toOption.any (fun r =>
      (∃ t ∈ r.model.registry.types, ∃ p ∈ r.store.declared t, p.2.name = "Items" ∧
        Surface.supports p.2 .insert = false ∧ ¬ Surface.supports p.2 .update = false) ∧
      ∃ t ∈ r.model.registry.types, ∃ p ∈ r.store.declared t, p.2.name = "Parts" ∧
        Surface.supports p.2 .expand = false ∧ ¬ Surface.supports p.2 .insert = false) = true := by
    decide +kernel
  obtain ⟨r, hr, hdenied⟩ := exists_of_any_toOption hcompiles
  have hiff := (supports_eq_false_iff_denied hr).1
  obtain ⟨⟨t, ht, p, hp, hname, hinsert, hupdate⟩, u, hu, q, hq, hname', hexpand, hinsert'⟩ :=
    of_decide_eq_true hdenied
  rw [hiff t ht p hp] at hinsert hupdate
  rw [hiff u hu q hq] at hexpand hinsert'
  exact ⟨r, hr, ⟨t, ht, p, hp, hname, hinsert, hupdate⟩, u, hu, q, hq, hname', hexpand, hinsert'⟩

end EntityModel.Restriction
