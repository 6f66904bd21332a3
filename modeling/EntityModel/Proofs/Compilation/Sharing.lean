import EntityModel.Proofs.Compilation.Depiction
import EntityModel.Proofs.Compilation.Service
import EntityModel.Proofs.Csdl.Location
import EntityModel.Proofs.Restriction.Assembly

/-!
# Compiled models share their types

Whatever a compiled class refers to is registered, and it is the type that the registry finds under its name: all
references to one name lead to one type. For classes this is so because references are resolved in the registry.
For primitive types it holds as long as no class hides them, since each of them is registered when its name is
referred to for the first time.
-/

namespace EntityModel.Compilation

open CodeModel
open Edm (Graph Container)
open Relation (TransGen)
open Restriction (Ledger)

/-! ## What is found under a name -/

section Names

variable {g : Graph} {n : Nat} {ps : List QualifiedName} {s : Store} {d : Draft} {x : Declaration} {c u : TypeId}
variable {k : ClassDetail} {name : QualifiedName}

theorem Declares.mem_of_primitive (h : Declares g n ps d) (hmem : u ∈ d.registry.types)
    (htype : d.store.type? u = some ⟨name, .primitive⟩) : name ∈ ps := by
  obtain ⟨ts, htypes, hts⟩ := h.exists_types
  rw [htypes, List.mem_append] at hmem
  rcases hmem with hplaced | hnew
  · obtain ⟨⟨x, t⟩, hx, rfl⟩ := List.mem_map.1 hplaced
    obtain ⟨k, hk, -⟩ := h.classes hx
    rw [hk] at htype
    cases htype
  · obtain ⟨other, hother, -, hsame⟩ := Alignment.exists_of_mem_right hts hnew
    rw [hsame] at htype
    cases htype
    exact hother

theorem Declares.filter_nameOf_of_primitive (h : Declares g n ps d) (hg : SparesPrimitives g) (hps : ps.Nodup)
    (hmem : u ∈ d.registry.types) (htype : d.store.type? u = some ⟨name, .primitive⟩) :
    d.registry.types.filter (fun t => d.store.nameOf t = name) = [u] := by
  obtain ⟨t, hfilter, -⟩ := h.filter_nameOf hg hps (h.mem_of_primitive hmem htype)
  have hu : u ∈ d.registry.types.filter (fun t => d.store.nameOf t = name) := by
    rw [List.mem_filter]
    refine ⟨hmem, ?_⟩
    rw [Store.nameOf, htype]
    simp
  rw [hfilter] at hu ⊢
  rw [List.mem_singleton.1 hu]

/-- What a name means is found under its name, if it is registered. -/
theorem Means.resolve? (hm : Means g n d.store name u) (h : Declares g n ps d) (hg : SparesPrimitives g)
    (hps : ps.Nodup) (hmem : u ∈ d.registry.types) :
    d.registry.resolve? d.store (d.store.nameOf u) .type = some u := by
  rw [h.nameOf_of_means hm]
  unfold Means at hm
  split at hm
  · next hspace =>
      have hname : name ∈ ps := h.mem_of_primitive hmem hm
      obtain ⟨t, hfound, htype⟩ := h.resolve?_primitive_of_mem (hg.not_isDeclared hspace) hname
      have hlookup : d.registry.index.lookup name = some t := (Option.filter_eq_some_iff.1 hfound).1
      have ht : t ∈ d.registry.types := h.mem_types_of_resolve? hfound
      have hsame : [u] = [t] :=
        (h.filter_nameOf_of_primitive hg hps hmem hm).symm.trans (h.filter_nameOf_of_primitive hg hps ht htype)
      obtain rfl : u = t := by simpa using hsame
      rw [Registry.resolve?, hlookup]
      simp [Option.filter, Store.isOf, hm, Variant.extends]
  · exact h.resolve?_type_of_place? hm

theorem SparesPrimitives.means_of_place? (hg : SparesPrimitives g) (h : place? g n name = some u) :
    Means g n s name u := by
  have hdeclared : IsDeclared g name := isSome_place?_iff.1 (by rw [h]; rfl)
  rw [Means, if_neg fun hspace => hg.not_isDeclared hspace hdeclared]
  exact h

/-- What a class refers to is what some name means. -/
theorem Shows.exists_means (hk : Shows g n s x c k) (hg : SparesPrimitives g) (h : s.Refers c u) :
    ∃ name, Means g n s name u := by
  have hmethod : ∀ {m d}, m ∈ k.methods → s.method? m = some d → u ∈ methodTargets d →
      ∃ name, Means g n s name u := by
    intro m d hm hd hu
    obtain ⟨o, -, m', ⟨returns, parameters, hreturns, hparameters, rfl⟩, htype⟩ :=
      Alignment.exists_of_mem_right hk.methods hm
    obtain rfl := Option.some.inj (hd.symm.trans (by rw [Store.method?, htype]; rfl))
    rcases List.mem_append.1 hu with hu | hu
    · obtain ⟨q, hq, rfl⟩ := List.mem_map.1 hu
      obtain ⟨p, -, t, ht, rfl⟩ := Alignment.exists_of_mem_right hparameters hq
      exact ⟨_, ht⟩
    · have hsome : returns = some u := by simpa using hu
      obtain ⟨r, -, hr⟩ := Alignment.exists_of_some_right (hsome ▸ hreturns)
      exact ⟨_, hr⟩
  cases h with
  | base hk' hb =>
      obtain rfl := Option.some.inj (hk.class?.symm.trans hk')
      obtain ⟨b, -, hplace⟩ := Alignment.exists_of_some_right (hb ▸ hk.base)
      exact ⟨_, hg.means_of_place? hplace⟩
  | property he =>
      obtain ⟨m, -, hm⟩ := Alignment.exists_of_mem_right hk.properties (List.mem_map_of_mem he)
      cases m with
      | structural p =>
          obtain ⟨y, hy, t, ht, rfl⟩ := hm
          rw [hy]
          exact ⟨_, ht⟩
      | navigation p =>
          obtain ⟨y, hy, t, ht, rfl⟩ := hm
          rw [hy]
          exact ⟨_, hg.means_of_place? ht⟩
      | offered collection m =>
          obtain ⟨y, hy, t, ht, rfl⟩ := hm
          rw [hy]
          exact ⟨_, hg.means_of_place? ht⟩
  | parameter hk' hm hd hp =>
      obtain rfl := Option.some.inj (hk.class?.symm.trans hk')
      exact hmethod hm hd (List.mem_append_left _ (List.mem_map_of_mem hp))
  | result hk' hm hd hr =>
      obtain rfl := Option.some.inj (hk.class?.symm.trans hk')
      exact hmethod hm hd (List.mem_append_right _ (by simp [hr]))

end Names

/-! ## Drafts -/

section Drafts

variable {g : Graph} {ps : List QualifiedName} {s : Store} {d : Draft} {t u : TypeId} {k : ClassDetail}
variable {p : PropertyId} {containers : List (Container × TypeId)}

theorem Built.exists_property (hb : Built g s d) (ht : t ∈ d.registry.types) (hk : d.store.class? t = some k)
    (hp : p ∈ k.properties) : ∃ x, d.store.property? p = some x ∧ x.owner = some t := by
  obtain ⟨x, hx, hshow⟩ := hb.exists_shows ht hk
  obtain ⟨k', hk', hplaces, -⟩ := hb.map_fst_declared hx
  obtain rfl := Option.some.inj (hk.symm.trans hk')
  rw [← hplaces] at hp
  obtain ⟨e, he, rfl⟩ := List.mem_map.1 hp
  obtain ⟨m, -, hm⟩ := Alignment.exists_of_mem_right hshow.properties (List.mem_map_of_mem he)
  exact ⟨e.2, Store.property?_of_mem_declared he, hm.owner⟩

theorem Built.exists_method (hb : Built g s d) (ht : t ∈ d.registry.types) (hk : d.store.class? t = some k)
    (hu : u ∈ k.methods) : ∃ x, d.store.method? u = some x ∧ x.owner = some t := by
  obtain ⟨x, hx, hshow⟩ := hb.exists_shows ht hk
  obtain ⟨o, -, m, -, htype⟩ := Alignment.exists_of_mem_right hshow.methods hu
  exact ⟨_, by rw [Store.method?, htype]; rfl, rfl⟩

/-- Whatever can be reached from a registered type is registered, and found under its name. -/
theorem reached_of_build (hrun : build g { store := s } = .ok (containers, d)) (hg : SparesPrimitives g)
    (ht : t ∈ d.registry.types) (hu : TransGen d.store.Refers t u) :
    u ∈ d.registry.types ∧ d.registry.resolve? d.store (d.store.nameOf u) .type = some u := by
  obtain ⟨-, hb⟩ := build_post hrun
  have hd := hb.declaresNames
  have hstep : ∀ {t u}, t ∈ d.registry.types → d.store.Refers t u →
      u ∈ d.registry.types ∧ d.registry.resolve? d.store (d.store.nameOf u) .type = some u := by
    intro t u ht hu
    obtain ⟨k, hk⟩ := hu.isClass
    obtain ⟨x, hx, hshow⟩ := hb.exists_shows ht hk
    obtain ⟨name, hmeans⟩ := hshow.exists_means hg hu
    have hmem : u ∈ d.registry.types := mem_types_of_refers hrun hx hu
    exact ⟨hmem, hmeans.resolve? hd hg (nodup_foldl_noted hg List.nodup_nil) hmem⟩
  induction hu with
  | single hu => exact hstep ht hu
  | tail _ hu ih => exact hstep ih.1 hu

/-- What is built is closed, unless a class hides a primitive type. -/
theorem isClosed_of_build (hrun : build g { store := s } = .ok (containers, d)) (hg : SparesPrimitives g) :
    d.registry.IsClosed d.store := by
  obtain ⟨-, hb⟩ := build_post hrun
  have hd := hb.declaresNames
  refine ⟨reached_of_build hrun hg, ?_, ?_, hb.exists_property, hb.exists_method⟩
  · intro t ht hprimitive
    rcases exists_placed_or_primitive hd ht with ⟨x, hx⟩ | ⟨name, hname⟩
    · rw [hd.isOf_placed hx] at hprimitive
      cases hprimitive
    · have hnameOf : d.store.nameOf t = name := by rw [Store.nameOf, hname]; rfl
      rw [hnameOf]
      exact hd.filter_nameOf_of_primitive hg (nodup_foldl_noted hg List.nodup_nil) ht hname
  · intro t k p ht hk hp
    -- A key path may end at another class, but only at one that can be reached.
    obtain ⟨x, hx, hshow⟩ := hb.exists_shows ht hk
    obtain ⟨path, -, hpath⟩ := Alignment.exists_of_mem_right hshow.key hp
    obtain ⟨c, e, hc, he, rfl⟩ := Store.exists_of_findProperty hpath
    have hmem : c ∈ d.registry.types := by
      rcases Relation.reflTransGen_iff_eq_or_transGen.1 hc with rfl | hc
      · exact ht
      · exact (reached_of_build hrun hg ht hc).1
    obtain ⟨k', hk'⟩ := (Store.Refers.property he).isClass
    obtain ⟨y, hy⟩ := hd.exists_placed_of_class? hmem hk'
    obtain ⟨k'', hk'', hplaces, -⟩ := hb.map_fst_declared hy
    exact ⟨c, hmem, k'', hk'', hplaces ▸ List.mem_map_of_mem he⟩

end Drafts

/-! ## Compiled services -/

section Services

variable {l : Ledger} {s : Store} {t u : TypeId}

theorem refers_materialize : (l.materialize s).Refers t u ↔ s.Refers t u := by
  constructor
  · intro h
    cases h with
    | base hk hb => exact .base hk hb
    | property he =>
        rw [Restriction.declared_materialize] at he
        obtain ⟨e, hmem, rfl⟩ := List.mem_map.1 he
        rw [Ledger.type_projected]
        exact .property hmem
    | parameter hk hm hd hp => exact .parameter hk hm hd hp
    | result hk hm hd hr => exact .result hk hm hd hr
  · intro h
    cases h with
    | base hk hb => exact .base hk hb
    | @property e he =>
        have hprojected : (e.1, l.projected e.1 e.2) ∈ (l.materialize s).declared t := by
          rw [Restriction.declared_materialize]
          exact List.mem_map_of_mem he
        have hrefers := Store.Refers.property hprojected
        rwa [Ledger.type_projected] at hrefers
    | parameter hk hm hd hp => exact .parameter hk hm hd hp
    | result hk hm hd hr => exact .result hk hm hd hr

theorem isClosed_materialize {r : Registry} (h : r.IsClosed s) (l : Ledger) : r.IsClosed (l.materialize s) where
  reached ht hu := h.reached ht (Relation.TransGen.mono (fun _ _ => refers_materialize.1) _ _ hu)
  primitives ht hprimitive := h.primitives ht hprimitive
  keys ht hk hp := h.keys ht hk hp
  properties ht hk hp := by
    obtain ⟨x, hx, howner⟩ := h.properties ht hk hp
    rw [Ledger.property?_materialize, hx]
    exact ⟨_, rfl, Ledger.owner_projected.trans howner⟩
  methods ht hk hu := h.methods ht hk hu

/-- A compiled service is closed, unless a schema has the namespace of the primitive types, and each primitive type that
is referred to is registered once. -/
theorem isClosed_of_compile {settings : Settings} {vocabulary : Option SourceFile}
    {metadata : Option (Table String String)} {r : Compiled}
    (h : compile settings vocabulary metadata s = .compiled r)
    (hspaces : ∀ x ∈ r.graph.schemas, x.space ≠ primitiveSpace) :
    r.model.registry.IsClosed r.store ∧ ∀ name ∈ referredNames r.graph, name.space = primitiveSpace →
      ∃ t, r.model.registry.types.filter (fun u => r.store.nameOf u = name) = [t] ∧
        r.store.type? t = some ⟨name, .primitive⟩ := by
  obtain ⟨m, document, g, d, terms, -, hread, hpassed⟩ := compile_eq_compiled_iff.1 h
  obtain ⟨graph, store, model⟩ := r
  obtain rfl : graph = g := hpassed.graph
  obtain rfl := hpassed.model
  have hg : SparesPrimitives graph := sparesPrimitives_of_located (Csdl.located_of_readText hread) hspaces
  have hd := (build_post hpassed.built).2.declaresNames
  obtain ⟨ls, -, hstore⟩ := Restriction.restrict_eq_ok_iff.1 hpassed.restricted
  dsimp only at hstore ⊢
  rw [hstore]
  refine ⟨isClosed_materialize (isClosed_of_build hpassed.built hg) _, fun name hname hspace => ?_⟩
  exact hd.filter_nameOf hg (nodup_foldl_noted hg List.nodup_nil) (mem_foldl_noted.2 (.inr ⟨hname, hspace⟩))

/-- A type with two properties of the same primitive type. -/
def pairDocument : String :=
  "<Schema Namespace='NS'><ComplexType Name='Pair'><Property Name='First' Type='Edm.Int32'/>" ++
    "<Property Name='Second' Type='Edm.Int32'/></ComplexType></Schema>"

set_option maxRecDepth 100000 in
/-- Both properties have the one type that is registered. -/
theorem isClosed_of_pair :
    ∃ r, compile {} none (some [("$metadata", pairDocument)]) {} = .compiled r ∧
      (∀ x ∈ r.graph.schemas, x.space ≠ primitiveSpace) ∧ r.model.registry.IsClosed r.store ∧
      ∃ t, r.model.registry.types.filter (fun u => r.store.nameOf u = ⟨"Edm", "Int32"⟩) = [t] := by
  have hcompiles : ((compile {} none (some [("$metadata", pairDocument)]) {}).result?.any fun r =>
      decide (∀ x ∈ r.graph.schemas, x.space ≠ primitiveSpace) &&
        decide (⟨"Edm", "Int32"⟩ ∈ referredNames r.graph)) = true := by decide +kernel
  obtain ⟨r, hr, hgraph⟩ := Attempt.exists_of_any_result? hcompiles
  rw [Bool.and_eq_true, decide_eq_true_eq, decide_eq_true_eq] at hgraph
  obtain ⟨hclosed, hprimitives⟩ := isClosed_of_compile hr hgraph.1
  obtain ⟨t, hfilter, -⟩ := hprimitives _ hgraph.2 rfl
  exact ⟨r, hr, hgraph.1, hclosed, t, hfilter⟩

end Services

end EntityModel.Compilation
