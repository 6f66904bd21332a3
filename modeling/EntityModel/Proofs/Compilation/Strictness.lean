import EntityModel.Proofs.Compilation.Order
import EntityModel.Proofs.Compilation.Primitive
import EntityModel.Proofs.Csdl.Encoding
import EntityModel.Proofs.Csdl.Pruning
import EntityModel.Proofs.Csdl.Spelling

/-!
# Strict containers

A strict compilation differs from a lenient one in its last step, which asks the model for its root. So it fails where
the lenient one fails, and where that makes a service, the strict one makes the same service or refuses its service
classes (`compile_of_strict`). The refusal tells all of them. They stand in the order of their namespaces, a namespace
being opened by the first type that is registered in it, and in each of them in the order of registration
(`Model.Precedes`); the first of them is the one that the clients of the lenient service see.
-/

namespace EntityModel.CodeModel.Model

variable {m : Model} {s : Store}

/-- How many types are registered before the first one of a namespace. -/
def opening (m : Model) (s : Store) (space : String) : Nat :=
  (m.registry.types.map fun t => (s.nameOf t).space).idxOf space

/-- The namespace of a type was opened before that of another one, or it is the same and the type was registered
before the other one. -/
def Precedes (m : Model) (s : Store) (t u : TypeId) : Prop :=
  m.opening s (s.nameOf t).space < m.opening s (s.nameOf u).space ∨
    (s.nameOf t).space = (s.nameOf u).space ∧ m.registry.types.idxOf t < m.registry.types.idxOf u

/-- The positions in a list without repetitions grow along the list. -/
theorem pairwise_idxOf {α : Type} [DecidableEq α] {l : List α} (h : l.Nodup) :
    l.Pairwise fun a b => l.idxOf a < l.idxOf b := by
  rw [List.pairwise_iff_getElem]
  intro i j hi hj hij
  rw [h.idxOf_getElem i hi, h.idxOf_getElem j hj]
  exact hij

/-- The service classes stand in the order of their namespaces, and in each in the order of registration. -/
theorem pairwise_services {h : Registry.History} (hr : m.registry = .ofHistory h)
    (hnames : ∀ e ∈ h, s.nameOf e.2 = e.1) (hnodup : m.registry.types.Nodup) :
    (m.services s).Pairwise (m.Precedes s) := by
  have htypes : m.registry.types = h.map (·.2) := by rw [hr, Registry.types_ofHistory]
  have hopening : ∀ space, m.opening s space = (h.map (·.1.space)).idxOf space := by
    intro space
    rw [opening, htypes, List.map_map]
    exact congrArg _ (List.map_congr_left fun e he => congrArg QualifiedName.space (hnames e he))
  have hspace : ∀ {space t}, t ∈ Registry.inSpace h space → (s.nameOf t).space = space := by
    intro space t ht
    obtain ⟨e, he, rfl⟩ := List.mem_map.1 ht
    obtain ⟨he, hspace⟩ := List.mem_filter.1 he
    rw [hnames e he]
    simpa using hspace
  rw [services, hr, Registry.namespaces_ofHistory, List.flatMap_map, List.pairwise_flatMap]
  constructor
  · intro space _
    have hsub : ((Registry.inSpace h space).filter (isService s)).Sublist m.registry.types := by
      rw [htypes]
      exact List.filter_sublist.trans (List.filter_sublist.map _)
    refine ((pairwise_idxOf hnodup).sublist hsub).imp_of_mem fun ht hu htu => .inr ⟨?_, htu⟩
    rw [hspace (List.mem_of_mem_filter ht), hspace (List.mem_of_mem_filter hu)]
  · refine (Registry.pairwise_spaces h).imp fun {a b} hab t ht u hu => .inl ?_
    rw [hspace (List.mem_of_mem_filter ht), hspace (List.mem_of_mem_filter hu), hopening, hopening]
    exact hab

end EntityModel.CodeModel.Model

namespace EntityModel.Compilation

open CodeModel
open Csdl (plainElement readRoot readText)
open Edm (Graph)

/-! ## Registered types -/

section Types

variable {g : Graph} {n : Nat} {ps : List QualifiedName} {d : Draft} {s : Store}

theorem Declares.exists_history (h : Declares g n ps d) :
    ∃ history, d.registry = .ofHistory history ∧ ∀ e ∈ history, d.store.nameOf e.2 = e.1 := by
  obtain ⟨more, -, hr, hmore⟩ := h.registry
  refine ⟨_, hr, fun e he => ?_⟩
  rcases List.mem_append.1 he with he | he
  · obtain ⟨⟨x, t⟩, hx, rfl⟩ := List.mem_map.1 he
    exact h.nameOf_placed hx
  · rw [Store.nameOf, (hmore e he).2]
    rfl

/-- A type is registered when it is made, so a change registers no type for a second time. -/
theorem Declares.nodup_types_apply (h : Declares g n ps d) (hd : d.registry.types.Nodup) (x : Change) :
    (d.apply x).registry.types.Nodup := by
  cases x with
  | refer name =>
      have hnew : (⟨d.store.types.length⟩ : TypeId) ∉ d.registry.types := by
        intro hmem
        have hnone : d.store.type? ⟨d.store.types.length⟩ = none := List.getElem?_eq_none (Nat.le_refl _)
        rcases exists_placed_or_primitive h hmem with ⟨x, hx⟩ | ⟨name, hname⟩
        · obtain ⟨k, hk, -⟩ := h.classes hx
          rw [hnone] at hk
          cases hk
        · rw [hnone] at hname
          cases hname
      rw [Draft.apply]
      split
      · exact List.nodup_append.2 ⟨hd, List.nodup_singleton _, fun t ht u hu htu =>
          hnew (List.mem_singleton.1 hu ▸ htu ▸ ht)⟩
      · exact hd
  | base c b => exact hd
  | property c y => exact hd
  | key c p => exact hd
  | method c m y => exact hd

theorem Declares.nodup_types_replay (h : Declares g n ps d) (hd : d.registry.types.Nodup) (cs : List Change) :
    (d.replay cs).registry.types.Nodup := by
  induction cs generalizing ps d with
  | nil => exact hd
  | cons x cs ih => exact ih (h.apply x) (h.nodup_types_apply hd x)

/-- No type of a draft that has been built is registered twice. -/
theorem Built.nodup_types (hb : Built g s d) : d.registry.types.Nodup := by
  obtain ⟨fs, bs, es, rfl, -⟩ := hb
  refine (Declares.declareAll s).nodup_types_replay ?_ _
  have htypes : (declareAll (declarations g) { store := s }).registry.types =
      (placed g s.types.length).map (·.2) := by
    obtain ⟨more, hmore, hr, -⟩ := (Declares.declareAll (g := g) s).registry
    obtain rfl := List.map_eq_nil_iff.1 hmore
    rw [hr, List.append_nil, Registry.types_ofHistory, historyOf, List.map_map]
    rfl
  rw [htypes]
  exact nodup_placedFrom

end Types

open Restriction (Terms)

/-! ## Roots -/

section Roots

variable {m : Model} {s : Store}

/-- A strict model has no root if it has several service classes. -/
theorem root?_of_strict (m : Model) (s : Store) :
    Model.root? { m with strict := true } s =
      if (m.services s).length ≤ 1 then .ok (m.services s).head?
      else .error (.duplicateServiceRoot ((m.services s).map s.fullName)) := by
  have hservices : Model.services { m with strict := true } s = m.services s := rfl
  rw [Model.root?, hservices]
  rcases m.services s with _ | ⟨t, _ | ⟨u, ts⟩⟩
  · rfl
  · rfl
  · simp

theorem root?_of_lenient (hm : m.strict = false) : m.root? s = .ok (m.services s).head? := by
  rw [Model.root?, hm]
  rcases m.services s with _ | ⟨t, _ | ⟨u, ts⟩⟩
  · rfl
  · rfl
  · rfl

end Roots

/-! ## Compilations -/

/-- A compiled service with a strict model. -/
def Compiled.strictly (r : Compiled) : Compiled := { r with model := { r.model with strict := true } }

/-- What becomes of an attempt if several service classes are refused. -/
def Attempt.strictly : Attempt → Attempt
  | compiled r =>
      match r.strictly.model.root? r.store with
      | .ok _ => compiled r.strictly
      | .error f => failed f
  | a => a

section Strictness

variable {settings : Settings} {vocabulary : Option SourceFile} {m : Table String String} {s : Store} {g : Graph}

/-- Up to the root, a strict compilation does what a lenient one does. -/
theorem compileGraph_of_strict :
    compileGraph { settings with strictContainer := true } vocabulary m s g =
      (compileGraph { settings with strictContainer := false } vocabulary m s g).bind fun r =>
        ((r.strictly.model.root? r.store).mapError .foreseen).map fun _ => r.strictly := by
  rw [compileGraph, compileGraph]
  cases (build g).run { store := s } with
  | error f => rfl
  | ok built =>
      cases Restriction.loadTerms vocabulary with
      | error f => rfl
      | ok terms =>
          cases hrestricted : restrict g terms built.1 built.2.store with
          | error f => simp only [Except.mapError, bind, Except.bind, hrestricted]
          | ok store =>
              simp only [Except.mapError, bind, Except.bind, hrestricted]
              -- The lenient model has a root, so only the root of the strict one is asked for.
              conv_rhs => rw [root?_of_lenient rfl]
              rfl

/-- A strict attempt is the lenient one, with several service classes refused. -/
theorem compile_of_strict {metadata : Option (Table String String)} :
    compile { settings with strictContainer := true } vocabulary metadata s =
      (compile { settings with strictContainer := false } vocabulary metadata s).strictly := by
  have hdocument : documentOf { settings with strictContainer := true } metadata =
      documentOf { settings with strictContainer := false } metadata := rfl
  rw [compile, compile, hdocument]
  cases documentOf { settings with strictContainer := false } metadata with
  | error f => rfl
  | ok found =>
      obtain ⟨m, document⟩ := found
      dsimp only
      rw [compileDocument, compileDocument]
      cases (Csdl.readText document).mapError (Mishap.map Failure.metadata) with
      | error mishap =>
          cases mishap with
          | foreseen f => rfl
          | unforeseen cause => rfl
      | ok g =>
          dsimp only [bind, Except.bind]
          rw [compileGraph_of_strict]
          cases compileGraph { settings with strictContainer := false } vocabulary m s g with
          | error mishap =>
              cases mishap with
              | foreseen f => rfl
              | unforeseen cause => rfl
          | ok r =>
              dsimp only [Except.bind, Attempt.strictly]
              cases r.strictly.model.root? r.store with
              | error f => rfl
              | ok root => rfl

/-- The service classes of a compiled service are the registered ones, in the order of their namespaces. -/
theorem Passed.ordered_services {r : Compiled} {d : Draft} {terms : Terms}
    (h : Passed settings vocabulary m s g r d terms) :
    (r.model.services r.store).Perm (r.model.registry.types.filter (Model.isService r.store)) ∧
      (r.model.services r.store).Pairwise (r.model.Precedes r.store) := by
  obtain ⟨-, hb⟩ := build_post h.built
  obtain ⟨ps, hd⟩ := hb.declares
  obtain ⟨history, hr, hnames⟩ := hd.exists_history
  have hregistry : r.model.registry = d.registry := by rw [h.model]
  have hnameOf : ∀ t, r.store.nameOf t = d.store.nameOf t := by
    intro t
    rw [Store.nameOf, Store.nameOf, Store.type?, Store.type?, types_of_restrict h.restricted]
  constructor
  · rw [hregistry]
    exact services_perm hd hregistry r.store
  · exact Model.pairwise_services (hregistry.trans hr) (fun e he => (hnameOf e.2).trans (hnames e he))
      (hregistry ▸ hb.nodup_types)

/-- A strict compilation fails where the lenient one does, with the same outcome. Where the lenient one makes a service
with a single service class at most, the strict one makes the same service with a strict model. Where there are more,
it fails and tells all of them, in the order of their namespaces, the one first that clients of the lenient service
see. -/
theorem strict_of_lenient {metadata : Option (Table String String)} :
    let lenient := compile { settings with strictContainer := false } vocabulary metadata s
    let strict := compile { settings with strictContainer := true } vocabulary metadata s
    ((∀ r, lenient ≠ .compiled r) → strict = lenient) ∧
      ∀ r, lenient = .compiled r →
        let services := r.model.registry.types.filter (Model.isService r.store)
        (services.length ≤ 1 → strict = .compiled r.strictly ∧
          ∃ a, Surface.ofModel r.store r.model = .ok a ∧
            Surface.ofModel r.strictly.store r.strictly.model = .ok a) ∧
        (1 < services.length → ∃ first others, (first :: others).Perm services ∧
          (first :: others).Pairwise (r.model.Precedes r.store) ∧
          strict = .failed (.duplicateServiceRoot ((first :: others).map r.store.fullName)) ∧
          ∃ a, Surface.ofModel r.store r.model = .ok a ∧ a.service = some (r.store.fullName first)) := by
  dsimp only
  rw [compile_of_strict]
  constructor
  · intro h
    cases hlenient : compile { settings with strictContainer := false } vocabulary metadata s with
    | refused f => rfl
    | broken cause => rfl
    | failed f => rfl
    | compiled r => exact absurd hlenient (h r)
  · intro r hr
    rw [hr]
    obtain ⟨m, document, g, d, terms, -, -, hpassed⟩ := compile_eq_compiled_iff.1 hr
    obtain ⟨hperm, hordered⟩ := hpassed.ordered_services
    have hroot : r.model.root? r.store = .ok (r.model.services r.store).head? :=
      root?_of_lenient (by rw [hpassed.model])
    have hstrict := root?_of_strict r.model r.store
    rw [← hperm.length_eq]
    refine ⟨fun hone => ?_, fun hmore => ?_⟩
    · rw [if_pos hone] at hstrict
      refine ⟨?_, ?_⟩
      · simp only [Attempt.strictly, Compiled.strictly, hstrict]
      · simp only [Surface.ofModel, Compiled.strictly, hstrict, hroot]
        cases (r.model.services r.store).head? with
        | none => exact ⟨_, rfl, rfl⟩
        | some root => exact ⟨_, rfl, rfl⟩
    · rw [if_neg (Nat.not_le_of_lt hmore)] at hstrict
      cases hservices : r.model.services r.store with
      | nil => simp [hservices] at hmore
      | cons first others =>
          rw [hservices] at hperm hordered hroot hstrict
          refine ⟨first, others, hperm, hordered, ?_, ?_⟩
          · simp only [Attempt.strictly, Compiled.strictly, hstrict]
          · rw [Surface.ofModel, hroot]
            exact ⟨_, rfl, rfl⟩

/-- A document with two containers. -/
def doubleDocument : String :=
  "<Schema Namespace='A'><EntityContainer Name='X'/><EntityContainer Name='Y'/></Schema>"

/-- The root of the document. -/
def doubleRoot : Xml.Element :=
  plainElement "" "Schema" [("Namespace", "A")]
    (["X", "Y"].map fun name => plainElement "" "EntityContainer" [("Name", name)] [])

set_option maxRecDepth 100000 in
theorem readText_doubleDocument : readText doubleDocument = readRoot doubleRoot :=
  Csdl.readText_of_tag (by decide) (by decide) (by decide +kernel)

/-- The strict compilation tells both containers, and the clients of the lenient service see the first one. -/
theorem strict_of_double :
    ∃ r a, compile {} none (some [("$metadata", doubleDocument)]) {} = .compiled r ∧
      1 < (r.model.registry.types.filter (Model.isService r.store)).length ∧
      compile { strictContainer := true } none (some [("$metadata", doubleDocument)]) {} =
        .failed (.duplicateServiceRoot ["A.X", "A.Y"]) ∧
      Surface.ofModel r.store r.model = .ok a ∧ a.service = some "A.X" := by
  have hfacts : ∃ g ∈ (readRoot doubleRoot).toOption,
      ∃ r ∈ (compileGraph {} none [("$metadata", doubleDocument)] {} g).toOption,
        1 < (r.model.registry.types.filter (Model.isService r.store)).length ∧
          (r.model.services r.store).map r.store.fullName = ["A.X", "A.Y"] := by
    decide +kernel
  obtain ⟨g, hg, r, hr, hmore, hservices⟩ := hfacts
  obtain ⟨d, terms, hpassed⟩ := compileGraph_eq_ok_iff.1 (toOption_eq_some_iff.1 hr)
  have hr : compile {} none (some [("$metadata", doubleDocument)]) {} = .compiled r :=
    compile_eq_compiled_iff.2
      ⟨_, _, g, d, terms, rfl, readText_doubleDocument.trans (toOption_eq_some_iff.1 hg), hpassed⟩
  have hboth := @strict_of_lenient {} none {} (some [("$metadata", doubleDocument)])
  obtain ⟨first, others, -, -, hstrict, a, ha, hfirst⟩ := (hboth.2 r hr).2 hmore
  have hrefused : compile { strictContainer := true } none (some [("$metadata", doubleDocument)]) {} =
      .failed (.duplicateServiceRoot ["A.X", "A.Y"]) := by
    have hlength : (r.model.services r.store).length = 2 := by
      rw [← List.length_map r.store.fullName, hservices]
      rfl
    have hroot := root?_of_strict r.model r.store
    rw [if_neg (by omega), hservices] at hroot
    have hcompile := @compile_of_strict {} none {} (some [("$metadata", doubleDocument)])
    rw [hcompile, hr, Attempt.strictly, Compiled.strictly, hroot]
  have hnames : (first :: others).map r.store.fullName = ["A.X", "A.Y"] := by
    simpa using hstrict.symm.trans hrefused
  have hname : r.store.fullName first = "A.X" := (List.cons.inj hnames).1
  exact ⟨r, a, hr, hmore, hrefused, ha, hname ▸ hfirst⟩

end Strictness

end EntityModel.Compilation
