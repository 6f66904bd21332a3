import EntityModel.Proofs.CodeModel.Reprojection
import EntityModel.Proofs.Compilation.Registered
import EntityModel.Proofs.Restriction.Simulation
import EntityModel.Proofs.Surface.Likeness

/-!
# The order of the types

What a compilation makes does not depend on the order in which a schema lists its types. If two graphs differ in
that order only and both compile, their registered types have the same portraits, up to order, and the clients get
to see the same surface.

Whether a graph compiles does depend on the order, by its key paths alone. If one order compiles, another compiles
exactly if its key paths are in time (`compileGraph_of_rearranged`). A key that is inherited is not in time if the
base is listed behind the type (`compileGraph_of_late_base`).
-/

namespace EntityModel.Compilation

open CodeModel
open Edm (Graph StructuredType Schema Container)
open Restriction (Terms)

section Orders

variable {settings : Settings} {vocabulary : Option SourceFile} {metadata : Table String String} {s : Store}
variable {g g' : Graph} {r r' : Compiled} {d d' : Draft} {terms : Terms}

/-- The root is clear unless a strict model has several service classes. -/
theorem exists_root?_iff {m : Model} {s : Store} :
    (∃ t, m.root? s = .ok t) ↔ (m.services s).length ≤ 1 ∨ m.strict = false := by
  unfold Model.root?
  rcases m.services s with _ | ⟨t, _ | ⟨u, ts⟩⟩
  · simp
  · simp
  · cases m.strict with
    | true => simp
    | false => simp

theorem root?_eq {m m' : Model} {s s' : Store} (hservices : m'.services s' = m.services s)
    (hroot : ∃ t, m.root? s = .ok t) (hroot' : ∃ t, m'.root? s' = .ok t) : m'.root? s' = m.root? s := by
  obtain ⟨root, hroot⟩ := hroot
  obtain ⟨root', hroot'⟩ := hroot'
  unfold Model.root? at hroot hroot' ⊢
  rw [hservices] at hroot' ⊢
  generalize m.services s = ts at hroot hroot' ⊢
  rcases ts with _ | ⟨t, _ | ⟨u, ts⟩⟩
  · rfl
  · rfl
  · dsimp only at hroot hroot' ⊢
    split at hroot
    · cases hroot
    · next hlenient =>
        split at hroot'
        · cases hroot'
        · next hlenient' => rw [if_neg hlenient, if_neg hlenient']

/-- Where one order of the types compiles and another can be built, that compiles as well, to a store that is
alike. -/
theorem Passed.rearranged (hp : Passed settings vocabulary metadata s g r d terms) (h : Rearranged g g')
    (hnames : DistinctTypes g) (hbases : AcyclicBases g)
    (hbuilt : build g' { store := s } = .ok (containersOf (placed g' s.types.length), d')) :
    ∃ r', Passed settings vocabulary metadata s g' r' d' terms ∧
      Alike (SameType g g' s.types.length d.store d'.store) (SamePosition g g' s.types.length d.store d'.store)
        r.store r'.store := by
  have hb := (build_post hp.built).2
  have hb' := (build_post hbuilt).2
  have halike := hb.alike hb' h hnames hbases
  -- The property of each entity set is looked up by name, in a class that has its counterpart.
  have hown : ∀ x ∈ containerSets (containersOf (placed g s.types.length)),
      Option.Rel (fun e e' => SamePosition g g' s.types.length d.store d'.store e.1 e'.1 ∧
          SameType g g' s.types.length d.store d'.store e.2.type e'.2.type)
        (d.store.ownProperty? x.1 x.2.name) (d'.store.ownProperty? x.1 x.2.name) := by
    intro x hx
    obtain ⟨⟨c, t⟩, hc, hx⟩ := List.mem_flatMap.1 hx
    obtain ⟨set, -, rfl⟩ := List.mem_map.1 hx
    exact Alignment.option_imp (halike.ownProperty? (.inl (h.counterpart_of_container hc)) set.name)
      fun _ _ he => ⟨he.1, he.2.type⟩
  obtain ⟨l, l', hl, hstore, hrestricted⟩ :=
    Restriction.restrict_simulate (hb.simulates hb' h hnames hbases) h.annotationWith? hown hp.restricted
  rw [← h.containersOf] at hrestricted
  have hfinal := Restriction.alike_materialize halike fun hsame => Restriction.Ledger.accumulated_eq hl
    fun hq => hsame.eq_iff hb hb' hnames (h.distinctTypes hnames) hq
  let model : Model :=
    { metadata, serviceType := serviceType settings g'.version, strict := settings.strictContainer,
      registry := d'.registry }
  -- Whether the root is clear depends on the number of services only, which stays the same.
  have hclear : ∃ t, model.root? (l'.materialize d'.store) = .ok t := by
    have hlength : (model.services d'.store).length = (r.model.services d.store).length :=
      h.length_services hb.declaresNames hb'.declaresNames (by rw [hp.model]) rfl
    have hbefore := exists_root?_iff.1 hp.clear
    rw [hstore, hp.model] at hbefore
    rw [hp.model] at hlength
    exact exists_root?_iff.2 (hbefore.imp_left fun hle => Nat.le_trans (Nat.le_of_eq hlength) hle)
  exact ⟨{ graph := g', store := l'.materialize d'.store, model },
    ⟨hbuilt, hp.loaded, hrestricted, hclear, rfl, rfl⟩, hstore ▸ hfinal⟩

/-- Rearranged graphs have the same root, if declarations are located in the namespaces of their schemas. -/
theorem Passed.root?_eq (hp : Passed settings vocabulary metadata s g r d terms)
    (hp' : Passed settings vocabulary metadata s g' r' d' terms) (h : Rearranged g g') (hlocated : Located g) :
    r'.model.root? r'.store = r.model.root? r.store := by
  refine Compilation.root?_eq ?_ hp.clear hp'.clear
  rw [Model.services_of_types (types_of_restrict hp.restricted),
    Model.services_of_types (types_of_restrict hp'.restricted)]
  exact h.services hlocated (build_post hp.built).2.declaresNames (build_post hp'.built).2.declaresNames
    h.primitives_perm.length_eq (by rw [hp.model]) (by rw [hp'.model])

/-- Two compilations with the same root have the same surface if their stores are alike. -/
theorem Passed.ofModel_eq (hp : Passed settings vocabulary metadata s g r d terms) (h : Rearranged g g')
    (hroot : r'.model.root? r'.store = r.model.root? r.store)
    (halike : Alike (SameType g g' s.types.length d.store d'.store)
      (SamePosition g g' s.types.length d.store d'.store) r.store r'.store) :
    Surface.ofModel r'.store r'.model = Surface.ofModel r.store r.model := by
  obtain ⟨root?, hroot?⟩ := hp.clear
  rw [Surface.ofModel, Surface.ofModel, hroot, hroot?]
  cases root? with
  | none => rfl
  | some root =>
      obtain ⟨-, x, hx⟩ := hp.exists_container hroot?
      exact congrArg Except.ok (halike.ofRoot (.inl (h.counterpart_of_container hx)))

/-- If one order of the types compiles, another does exactly if its key paths are in time. Then both make the same
types; and they have the same surface, if declarations are located in the namespaces of their schemas, as those of
a document are. -/
theorem compileGraph_of_rearranged (h : Rearranged g g') (hnames : DistinctTypes g) (hbases : AcyclicBases g)
    (hr : compileGraph settings vocabulary metadata s g = .ok r) :
    ((∃ r', compileGraph settings vocabulary metadata s g' = .ok r') ↔ KeysInTime g') ∧
      ∀ r', compileGraph settings vocabulary metadata s g' = .ok r' →
        (r.model.registry.types.map (portrait r.store)).Perm (r'.model.registry.types.map (portrait r'.store)) ∧
          (Located g → Surface.ofModel r'.store r'.model = Surface.ofModel r.store r.model) := by
  obtain ⟨d, terms, hp⟩ := compileGraph_eq_ok_iff.1 hr
  have hbuilds := build_ok_iff (s := s) (h.distinctTypes hnames) (h.acyclicBases hnames hbases)
  refine ⟨⟨fun ⟨r', hr'⟩ => ?_, fun hkeys => ?_⟩, fun r' hr' => ?_⟩
  · obtain ⟨d', terms', hp'⟩ := compileGraph_eq_ok_iff.1 hr'
    exact (hbuilds.1 ⟨_, hp'.built⟩).2
  · have hleads := h.leads ((build_ok_iff hnames hbases).1 ⟨_, hp.built⟩).1
    obtain ⟨⟨containers, d'⟩, hbuilt⟩ := hbuilds.2 ⟨hleads, hkeys⟩
    obtain ⟨rfl, -⟩ := build_post hbuilt
    obtain ⟨r', hp', -⟩ := hp.rearranged h hnames hbases hbuilt
    exact ⟨r', compileGraph_eq_ok_iff.2 ⟨d', terms, hp'⟩⟩
  · obtain ⟨d', terms', hp'⟩ := compileGraph_eq_ok_iff.1 hr'
    obtain ⟨r₁, hp₁, halike⟩ := hp.rearranged h hnames hbases hp'.built
    obtain rfl : r₁ = r' := Except.ok.inj ((compileGraph_eq_ok_iff.2 ⟨d', terms, hp₁⟩).symm.trans hr')
    refine ⟨?_, fun hlocated => hp.ofModel_eq h (hp.root?_eq hp₁ h hlocated) halike⟩
    rw [hp.model, hp'.model]
    exact h.portraits_perm halike (fun _ _ hc => .inl hc) (build_post hp.built).2.declaresNames
      (build_post hp'.built).2.declaresNames h.primitives_perm (types_of_restrict hp.restricted)
      (types_of_restrict hp'.restricted)

end Orders

/-! ## A key that is inherited -/

/-- A type with an identifier. -/
def identifiedType : StructuredType :=
  { name := ⟨"NS", "Identified"⟩, kind := .entity, isAbstract := true,
    properties := [{ name := "ID", type := "Edm.Int32" }] }

/-- A type whose key is inherited. -/
def articleType : StructuredType :=
  { name := ⟨"NS", "Article"⟩, kind := .entity, base := some "NS.Identified", key := ["ID"] }

/-- A type that has nothing to do with the others. -/
def noteType : StructuredType := { name := ⟨"NS", "Note"⟩, kind := .complex }

/-- A container with a set of articles. -/
def articleService : Container :=
  { name := ⟨"NS", "Service"⟩,
    sets := [{ name := "Articles", type := "NS.Article", container := "NS.Service" }] }

/-- The graph with some entity types. -/
def articleGraph (entities : List StructuredType) : Graph :=
  { schemas := [{ space := "NS", entities, containers := [articleService] }] }

theorem articleGraph_rearranged {entities entities' : List StructuredType} (h : entities.Perm entities') :
    Rearranged (articleGraph entities) (articleGraph entities') :=
  ⟨rfl, rfl, rfl, .cons ⟨rfl, rfl, .refl _, .refl _, h, rfl, rfl, rfl, rfl⟩ .nil⟩

/-- The number of bases of the types in the example. -/
def baseCount (t : StructuredType) : Nat := if t.base.isSome then 1 else 0

/-- As long as the base comes first, the order does not matter. -/
theorem compileGraph_of_early_base :
    ∃ r r', compileGraph {} none [] {} (articleGraph [identifiedType, articleType, noteType]) = .ok r ∧
      compileGraph {} none [] {} (articleGraph [noteType, identifiedType, articleType]) = .ok r' ∧
      KeysInTime (articleGraph [noteType, identifiedType, articleType]) ∧
      (r.model.registry.types.map (portrait r.store)).Perm (r'.model.registry.types.map (portrait r'.store)) ∧
      Surface.ofModel r'.store r'.model = Surface.ofModel r.store r.model := by
  have hcompiles : ((compileGraph {} none [] {}
      (articleGraph [identifiedType, articleType, noteType])).toOption.any fun _ => true) = true := by
    decide +kernel
  have hcompiles' : ((compileGraph {} none [] {}
      (articleGraph [noteType, identifiedType, articleType])).toOption.any fun _ => true) = true := by
    decide +kernel
  obtain ⟨r, hr, -⟩ := exists_of_any_toOption hcompiles
  obtain ⟨r', hr', -⟩ := exists_of_any_toOption hcompiles'
  have hperm : [identifiedType, articleType, noteType].Perm [noteType, identifiedType, articleType] := by decide
  obtain ⟨hiff, hsame⟩ := compileGraph_of_rearranged (articleGraph_rearranged hperm) (by decide)
    (acyclicBases_of_rank baseCount (by decide +kernel)) hr
  obtain ⟨hportraits, hsurface⟩ := hsame r' hr'
  exact ⟨r, r', hr, hr', hiff.1 ⟨r', hr'⟩, hportraits, hsurface (by decide)⟩

/-- If the base comes behind the type, the graph does not compile any more. -/
theorem compileGraph_of_late_base :
    Rearranged (articleGraph [identifiedType, articleType]) (articleGraph [articleType, identifiedType]) ∧
      DistinctTypes (articleGraph [identifiedType, articleType]) ∧
      AcyclicBases (articleGraph [identifiedType, articleType]) ∧
      (∃ r, compileGraph {} none [] {} (articleGraph [identifiedType, articleType]) = .ok r) ∧
      ¬ ∃ r, compileGraph {} none [] {} (articleGraph [articleType, identifiedType]) = .ok r := by
  have hcompiles : ((compileGraph {} none [] {}
      (articleGraph [identifiedType, articleType])).toOption.any fun _ => true) = true := by decide +kernel
  have hfails : (compileGraph {} none [] {}
      (articleGraph [articleType, identifiedType])).toOption.isSome = false := by decide +kernel
  obtain ⟨r, hr, -⟩ := exists_of_any_toOption hcompiles
  refine ⟨articleGraph_rearranged (.swap _ _ _), by decide,
    acyclicBases_of_rank baseCount (by decide +kernel), ⟨r, hr⟩, ?_⟩
  rintro ⟨r', hr'⟩
  rw [hr'] at hfails
  cases hfails

end EntityModel.Compilation
