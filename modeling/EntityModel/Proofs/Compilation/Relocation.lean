import EntityModel.Proofs.Compilation.Annotation
import EntityModel.Proofs.Csdl.Relocation

/-!
# Services with annotations in blocks

Restrictions look annotations up by their targets, and nothing else looks at them. So two graphs that say the same
compile to the same service (`Passed.of_saysTheSame`), and it does not matter to a service whether something is
annotated where it stands or in a block of annotations elsewhere (`compiled_of_relocated`).
-/

namespace EntityModel.Compilation

open CodeModel
open Csdl (BaresIn Blocks DifferInSchema Place SaysTheSame plainElement readRoot)
open Edm (Graph Container ContainerMember)
open Restriction (Terms)
open Xml (Element)

section Graphs

variable {settings : Settings} {vocabulary : Option SourceFile} {m m' : Table String String} {s : Store}
variable {g g' : Graph} {terms : Terms} {r : Compiled} {d : Draft}

/-- Annotations are looked up by target and term. -/
theorem restrict_of_annotationWith? (h : g'.annotationWith? = g.annotationWith?) : restrict g' = restrict g := by
  have hentries : Restriction.entriesOf g' = Restriction.entriesOf g := by
    funext s p t set term
    simp only [Restriction.entriesOf, h]
  have hterms : Restriction.applyTerms g' = Restriction.applyTerms g := by
    funext s p t set terms l
    induction terms generalizing l with
    | nil => rfl
    | cons term terms ih => simp only [Restriction.applyTerms, hentries, ih]
  have hset : restrictSet g' = restrictSet g := by
    funext terms state x
    simp only [restrictSet, Restriction.resolveSet, hterms]
  funext terms containers s
  simp only [restrict, hset]

/-- Graphs that say the same compile to the same service, apart from the texts of its metadata. -/
theorem Passed.of_saysTheSame (hp : Passed settings vocabulary m s g r d terms) (h : SaysTheSame g g') :
    Passed settings vocabulary m' s g' ⟨g', r.store, { r.model with metadata := m' }⟩ d terms where
  built := by
    rw [h.graph]
    exact hp.built
  loaded := hp.loaded
  restricted := by
    rw [restrict_of_annotationWith? h.annotationWith?, h.graph]
    exact hp.restricted
  clear := hp.clear
  model := by
    rw [hp.model, h.graph]
  graph := rfl

end Graphs

section Documents

variable {root bare root' : Element} {p : Place} {annotations : List Element}

/-- Two compiled services are the same, apart from the texts of their metadata and the order of their annotations. -/
structure SameService (r r' : Compiled) : Prop where
  graph : SaysTheSame r.graph r'.graph
  store : r'.store = r.store
  model : r'.model = { r.model with metadata := r'.model.metadata }

theorem SameService.surface {r r' : Compiled} (h : SameService r r') :
    Surface.ofModel r'.store r'.model = Surface.ofModel r.store r.model := by
  rw [h.store, h.model]
  rfl

/-- If one document compiles, another one that says the same compiles to the same service. -/
theorem compiled_of_roots {settings : Settings} {vocabulary : Option SourceFile}
    {metadata metadata' : Option (Table String String)} {s : Store} {r : Compiled}
    (hroot : documentRoot? settings metadata = some root) (hroot' : documentRoot? settings metadata' = some root')
    (hreads : (∃ g, readRoot root = .ok g) → ∃ g', readRoot root' = .ok g')
    (hsame : ∀ g g', readRoot root = .ok g → readRoot root' = .ok g' → SaysTheSame g g')
    (hr : compile settings vocabulary metadata s = .compiled r) :
    ∃ r', compile settings vocabulary metadata' s = .compiled r' ∧ SameService r r' := by
  obtain ⟨e, m, g, d, terms, he, -, hg, hp⟩ := compile_eq_compiled_iff_root.1 hr
  obtain rfl := Option.some.inj (he.symm.trans hroot)
  obtain ⟨g', hg'⟩ := hreads ⟨g, hg⟩
  obtain ⟨m', _, _, hm, -⟩ := documentRoot?_eq_some_iff.1 hroot'
  have h := hsame g g' hg hg'
  exact ⟨_, compile_eq_compiled_iff_root.2 ⟨root', m', g', d, terms, hroot', eq_some_of_documentOf hm, hg',
    hp.of_saysTheSame h⟩, hp.graph ▸ h, rfl, rfl⟩

/-- Annotations say the same in a block as where they stand. If those at a place of a document, the others being of
other places, are moved into a block with its path as target, the document is read if and only if it has been, with the
same schemas and the same annotations for every target, and it compiles to the same model and the same surface. -/
theorem compiled_of_relocated (hbare : DifferInSchema (BaresIn p annotations) root bare)
    (hblock : DifferInSchema (Blocks p.path annotations) bare root') (hp : p.IsPlain)
    (haliases : ∀ o, Csdl.outline root = .ok o → o.context.aliases.Spares p.space)
    (hother : ∀ g, readRoot bare = .ok g → g.recorded p.path = []) :
    ((∃ g, readRoot root = .ok g) ↔ ∃ g', readRoot root' = .ok g') ∧
      (∀ g g', readRoot root = .ok g → readRoot root' = .ok g' → SaysTheSame g g') ∧
      ∀ settings vocabulary metadata metadata' s,
        documentRoot? settings metadata = some root → documentRoot? settings metadata' = some root' →
          ((∃ r, compile settings vocabulary metadata s = .compiled r) ↔
              ∃ r', compile settings vocabulary metadata' s = .compiled r') ∧
            ∀ r r', compile settings vocabulary metadata s = .compiled r →
              compile settings vocabulary metadata' s = .compiled r' →
                SameService r r' ∧ Surface.ofModel r'.store r'.model = Surface.ofModel r.store r.model := by
  obtain ⟨hreads, hsame⟩ := Csdl.readRoot_of_relocated hbare hblock hp haliases hother
  refine ⟨hreads, hsame, ?_⟩
  intro settings vocabulary metadata metadata' s hroot hroot'
  refine ⟨⟨?_, ?_⟩, ?_⟩
  · rintro ⟨r, hr⟩
    obtain ⟨r', hr', -⟩ := compiled_of_roots hroot hroot' hreads.1 hsame hr
    exact ⟨r', hr'⟩
  · rintro ⟨r', hr'⟩
    obtain ⟨r, hr, -⟩ :=
      compiled_of_roots hroot' hroot hreads.2 (fun g' g hg' hg => (hsame g g' hg hg').symm) hr'
    exact ⟨r, hr⟩
  · intro r r' hr hr'
    obtain ⟨x, hx, hservice⟩ := compiled_of_roots hroot hroot' hreads.1 hsame hr
    obtain rfl := Attempt.compiled.inj (hx.symm.trans hr')
    exact ⟨hservice, hservice.surface⟩

/-- The document with the annotated type, its annotation in a block. -/
def blockDocument : String :=
  "<Schema Namespace='N'><EntityType Name='T'/><Annotations Target='N.T'><Annotation Term='N.A'/></Annotations>" ++
    "</Schema>"

/-- The root of the document. -/
def blockRoot : Element :=
  plainElement "" "Schema" [("Namespace", "N")] [plainElement "" "EntityType" [("Name", "T")] [],
    plainElement "" "Annotations" [("Target", "N.T")] [annotatingElement]]

set_option maxRecDepth 100000 in
/-- A type is annotated where it stands in one document and in a block in the other one. -/
theorem compiled_of_relocated_to_block :
    ∃ r r', compile {} none (some [("$metadata", annotatedDocument)]) {} = .compiled r ∧
      compile {} none (some [("$metadata", blockDocument)]) {} = .compiled r' ∧
      (r.graph.recorded "N.T").length = 1 ∧ SameService r r' := by
  let p : Place := ⟨"N", "T", none⟩
  have hroot' : documentRoot? {} (some [("$metadata", blockDocument)]) = some blockRoot := by
    decide +kernel
  have hbare : DifferInSchema (BaresIn p [annotatingElement]) (annotatedRoot [annotatingElement]) (annotatedRoot []) :=
    .alone rfl (.mk _ _ _ [] []
      (.own (e := plainElement "" "EntityType" [("Name", "T")] [annotatingElement]) (by decide)))
  have hblock : DifferInSchema (Blocks p.path [annotatingElement]) (annotatedRoot []) blockRoot :=
    .alone rfl (.added _ _ _ [_] [] rfl (by decide) (by decide) rfl)
  have haliases : ∀ o ∈ (Csdl.outline (annotatedRoot [annotatingElement])).toOption,
      o.context.aliases.Spares p.space := by
    decide +kernel
  have hother : ∀ g ∈ (readRoot (annotatedRoot [])).toOption, (g.recorded p.path).length = 0 := by
    decide +kernel
  have hfacts : ∃ g ∈ (readRoot (annotatedRoot [annotatingElement])).toOption,
      ∃ r ∈ (compileGraph {} none [("$metadata", annotatedDocument)] {} g).toOption,
        (r.graph.recorded "N.T").length = 1 := by
    decide +kernel
  obtain ⟨g, hg, r, hr, hlength⟩ := hfacts
  obtain ⟨d, terms, hpassed⟩ := compileGraph_eq_ok_iff.1 (toOption_eq_some_iff.1 hr)
  have hcompiled := compile_eq_compiled_iff_root.2
    ⟨_, _, g, d, terms, documentRoot?_annotatedDocument, rfl, toOption_eq_some_iff.1 hg, hpassed⟩
  obtain ⟨-, -, hcompile⟩ := compiled_of_relocated hbare hblock (by decide)
    (fun o ho => haliases o (toOption_eq_some_iff.2 ho))
    (fun g hg => List.length_eq_zero_iff.1 (hother g (toOption_eq_some_iff.2 hg)))
  obtain ⟨hiff, hsame⟩ := hcompile {} none _ _ {} documentRoot?_annotatedDocument hroot'
  obtain ⟨r', hcompiled'⟩ := hiff.1 ⟨r, hcompiled⟩
  exact ⟨r, r', hcompiled, hcompiled', hlength, (hsame r r' hcompiled hcompiled').1⟩

end Documents

end EntityModel.Compilation
