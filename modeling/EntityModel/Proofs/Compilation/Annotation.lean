import EntityModel.Proofs.Compilation.Signature
import EntityModel.Proofs.Csdl.Pruning
import EntityModel.Proofs.Csdl.Spelling
import EntityModel.Proofs.Restriction.Assembly
import EntityModel.Proofs.Surface.Reprojection

/-!
# What annotations say

Annotations say something about projections and about nothing else. A draft is built from the schemas alone, and the
restrictions are what annotations are looked up for. So two documents that are the same without annotations, if both
compile, have the same model and stores that differ in projections only. The clients get to see the same outline
(`differ_in_annotations`).
-/

namespace EntityModel.Compilation

open CodeModel
open Csdl (plainElement pruned readRoot)
open Edm (Graph Annotation)
open Restriction (Ledger Terms)
open Xml (Element)

section Compilations

variable {settings : Settings} {vocabulary : Option SourceFile} {m m' : Table String String} {s : Store}
variable {g g' : Graph} {r r' : Compiled} {d d' : Draft} {terms terms' : Terms} {t : TypeId}

/-- No annotation is looked at while a draft is built. -/
theorem build_annotations (annotations : List (String × Annotation)) : build { g with annotations } = build g := rfl

/-- The projections of the root are of the types of its properties. -/
theorem Passed.projectsTypes (h : Passed settings vocabulary m s g r d terms)
    (hroot : r.model.root? r.store = .ok (some t)) : r.store.ProjectsTypes t := by
  obtain ⟨-, x, hx⟩ := h.exists_container hroot
  obtain ⟨ls, -, hstore⟩ := Restriction.restrict_eq_ok_iff.1 h.restricted
  intro y hy
  rw [hstore, Restriction.declared_materialize, List.map_map] at hy
  obtain ⟨e, he, rfl⟩ := List.mem_map.1 hy
  have hnone : e.2.assigned = none := (build_post h.built).2.assigned (placed_of_containersOf hx) he
  simp only [Function.comp_apply, Ledger.projected]
  split
  · rw [Property.projection, hnone]
    rfl
  · rfl

/-- Two compilations of graphs that differ in annotations have the same draft. -/
theorem Passed.reprojects (h : Passed settings vocabulary m s g r d terms)
    (h' : Passed settings vocabulary m' s g' r' d' terms') (hg : g' = { g with annotations := g'.annotations }) :
    r'.model = { r.model with metadata := r'.model.metadata } ∧ r.store.Reprojects (fun _ _ => True) r'.store := by
  have hbuilt := h'.built
  rw [hg, build_annotations, h.built] at hbuilt
  obtain ⟨-, rfl⟩ := Prod.mk.inj (Except.ok.inj hbuilt)
  constructor
  · rw [h.model, h'.model, hg]
  · obtain ⟨ls, -, hstore⟩ := Restriction.restrict_eq_ok_iff.1 h.restricted
    obtain ⟨ls', -, hstore'⟩ := Restriction.restrict_eq_ok_iff.1 h'.restricted
    rw [hstore, hstore']
    exact Ledger.reprojects_materialize fun _ _ => trivial

end Compilations

/-- Documents that are the same without annotations differ in annotations only: if both are read, in those of their
graphs, and if both are compiled, in the projections of properties. So their surfaces have the same outline. -/
theorem differ_in_annotations {root root' : Element} (hpruned : pruned root = pruned root') :
    (∀ g g', readRoot root = .ok g → readRoot root' = .ok g' → g' = { g with annotations := g'.annotations }) ∧
      ∀ settings vocabulary metadata metadata' s r r',
        documentRoot? settings metadata = some root → documentRoot? settings metadata' = some root' →
        compile settings vocabulary metadata s = .compiled r → compile settings vocabulary metadata' s = .compiled r' →
          r'.graph = { r.graph with annotations := r'.graph.annotations } ∧
          r'.model = { r.model with metadata := r'.model.metadata } ∧
          r.store.Reprojects (fun _ _ => True) r'.store ∧
          r'.model.root? r'.store = r.model.root? r.store ∧
          (Surface.ofModel r'.store r'.model).map (·.outline) = (Surface.ofModel r.store r.model).map (·.outline) := by
  have hgraphs : ∀ g g', readRoot root = .ok g → readRoot root' = .ok g' →
      g' = { g with annotations := g'.annotations } :=
    fun _ _ hg hg' => Csdl.readRoot_of_pruned_eq hpruned hg hg'
  refine ⟨hgraphs, ?_⟩
  intro settings vocabulary metadata metadata' s r r' hroot hroot' hcompiled hcompiled'
  obtain ⟨e, m, g, d, terms, he, -, hg, h⟩ := compile_eq_compiled_iff_root.1 hcompiled
  obtain ⟨e', m', g', d', terms', he', -, hg', h'⟩ := compile_eq_compiled_iff_root.1 hcompiled'
  obtain rfl := Option.some.inj (he.symm.trans hroot)
  obtain rfl := Option.some.inj (he'.symm.trans hroot')
  have hgraph := hgraphs g g' hg hg'
  obtain ⟨hmodel, hstores⟩ := h.reprojects h' hgraph
  have hroots : r'.model.root? r'.store = r.model.root? r.store := by
    rw [Model.root?_of_types hstores.types, hmodel]
    rfl
  have houtline : (Surface.ofModel r'.store r'.model).map (·.outline) =
      (Surface.ofModel r.store r'.model).map (·.outline) := by
    refine hstores.outline_ofModel fun t ht => ⟨h.projectsTypes ?_, h'.projectsTypes ?_⟩
    · rw [← hroots, Model.root?_of_types hstores.types, ht]
    · rw [Model.root?_of_types hstores.types, ht]
  refine ⟨by rw [h.graph, h'.graph]; exact hgraph, hmodel, hstores, hroots, houtline.trans ?_⟩
  rw [hmodel]
  rfl

/-- A document with a type that is annotated. -/
def annotatedDocument : String :=
  "<Schema Namespace='N'><EntityType Name='T'><Annotation Term='N.A'/></EntityType></Schema>"

/-- The root of the document, with some annotations of the type. -/
def annotatedRoot (annotations : List Element) : Element :=
  plainElement "" "Schema" [("Namespace", "N")] [plainElement "" "EntityType" [("Name", "T")] annotations]

/-- The annotation of the type. -/
def annotatingElement : Element := plainElement "" "Annotation" [("Term", "N.A")] []

/-- The document without its annotations. -/
def bareDocument : String := "<Schema Namespace='N'><EntityType Name='T'/></Schema>"

set_option maxRecDepth 100000 in
theorem documentRoot?_annotatedDocument :
    documentRoot? {} (some [("$metadata", annotatedDocument)]) = some (annotatedRoot [annotatingElement]) := by
  decide +kernel

set_option maxRecDepth 100000 in
/-- Both documents compile, with graphs that are not the same and surfaces that have the same outline. -/
theorem differ_in_annotations_of_annotated :
    ∃ root root' r r', documentRoot? {} (some [("$metadata", annotatedDocument)]) = some root ∧
      documentRoot? {} (some [("$metadata", bareDocument)]) = some root' ∧ pruned root = pruned root' ∧
      compile {} none (some [("$metadata", annotatedDocument)]) {} = .compiled r ∧
      compile {} none (some [("$metadata", bareDocument)]) {} = .compiled r' ∧
      r.graph.annotations.length = 1 ∧ r'.graph.annotations.length = 0 ∧
      (Surface.ofModel r'.store r'.model).map (·.outline) = (Surface.ofModel r.store r.model).map (·.outline) := by
  have hroot := documentRoot?_annotatedDocument
  have hroot' : documentRoot? {} (some [("$metadata", bareDocument)]) = some (annotatedRoot []) := by
    decide +kernel
  have hpruned : pruned (annotatedRoot [annotatingElement]) = pruned (annotatedRoot []) := by
    decide
  have hfacts : ∃ g ∈ (readRoot (annotatedRoot [annotatingElement])).toOption,
      ∃ r ∈ (compileGraph {} none [("$metadata", annotatedDocument)] {} g).toOption,
        r.graph.annotations.length = 1 := by
    decide +kernel
  have hfacts' : ∃ g ∈ (readRoot (annotatedRoot [])).toOption,
      ∃ r ∈ (compileGraph {} none [("$metadata", bareDocument)] {} g).toOption, r.graph.annotations.length = 0 := by
    decide +kernel
  obtain ⟨g, hg, r, hr, hlength⟩ := hfacts
  obtain ⟨g', hg', r', hr', hlength'⟩ := hfacts'
  obtain ⟨d, terms, hpassed⟩ := compileGraph_eq_ok_iff.1 (toOption_eq_some_iff.1 hr)
  obtain ⟨d', terms', hpassed'⟩ := compileGraph_eq_ok_iff.1 (toOption_eq_some_iff.1 hr')
  have hcompiled := compile_eq_compiled_iff_root.2 ⟨_, _, g, d, terms, hroot, rfl, toOption_eq_some_iff.1 hg, hpassed⟩
  have hcompiled' :=
    compile_eq_compiled_iff_root.2 ⟨_, _, g', d', terms', hroot', rfl, toOption_eq_some_iff.1 hg', hpassed'⟩
  obtain ⟨-, -, -, -, houtline⟩ :=
    (differ_in_annotations hpruned).2 _ _ _ _ _ r r' hroot hroot' hcompiled hcompiled'
  exact ⟨_, _, r, r', hroot, hroot', hpruned, hcompiled, hcompiled', hlength, hlength', houtline⟩

end EntityModel.Compilation
