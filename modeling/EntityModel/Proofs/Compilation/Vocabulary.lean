import EntityModel.Compilation.Attempt
import EntityModel.Proofs.Csdl.Encoding
import EntityModel.Proofs.Csdl.Pruning
import EntityModel.Proofs.Csdl.Spelling
import EntityModel.Proofs.Restriction.Terms

/-!
# Vocabularies

Of a vocabulary, a compilation uses only the terms for the kinds of capabilities, and of these only their names
(`compile_of_loadTerms`). A term is looked for in the vocabulary by its full name, among the annotations by its namespace
and its name. As long as no term has a dot in its name these two come to the same, so that every vocabulary that is
accepted has the same effect as the one of the installation.
-/

namespace EntityModel.Compilation

open CodeModel
open Csdl (plainElement readRoot)
open Edm (Graph)
open Restriction (loadTerms loadTerms_of_loadCapabilities termNames termName entriesOf readStatement HasPlainTerms)

section Vocabularies

/-- All that a compilation takes from a vocabulary are the terms that are loaded from it. -/
theorem compile_of_loadTerms {settings : Settings} {metadata : Option (Table String String)} {s : Store}
    {vocabulary vocabulary' : Option SourceFile} (h : loadTerms vocabulary = loadTerms vocabulary') :
    compile settings vocabulary metadata s = compile settings vocabulary' metadata s := by
  unfold compile compileDocument compileGraph
  rw [h]

/-- A vocabulary that is accepted and has no dots in the names of its terms makes every compilation end as the vocabulary
of the installation does. For each kind, it finds on an entity set the first annotation with the full name of the term,
and enters what this says under the kind. -/
theorem compile_of_plainTerms {file : SourceFile} {vocabulary : Graph}
    (hload : Vocabulary.loadCapabilities (some file) termNames = .ok vocabulary) (hplain : HasPlainTerms vocabulary) :
    (∀ settings metadata s, compile settings (some file) metadata s = compile settings none metadata s) ∧
      ∃ terms, loadTerms (some file) = .ok terms ∧ terms.map (·.1) = CapabilityKind.all ∧
        ∀ u ∈ terms, ∀ (g : Graph) s p t set, entriesOf g s p t set u =
          match (g.annotationsOf set.targetPath).find? (fun a => a.term = termName u.1) with
          | none => .ok []
          | some a => (readStatement s t a).map fun x => x.entries u.1 p := by
  have hterms := loadTerms_of_loadCapabilities hload
  refine ⟨fun settings metadata s => compile_of_loadTerms ?_, _, hterms,
    (Restriction.terms_of_loadTerms hterms).1, fun u hu g s p t set => ?_⟩
  · exact (hplain.loadTerms_eq hload).trans (Restriction.hasPlainTerms_installed.loadTerms_eq rfl).symm
  · have hfirst := hplain.annotationWith?_eq hload hu g set.targetPath
    cases hfound : (g.annotationsOf set.targetPath).find? fun a => a.term = termName u.1 with
    | none => rw [entriesOf, hfirst, hfound]
    | some a => rw [entriesOf, hfirst, hfound]

/-- A vocabulary with the four terms and nothing else. -/
def leanVocabulary : SourceFile :=
  { name := "lean.xml",
    content := .bytes (("<Schema Namespace='Org.OData.Capabilities.V1'><Term Name='ExpandRestrictions'/>" ++
      "<Term Name='InsertRestrictions'/><Term Name='UpdateRestrictions'/><Term Name='DeleteRestrictions'/>" ++
      "</Schema>").toList.map fun c => c.toNat.toUInt8) }

/-- The root of the vocabulary. -/
def leanRoot : Xml.Element :=
  plainElement "" "Schema" [("Namespace", "Org.OData.Capabilities.V1")]
    (["ExpandRestrictions", "InsertRestrictions", "UpdateRestrictions", "DeleteRestrictions"].map fun name =>
      plainElement "" "Term" [("Name", name)] [])

set_option maxRecDepth 100000 in
theorem readFile_leanVocabulary : Vocabulary.readFile leanVocabulary =
    (readRoot leanRoot).mapError (Mishap.map (.vocabularyUnusable "lean.xml")) := by
  rw [Vocabulary.readFile, leanVocabulary]
  dsimp only
  rw [String.toList_append, String.toList_append, String.toList_ofList, String.toList_ofList, String.toList_ofList,
    ← Text.flatMap_utf8EncodeChar (by decide)]
  exact congrArg _ (Csdl.readDocument_of_tag (by decide) (by decide +kernel))

/-- The four terms are enough for a vocabulary. -/
theorem compile_of_leanVocabulary :
    ∃ v, Vocabulary.loadCapabilities (some leanVocabulary) termNames = .ok v ∧ HasPlainTerms v ∧
      ∀ settings metadata s, compile settings (some leanVocabulary) metadata s = compile settings none metadata s := by
  have hfacts : ∃ v ∈ (readRoot leanRoot).toOption, HasPlainTerms v ∧ Vocabulary.missingTerms v termNames = [] := by
    decide +kernel
  obtain ⟨v, hv, hplain, hmissing⟩ := hfacts
  have hload : Vocabulary.loadCapabilities (some leanVocabulary) termNames = .ok v := by
    rw [Vocabulary.loadCapabilities, Vocabulary.load, readFile_leanVocabulary, toOption_eq_some_iff.1 hv]
    exact if_pos (List.isEmpty_iff.2 hmissing)
  exact ⟨v, hload, hplain, (compile_of_plainTerms hload hplain).1⟩

end Vocabularies

end EntityModel.Compilation
