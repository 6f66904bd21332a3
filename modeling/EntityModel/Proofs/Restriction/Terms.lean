import EntityModel.Proofs.Outcome
import EntityModel.Restriction.Ledger

/-!
# The terms of a vocabulary

A vocabulary is accepted only if it defines a term for each kind, and what is loaded from it are the names of these
terms (`terms_of_loadTerms`). An annotation is taken for a restriction of a kind if its term falls into the
same namespace and name. Such an annotation has exactly the full name of the term that restricts the kind
(`term_of_annotationWith?`), whatever the vocabulary calls its namespaces. If no term has a dot in its name, the
converse holds too, and the vocabulary has the same terms as any other one of the kind (`HasPlainTerms.loadTerms_eq`).
-/

namespace EntityModel.Restriction

open CodeModel
open Edm (Graph Annotation)

/-! ## Terms that are loaded -/

theorem missingTerms_of_loadCapabilities {file : Option SourceFile} {needed : List String} {vocabulary : Graph}
    (h : Vocabulary.loadCapabilities file needed = .ok vocabulary) :
    Vocabulary.missingTerms vocabulary needed = [] := by
  have hrequired : ∀ {g name}, Vocabulary.requireTerms g name needed = .ok vocabulary →
      Vocabulary.missingTerms vocabulary needed = [] := by
    intro g name hg
    rw [Vocabulary.requireTerms] at hg
    split at hg
    · next hnone =>
        obtain rfl := Except.ok.inj hg
        exact List.isEmpty_iff.1 hnone
    · cases hg
  cases file with
  | none => exact hrequired h
  | some file =>
      obtain ⟨g, -, hg⟩ := bind_eq_ok_iff.1 h
      exact hrequired hg

theorem loadTerms_of_loadCapabilities {file : Option SourceFile} {vocabulary : Graph}
    (h : Vocabulary.loadCapabilities file termNames = .ok vocabulary) : loadTerms file = .ok (termsOf vocabulary) := by
  rw [loadTerms, h]
  rfl

/-- The terms of a vocabulary that is loaded are those of all kinds, in their order. -/
theorem terms_of_loadTerms {file : Option SourceFile} {terms : Terms} (h : loadTerms file = .ok terms) :
    terms.map (·.1) = CapabilityKind.all ∧ ∀ u ∈ terms, u.2.dotted = termName u.1 := by
  obtain ⟨vocabulary, hload, rfl⟩ := map_eq_ok_iff.1 h
  have hmissing : Vocabulary.missingTerms vocabulary termNames = [] := missingTerms_of_loadCapabilities hload
  have hall : ∀ k : CapabilityKind, ∃ t, vocabulary.term? (termName k) = some t := by
    intro k
    have hk := List.filter_eq_nil_iff.1 hmissing (termName k) (List.mem_map_of_mem k.mem_all)
    simpa [Option.ne_none_iff_exists'] using hk
  constructor
  · have hkinds : ∀ ks : List CapabilityKind, (ks.filterMap fun k =>
        (vocabulary.term? (termName k)).map fun t => (k, t.name)).map (·.1) = ks := by
      intro ks
      induction ks with
      | nil => rfl
      | cons k ks ih =>
          obtain ⟨t, ht⟩ := hall k
          rw [List.filterMap_cons, ht, Option.map_some, List.map_cons, ih]
    exact hkinds _
  · intro u hu
    obtain ⟨k, -, hk⟩ := List.mem_filterMap.1 hu
    obtain ⟨t, ht, rfl⟩ := Option.map_eq_some_iff.1 hk
    simpa using List.find?_some ht

/-- What is loaded breaks off for an unforeseen cause exactly if the document in the file of the vocabulary does. -/
theorem loadTerms_eq_unforeseen_iff {vocabulary : Option SourceFile} {cause : Unforeseen} :
    loadTerms vocabulary = .error (.unforeseen cause) ↔ ∃ file ∈ vocabulary, ∃ content,
      file.content = .bytes content ∧ Csdl.readDocument content = .error (.unforeseen cause) := by
  have hrequired : ∀ g name, Vocabulary.requireTerms g name termNames ≠ .error (.unforeseen cause) := by
    intro g name h
    rw [Vocabulary.requireTerms] at h
    split at h <;> cases h
  rw [loadTerms, map_eq_error_iff]
  cases vocabulary with
  | none => exact iff_of_false (hrequired Vocabulary.Capabilities.graph Vocabulary.bundledName) (by simp)
  | some file =>
      have hread : Vocabulary.readFile file = .error (.unforeseen cause) ↔ ∃ content,
          file.content = .bytes content ∧ Csdl.readDocument content = .error (.unforeseen cause) := by
        rw [Vocabulary.readFile]
        cases file.content with
        | missing => simp
        | unreachable => simp
        | directory => simp
        | bytes content =>
            dsimp only
            rw [mapError_eq_error_iff]
            constructor
            · rintro ⟨mishap, hmishap, h⟩
              cases mishap with
              | foreseen fault => cases h
              | unforeseen cause' =>
                  cases h
                  exact ⟨content, rfl, hmishap⟩
            · rintro ⟨_, ⟨⟩, h⟩
              exact ⟨_, h, rfl⟩
      rw [Vocabulary.loadCapabilities, Vocabulary.load, bind_eq_error_iff]
      simp [hread, hrequired]

/-! ## Annotations that match -/

section Matching

variable {vocabulary : Option SourceFile} {terms : Terms} {g : Graph} {target : String} {a : Annotation}
variable {u : CapabilityKind × QualifiedName}

theorem termName_ne_dot (kind : CapabilityKind) : (termName kind).toList.head? ≠ some '.' := by
  cases kind <;> decide

/-- An annotation whose term falls into the namespace and the name of the term for a kind has the full name of the
term that restricts the kind. -/
theorem term_of_termName (hload : loadTerms vocabulary = .ok terms) (hu : u ∈ terms)
    (hname : a.termName = u.2) : a.term = termName u.1 := by
  have hdotted : u.2.dotted = termName u.1 := (terms_of_loadTerms hload).2 u hu
  -- A name without a namespace would make the full name begin with a dot.
  have hspace : u.2.space ≠ "" := by
    intro hempty
    refine termName_ne_dot u.1 ?_
    rw [← hdotted, QualifiedName.dotted, hempty]
    simp
  rw [ Annotation.termName] at hname
  rcases QualifiedName.full_ofText a.term with hfull | ⟨hempty, -⟩
  · rw [← hfull, hname, QualifiedName.full_of_space_ne hspace, hdotted]
  · rw [hname] at hempty
    exact absurd hempty hspace

theorem term_of_annotationWith? (hload : loadTerms vocabulary = .ok terms) (hu : u ∈ terms)
    (ha : g.annotationWith? target u.2 = some a) : a.term = termName u.1 := by
  rw [Graph.annotationWith?] at ha
  exact term_of_termName hload hu (by simpa using List.find?_some ha)

end Matching

/-! ## Plain terms -/

section Plain

variable {file : Option SourceFile} {vocabulary : Graph}

/-- No term of a vocabulary has a dot in its name. -/
def HasPlainTerms (vocabulary : Graph) : Prop :=
  ∀ t ∈ vocabulary.schemas.flatMap (·.terms), '.' ∉ t.name.name.toList

instance : DecidablePred HasPlainTerms :=
  fun vocabulary => inferInstanceAs (Decidable (∀ t ∈ vocabulary.schemas.flatMap (·.terms), '.' ∉ t.name.name.toList))

/-- A term without a dot in its name is the one that its full name is cut into. -/
theorem HasPlainTerms.eq_ofText (h : HasPlainTerms vocabulary) {u : CapabilityKind × QualifiedName}
    (hu : u ∈ termsOf vocabulary) : u.2 = .ofText (termName u.1) := by
  obtain ⟨kind, -, hkind⟩ := List.mem_filterMap.1 hu
  obtain ⟨t, ht, rfl⟩ := Option.map_eq_some_iff.1 hkind
  have hdotted : t.name.dotted = termName kind := by simpa using List.find?_some ht
  rw [← hdotted, QualifiedName.ofText_dotted (h t (List.mem_of_find?_eq_some ht))]

/-- All vocabularies whose terms have no dots in their names have the same terms for the kinds. -/
theorem HasPlainTerms.loadTerms_eq (h : HasPlainTerms vocabulary)
    (hload : Vocabulary.loadCapabilities file termNames = .ok vocabulary) :
    loadTerms file = .ok (CapabilityKind.all.map fun kind => (kind, .ofText (termName kind))) := by
  have hterms := loadTerms_of_loadCapabilities hload
  have hkinds := (terms_of_loadTerms hterms).1
  rw [hterms, ← hkinds, List.map_map]
  have hsame : (termsOf vocabulary).map (fun u => (u.1, QualifiedName.ofText (termName u.1))) =
      (termsOf vocabulary).map id :=
    List.map_congr_left fun u hu => Prod.ext rfl (h.eq_ofText hu).symm
  rw [List.map_id] at hsame
  exact congrArg Except.ok hsame.symm

theorem hasPlainTerms_installed : HasPlainTerms Vocabulary.Capabilities.graph := by
  decide

/-- A plain term is found on the annotations that have its full name, and on no others. -/
theorem HasPlainTerms.annotationWith?_eq (h : HasPlainTerms vocabulary)
    (hload : Vocabulary.loadCapabilities file termNames = .ok vocabulary) {u : CapabilityKind × QualifiedName}
    (hu : u ∈ termsOf vocabulary) (g : Graph) (target : String) :
    g.annotationWith? target u.2 = (g.annotationsOf target).find? fun a => a.term = termName u.1 := by
  have hterms := loadTerms_of_loadCapabilities hload
  have hname : ∀ a : Annotation, a.termName = u.2 ↔ a.term = termName u.1 := by
    intro a
    constructor
    · exact term_of_termName hterms hu
    · intro ha
      rw [h.eq_ofText hu, Annotation.termName, ha]
  rw [Graph.annotationWith?]
  simp only [hname]

end Plain

end EntityModel.Restriction
