import EntityModel.Proofs.Compilation.Service
import EntityModel.Proofs.Counters.Request
import EntityModel.Proofs.Csdl.Stray
import EntityModel.Proofs.Restriction.Assembly
import EntityModel.Proofs.Restriction.Terms

/-!
# How compilations end

An attempt for which there is a document ends with a model or with a failure, and is counted once, unless it breaks
off for an unforeseen cause. The lookups on the way never break off: the class of a container has a property for each
of its entity sets when their turn comes, and an annotation that is found bears a term that restricts a kind
(`LookupsSucceed`). No literal breaks off an attempt either, apart from the name of an element around the schemas,
in the document itself or in that of a vocabulary. So an attempt is counted exactly if there is no such name
(`isCounted_compile_iff`).
-/

namespace EntityModel

/-! ## Counters of compilations -/

section Counters

/-- The number of compilations that have been counted for one of the two outcomes. -/
def Counters.compilations (succeeded : Bool) (c : Counters) : Int :=
  Table.count c.named (if succeeded then "compilations_ok" else "compilations_failed")

/-- Counting a compilation adds one for its outcome and nothing for the other. -/
theorem Counters.compilations_countCompilation (succeeded : Bool) (c : Counters) :
    (c.countCompilation succeeded).compilations succeeded = c.compilations succeeded + 1 ∧
      (c.countCompilation succeeded).compilations (!succeeded) = c.compilations (!succeeded) := by
  cases succeeded with
  | true => exact ⟨Table.count_bump_self, Table.count_bump_of_ne (by decide)⟩
  | false => exact ⟨Table.count_bump_self, Table.count_bump_of_ne (by decide)⟩

end Counters

/-- A mishap stays unforeseen, whatever its foreseen causes are seen as. -/
theorem Mishap.map_eq_unforeseen_iff {φ ψ : Type} {f : φ → ψ} {x : Mishap φ} {cause : Unforeseen} :
    x.map f = .unforeseen cause ↔ x = .unforeseen cause := by
  cases x with
  | foreseen fault => simp [Mishap.map]
  | unforeseen cause' => simp [Mishap.map]

theorem mapError_map_eq_unforeseen_iff {φ ψ α : Type} {f : φ → ψ} {x : Except (Mishap φ) α} {cause : Unforeseen} :
    x.mapError (Mishap.map f) = .error (.unforeseen cause) ↔ x = .error (.unforeseen cause) := by
  rw [mapError_eq_error_iff]
  simp only [Mishap.map_eq_unforeseen_iff, exists_eq_right]

namespace Compilation

open CodeModel
open Csdl (StraysAround readText readDocument)
open Edm (Graph Container ContainerMember)
open Restriction (Terms Ledger loadTerms termName)

/-! ## Lookups -/

/-- What is looked up while the entity sets are resolved is there. -/
structure LookupsSucceed (g : Graph) (terms : Terms) (containers : List (Container × TypeId)) (s : Store) : Prop where
  /-- Each entity set has a property in the class of its container when its turn comes. -/
  property : ∀ pre x post, containerSets containers = pre ++ x :: post →
    ∀ state, pre.foldlM (restrictSet g terms) ([], s) = .ok state → ∃ p, state.2.ownProperty? x.1 x.2.name = some p
  /-- An annotation that is found for an entity set bears the term that restricts the kind. -/
  kind : ∀ x ∈ containerSets containers, ∀ u ∈ terms, ∀ a, g.annotationWith? x.2.targetPath u.2 = some a →
    a.term = termName u.1

section Lookups

variable {g : Graph} {s : Store} {d : Draft} {vocabulary : Option SourceFile} {terms : Terms}

/-- The class of a container has a property for each of its entity sets. -/
theorem Built.exists_ownProperty (hb : Built g s d) {x : TypeId × ContainerMember}
    (hx : x ∈ containerSets (containersOf (placed g s.types.length))) :
    ∃ p, d.store.ownProperty? x.1 x.2.name = some p := by
  obtain ⟨⟨c, t⟩, hc, hx⟩ := List.mem_flatMap.1 hx
  obtain ⟨set, hset, rfl⟩ := List.mem_map.1 hx
  obtain ⟨k, hk⟩ := hb.shows (placed_of_containersOf hc)
  have hmember : Member.offered true set ∈ (Declaration.container c).members :=
    List.mem_append_left _ (List.mem_map_of_mem hset)
  obtain ⟨y, hy, z, rfl, u, -, rfl⟩ := Alignment.exists_of_mem_left hk.properties hmember
  obtain ⟨p, hp, hpy⟩ := List.mem_map.1 hy
  refine Option.isSome_iff_exists.1 (List.find?_isSome.2 ⟨p, hp, ?_⟩)
  simp [hpy, owned]

/-- In a draft that has been built, with terms that have been loaded, all lookups succeed. -/
theorem lookupsSucceed_of_built (hb : Built g s d) (hload : loadTerms vocabulary = .ok terms) :
    LookupsSucceed g terms (containersOf (placed g s.types.length)) d.store where
  property pre x post hsplit state hstate := by
    -- The sets before this one have changed projections, and nothing that the lookup sees.
    rw [← Restriction.Ledger.materialize_nil (s := d.store)] at hstate
    obtain ⟨ls, -, rfl⟩ := Restriction.foldlM_restrictSet_eq_ok_iff.1 hstate
    obtain ⟨p, hp⟩ := hb.exists_ownProperty (x := x) (by simp [hsplit])
    rw [Restriction.ownProperty?_materialize, hp]
    exact ⟨_, rfl⟩
  kind _ _ _ hu _ ha := Restriction.term_of_annotationWith? hload hu ha

end Lookups

/-! ## Attempts that break off -/

section Breaks

variable {settings : Settings} {vocabulary : Option SourceFile} {m : Table String String} {s : Store}
variable {document : String} {bytes : List UInt8} {cause : Unforeseen} {g : Graph}

/-- Compiling a graph breaks off exactly if the graph is built and then reading the vocabulary breaks off. -/
theorem compileGraph_eq_unforeseen_iff :
    compileGraph settings vocabulary m s g = .error (.unforeseen cause) ↔
      (∃ built, build g { store := s } = .ok built) ∧ loadTerms vocabulary = .error (.unforeseen cause) := by
  have hforeseen : ∀ {α : Type} {x : Except Failure α}, x.mapError Mishap.foreseen ≠ .error (.unforeseen cause) := by
    intro α x h
    obtain ⟨_, -, hcause⟩ := mapError_eq_error_iff.1 h
    cases hcause
  rw [compileGraph, bind_eq_error_iff]
  constructor
  · rintro (h | ⟨built, hbuilt, h⟩)
    · exact absurd h hforeseen
    · refine ⟨⟨built, mapError_eq_ok_iff.1 hbuilt⟩, ?_⟩
      rcases bind_eq_error_iff.1 h with h | ⟨terms, -, h⟩
      · exact mapError_map_eq_unforeseen_iff.1 h
      · rcases bind_eq_error_iff.1 h with h | ⟨store, -, h⟩
        · exact absurd h hforeseen
        · rcases bind_eq_error_iff.1 h with h | ⟨root, -, h⟩
          · exact absurd h hforeseen
          · cases h
  · rintro ⟨⟨built, hbuilt⟩, hload⟩
    exact .inr ⟨built, mapError_eq_ok_iff.2 hbuilt, bind_eq_error_iff.2 (.inl (mapError_map_eq_unforeseen_iff.2 hload))⟩

/-- A document or the vocabulary has a name around its schemas that is none. The vocabulary is not looked at before
the graph of the document has been built. -/
def BreaksOff (vocabulary : Option SourceFile) (s : Store) (bytes : List UInt8) : Prop :=
  StraysAround bytes ∨ ∃ g built, readDocument bytes = .ok g ∧ build g { store := s } = .ok built ∧
    ∃ file ∈ vocabulary, ∃ content, file.content = .bytes content ∧ StraysAround content

theorem compileDocument_eq_unforeseen_iff (hbytes : Text.utf8? document = some bytes) :
    compileDocument settings vocabulary m s document = .error (.unforeseen cause) ↔
      readDocument bytes = .error (.unforeseen cause) ∨
        ∃ g built, readDocument bytes = .ok g ∧ build g { store := s } = .ok built ∧
          loadTerms vocabulary = .error (.unforeseen cause) := by
  have hread : readText document = readDocument bytes := by rw [readText, hbytes]
  rw [compileDocument, hread, bind_eq_error_iff, mapError_map_eq_unforeseen_iff]
  simp only [mapError_eq_ok_iff, compileGraph_eq_unforeseen_iff, exists_and_left, exists_and_right]

/-- Some cause breaks off the compilation of a document exactly if a name is in the way. -/
theorem exists_compileDocument_unforeseen_iff (hbytes : Text.utf8? document = some bytes) :
    (∃ cause, compileDocument settings vocabulary m s document = .error (.unforeseen cause)) ↔
      BreaksOff vocabulary s bytes := by
  have hload : (∃ cause, loadTerms vocabulary = .error (.unforeseen cause)) ↔
      ∃ file ∈ vocabulary, ∃ content, file.content = .bytes content ∧ StraysAround content := by
    simp only [Restriction.loadTerms_eq_unforeseen_iff, ← Csdl.exists_unforeseen_iff]
    constructor
    · rintro ⟨cause, file, hfile, content, hcontent, h⟩
      exact ⟨file, hfile, content, hcontent, cause, h⟩
    · rintro ⟨file, hfile, content, hcontent, cause, h⟩
      exact ⟨cause, file, hfile, content, hcontent, h⟩
  simp only [compileDocument_eq_unforeseen_iff hbytes, exists_or, Csdl.exists_unforeseen_iff, BreaksOff, ← hload]
  refine or_congr_right ⟨?_, ?_⟩
  · rintro ⟨cause, g, built, hread, hbuilt, h⟩
    exact ⟨g, built, hread, hbuilt, cause, h⟩
  · rintro ⟨g, built, hread, hbuilt, cause, h⟩
    exact ⟨cause, g, built, hread, hbuilt, h⟩

/-- What breaks off the compilation of a document is the name of an element. -/
theorem cause_of_compileDocument (hbytes : Text.utf8? document = some bytes)
    (h : compileDocument settings vocabulary m s document = .error (.unforeseen cause)) :
    ∃ text, cause = .literal (.elementName text) := by
  rcases (compileDocument_eq_unforeseen_iff hbytes).1 h with hread | ⟨-, -, -, -, hload⟩
  · exact Csdl.cause_of_readDocument hread
  · obtain ⟨_, -, _, -, hread⟩ := Restriction.loadTerms_eq_unforeseen_iff.1 hload
    exact Csdl.cause_of_readDocument hread

end Breaks

/-! ## Attempts that are counted -/

namespace Attempt

/-- An attempt adds one to the counter of an outcome, and nothing to the other one. -/
def Counts (a : Attempt) (succeeded : Bool) : Prop :=
  ∀ c : Counters, (a.count c).compilations succeeded = c.compilations succeeded + 1 ∧
    (a.count c).compilations (!succeeded) = c.compilations (!succeeded)

/-- Either there is a model and the attempt counts as a success, or there is a failure and it counts as one. -/
def IsCounted (a : Attempt) : Prop :=
  Xor ((∃ r, a = .compiled r) ∧ a.Counts true) ((∃ f, a = .failed f) ∧ a.Counts false)

/-- The unforeseen cause for which an attempt has broken off. -/
def cause? : Attempt → Option Unforeseen
  | broken cause => some cause
  | _ => none

theorem cause?_eq_some_iff {a : Attempt} {cause : Unforeseen} : a.cause? = some cause ↔ a = .broken cause := by
  cases a with
  | broken cause' => simp [cause?]
  | refused f => simp [cause?]
  | failed f => simp [cause?]
  | compiled r => simp [cause?]

/-- An attempt that has begun is counted unless it breaks off. -/
theorem isCounted_iff {a : Attempt} (hbegun : ∀ f, a ≠ .refused f) : a.IsCounted ↔ ∀ cause, a ≠ .broken cause := by
  cases a with
  | refused f => exact absurd rfl (hbegun f)
  | broken cause => simp [IsCounted, Xor]
  | failed f =>
      refine iff_of_true (.inr ⟨⟨⟨f, rfl⟩, fun c => c.compilations_countCompilation false⟩, ?_⟩) (by simp)
      rintro ⟨⟨r, hr⟩, -⟩
      cases hr
  | compiled r =>
      refine iff_of_true (.inl ⟨⟨⟨r, rfl⟩, fun c => c.compilations_countCompilation true⟩, ?_⟩) (by simp)
      rintro ⟨⟨f, hf⟩, -⟩
      cases hf

end Attempt

section Endings

variable {settings : Settings} {vocabulary : Option SourceFile} {m : Table String String} {s : Store}
variable {document : String} {cause : Unforeseen}

theorem documentOf_of_lookup (h : m.lookup settings.metadataKey = some document) :
    documentOf settings (some m) = .ok (m, document) := by
  simp [documentOf, h]

/-- An attempt with a document has begun. -/
theorem compile_ne_refused (h : m.lookup settings.metadataKey = some document) (f : Failure) :
    compile settings vocabulary (some m) s ≠ .refused f := by
  rw [compile, documentOf_of_lookup h]
  dsimp only
  rcases compileDocument settings vocabulary m s document with (_ | _) | _
  all_goals simp

theorem compile_eq_broken_iff (h : m.lookup settings.metadataKey = some document) :
    compile settings vocabulary (some m) s = .broken cause ↔
      compileDocument settings vocabulary m s document = .error (.unforeseen cause) := by
  rw [compile, documentOf_of_lookup h]
  dsimp only
  rcases compileDocument settings vocabulary m s document with (_ | _) | _
  all_goals simp

/-- An attempt for which there is no document is refused and not counted. If there is one, all lookups succeed, and the
attempt is counted exactly if no name of an element breaks it off. Nothing else does. -/
theorem isCounted_compile_iff :
    (m.lookup settings.metadataKey = none →
      compile settings vocabulary (some m) s = .refused (.precondition (.document settings.metadataKey)) ∧
        ∀ c, (compile settings vocabulary (some m) s).count c = c) ∧
    ∀ document bytes, m.lookup settings.metadataKey = some document → Text.utf8? document = some bytes →
      (∀ g containers d terms, readDocument bytes = .ok g → build g { store := s } = .ok (containers, d) →
        loadTerms vocabulary = .ok terms → LookupsSucceed g terms containers d.store) ∧
      ((compile settings vocabulary (some m) s).IsCounted ↔ ¬ BreaksOff vocabulary s bytes) ∧
      ∀ cause, compile settings vocabulary (some m) s = .broken cause →
        (∃ text, cause = .literal (.elementName text)) ∧
          ∀ c, (compile settings vocabulary (some m) s).count c = c := by
  constructor
  · intro hnone
    have hrefused : compile settings vocabulary (some m) s =
        .refused (.precondition (.document settings.metadataKey)) := by simp [compile, documentOf, hnone]
    rw [hrefused]
    exact ⟨rfl, fun _ => rfl⟩
  · intro document bytes hdocument hbytes
    refine ⟨?_, ?_, ?_⟩
    · intro g containers d terms _ hbuilt hload
      obtain ⟨rfl, hb⟩ := build_post hbuilt
      exact lookupsSucceed_of_built hb hload
    · have hbreaks : (∃ cause, compile settings vocabulary (some m) s = .broken cause) ↔
          BreaksOff vocabulary s bytes := by
        simp only [compile_eq_broken_iff hdocument, exists_compileDocument_unforeseen_iff hbytes]
      rw [Attempt.isCounted_iff (compile_ne_refused hdocument), ← hbreaks, not_exists]
    · intro cause hbroken
      refine ⟨cause_of_compileDocument hbytes ((compile_eq_broken_iff hdocument).1 hbroken), ?_⟩
      rw [hbroken]
      exact fun _ => rfl

/-- A document with a flag that is no truth value. -/
def misspeltDocument : String := "<Schema Namespace='NS'><EntityType Name='T' Abstract='yes'/></Schema>"

set_option maxRecDepth 100000 in
/-- A literal inside a schema fails the attempt, which is counted. -/
theorem isCounted_compile_of_misspelt :
    (∃ bytes, Text.utf8? misspeltDocument = some bytes ∧ ¬ BreaksOff none {} bytes) ∧
      (compile {} none (some [("$metadata", misspeltDocument)]) {}).IsCounted := by
  have hplain : ∃ bytes ∈ Text.utf8? misspeltDocument, ¬ StraysAround bytes := by decide +kernel
  obtain ⟨bytes, hbytes, hnames⟩ := hplain
  have hbreaks : ¬ BreaksOff none {} bytes := by
    rintro (hstray | ⟨_, _, _, _, _, hnone, _⟩)
    · exact hnames hstray
    · cases hnone
  exact ⟨⟨bytes, hbytes, hbreaks⟩,
    ((isCounted_compile_iff.2 misspeltDocument bytes rfl hbytes).2.1).2 hbreaks⟩

/-- A document whose root has a name with a label that is not bound. -/
def strayDocument : String := "<m:Edmx Version='4.0'/><?xml-x?>"

set_option maxRecDepth 100000 in
/-- The name of the root breaks the attempt off, which is not counted at all. -/
theorem not_isCounted_compile_of_stray :
    compile {} none (some [("$metadata", strayDocument)]) {} = .broken (.literal (.elementName "m:Edmx")) ∧
      (∃ bytes, Text.utf8? strayDocument = some bytes) ∧
      ¬ (compile {} none (some [("$metadata", strayDocument)]) {}).IsCounted ∧
      ∀ c, (compile {} none (some [("$metadata", strayDocument)]) {}).count c = c := by
  have hbroken : compile {} none (some [("$metadata", strayDocument)]) {} =
      .broken (.literal (.elementName "m:Edmx")) := Attempt.cause?_eq_some_iff.1 (by decide +kernel)
  refine ⟨hbroken, Option.isSome_iff_exists.1 (by decide +kernel), ?_, ?_⟩
  · rw [hbroken, Attempt.isCounted_iff (by simp)]
    simp
  · rw [hbroken]
    exact fun _ => rfl

end Endings

end Compilation

end EntityModel
