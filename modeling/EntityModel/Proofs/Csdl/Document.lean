import EntityModel.Csdl.Document
import EntityModel.Proofs.Csdl.Reading
import EntityModel.Proofs.Outcome

/-!
# Documents that are read

A document is read from its outline, and its graph has the schemas that are read there (`gives_of_readRoot`). A text
is read if its bytes are a document that is (`readText_eq_ok_iff`).
-/

namespace EntityModel.Csdl

open Xml (Element)
open Edm (Graph)

variable {root : Element} {o : Outline} {g : Graph}

/-! ## Outlines -/

theorem outline_of_strays {text : String} (h : (surroundings root).findSome? (fun e => e.name.stray?) = some text) :
    outline root = .error (.unforeseen (.literal (.elementName text))) := by
  rw [outline, h]
  rfl

theorem outline_schema (hname : root.localName = "Schema")
    (h : (surroundings root).findSome? (fun e => e.name.stray?) = none) :
    outline root = .ok { version := schemaVersion root.name.space, included := [], schemas := [root] } := by
  simp only [outline, h, hname]

theorem outline_package (hname : root.localName = "Edmx")
    (h : (surroundings root).findSome? (fun e => e.name.stray?) = none) :
    outline root = .ok
      { version := packageVersion root.name.space, included := inclusions root,
        schemas := (root.childrenNamed ["DataServices"]).flatMap fun d => d.childrenNamed ["Schema"] } := by
  simp only [outline, h, hname]

/-- A document has an outline if no name around its schemas strays, and it is a package or a schema. -/
theorem root_of_outline (h : outline root = .ok o) :
    (surroundings root).findSome? (fun e => e.name.stray?) = none ∧
      (root.localName = "Edmx" ∨ root.localName = "Schema") := by
  cases hstray : (surroundings root).findSome? fun e => e.name.stray? with
  | some text =>
      rw [outline_of_strays hstray] at h
      cases h
  | none =>
      refine ⟨rfl, ?_⟩
      rw [outline, hstray] at h
      dsimp only [pure_bind] at h
      split at h
      · next hname => exact .inl hname
      · next hname => exact .inr hname
      · cases h

/-! ## Graphs -/

theorem readRoot_of_outline (h : outline root = .ok o) :
    readRoot root = ((o.schemas.mapM (readSchema o.context)).outcome >>= fun p => o.graph p.1 p.2).mapError .foreseen := by
  rw [readRoot, h]
  rfl

/-- The schemas of a document with an outline are read, and no fault is noted. -/
theorem readRoot_eq_ok_iff (h : outline root = .ok o) :
    readRoot root = .ok g ↔
      ∃ schemas notes, (o.schemas.mapM (readSchema o.context)).outcome = .ok (schemas, notes) ∧
        (∀ n ∈ notes, n.deferred? = none) ∧
        g = { version := o.version, references := .ofList (referencesOf o.included), schemas,
              annotations := notes.filterMap Note.annotated? } := by
  have hgraph : ∀ schemas notes, o.graph schemas notes = .ok g ↔ (∀ n ∈ notes, n.deferred? = none) ∧
      g = { version := o.version, references := .ofList (referencesOf o.included), schemas,
            annotations := notes.filterMap Note.annotated? } := by
    intro schemas notes
    rw [Outline.graph, ← List.findSome?_eq_none_iff]
    cases notes.findSome? Note.deferred? with
    | some fault => simp
    | none => simp [eq_comm]
  rw [readRoot_of_outline h, mapError_eq_ok_iff, bind_eq_ok_iff]
  simp only [Prod.exists, hgraph]

/-- The schemas of a graph are read of its document in order. -/
theorem gives_of_readRoot (h : readRoot root = .ok g) :
    ∃ o, outline root = .ok o ∧ (o.schemas.mapM (readSchema o.context)).Gives g.schemas := by
  obtain ⟨o, ho, -⟩ := bind_eq_ok_iff.1 h
  obtain ⟨schemas, notes, hschemas, -, rfl⟩ := (readRoot_eq_ok_iff ho).1 h
  exact ⟨o, ho, notes, hschemas⟩

/-- A text is read if it has bytes that are not all blank, these are a document, and its root is read. -/
theorem readText_eq_ok_iff {text : String} :
    readText text = .ok g ↔ ∃ bytes root, Text.utf8? text = some bytes ∧ bytes.all isBlankByte = false ∧
      Xml.Document.read? bytes = some root ∧ readRoot root = .ok g := by
  have hdocument : ∀ bytes, readDocument bytes = .ok g ↔ bytes.all isBlankByte = false ∧
      ∃ root, Xml.Document.read? bytes = some root ∧ readRoot root = .ok g := by
    intro bytes
    rw [readDocument]
    cases bytes.all isBlankByte with
    | true => simp
    | false => cases Xml.Document.read? bytes <;> simp
  rw [readText]
  cases Text.utf8? text with
  | none => simp
  | some bytes => simp only [hdocument, Option.some.injEq, exists_and_left, exists_eq_left']

end EntityModel.Csdl
