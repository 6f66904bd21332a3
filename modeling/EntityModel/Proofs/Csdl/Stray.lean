import EntityModel.Csdl.Document
import EntityModel.Proofs.Outcome

/-!
# Names around the schemas

The names of elements are looked at while a document is read, and one that is no name is a fault of the document, as
any literal outside its grammar. Only the names around the schemas are looked at before that is foreseen. So reading
breaks off for an unforeseen cause exactly if there is such a name (`exists_unforeseen_iff`), and the cause is the
name and nothing else (`cause_of_readDocument`).
-/

namespace EntityModel.Csdl

open Xml (Element)

/-- One of the elements that are looked at before any schema is read has a name that is none. -/
def StraysAround (bytes : List UInt8) : Prop :=
  bytes.all isBlankByte = false ∧
    ∃ root ∈ Xml.Document.read? bytes, ∃ e ∈ surroundings root, e.name.stray?.isSome

instance : DecidablePred StraysAround := fun _ => inferInstanceAs (Decidable (_ ∧ _))

section Causes

variable {root : Element} {bytes : List UInt8} {cause : Unforeseen}

theorem outline_eq_unforeseen_iff :
    outline root = .error (.unforeseen cause) ↔
      ∃ text, ((surroundings root).findSome? fun e => e.name.stray?) = some text ∧
        cause = .literal (.elementName text) := by
  unfold outline
  cases hstray : (surroundings root).findSome? fun e => e.name.stray? with
  | some text =>
      constructor
      · intro h
        cases h
        exact ⟨text, rfl, rfl⟩
      · rintro ⟨_, ⟨⟩, rfl⟩
        rfl
  | none =>
      refine iff_of_false ?_ (by simp)
      dsimp only [pure_bind]
      split <;> simp

/-- Once the parts of a document are told, nothing unforeseen is in the way. -/
theorem readRoot_eq_unforeseen_iff :
    readRoot root = .error (.unforeseen cause) ↔ outline root = .error (.unforeseen cause) := by
  rw [readRoot, bind_eq_error_iff]
  constructor
  · rintro (h | ⟨o, -, h⟩)
    · exact h
    · obtain ⟨_, -, hcause⟩ := mapError_eq_error_iff.1 h
      cases hcause
  · exact .inl

theorem readDocument_eq_unforeseen_iff :
    readDocument bytes = .error (.unforeseen cause) ↔
      bytes.all isBlankByte = false ∧
        ∃ root ∈ Xml.Document.read? bytes, readRoot root = .error (.unforeseen cause) := by
  rw [readDocument]
  cases bytes.all isBlankByte with
  | true => simp
  | false => cases Xml.Document.read? bytes <;> simp

/-- Reading a document breaks off for an unforeseen cause exactly if a name around its schemas is none. -/
theorem exists_unforeseen_iff :
    (∃ cause, readDocument bytes = .error (.unforeseen cause)) ↔ StraysAround bytes := by
  have hroot : ∀ root, (∃ cause, readRoot root = .error (.unforeseen cause)) ↔
      ∃ e ∈ surroundings root, e.name.stray?.isSome := by
    intro root
    simp only [readRoot_eq_unforeseen_iff, outline_eq_unforeseen_iff]
    rw [exists_comm]
    simp only [exists_and_left, exists_eq, and_true]
    rw [← Option.isSome_iff_exists, List.findSome?_isSome_iff]
  simp only [readDocument_eq_unforeseen_iff, exists_and_left, StraysAround, ← hroot]
  exact and_congr_right fun _ => ⟨fun ⟨cause, root, hroot, h⟩ => ⟨root, hroot, cause, h⟩,
    fun ⟨root, hroot, cause, h⟩ => ⟨cause, root, hroot, h⟩⟩

/-- No other literal is an unforeseen cause than the name of an element. -/
theorem cause_of_readDocument (h : readDocument bytes = .error (.unforeseen cause)) :
    ∃ text, cause = .literal (.elementName text) := by
  obtain ⟨-, root, -, hroot⟩ := readDocument_eq_unforeseen_iff.1 h
  obtain ⟨text, -, hcause⟩ := outline_eq_unforeseen_iff.1 (readRoot_eq_unforeseen_iff.1 hroot)
  exact ⟨text, hcause⟩

end Causes

end EntityModel.Csdl
