/-!
# Capabilities

A capability says whether entities of a property can be inserted, updated, deleted or expanded. A list of
capabilities may speak of one kind several times, or not at all. A kind is supported if nothing in the list
denies it; so a kind that is never mentioned is supported.
-/

namespace EntityModel.CodeModel

/-- What can be done with the entities of a property. -/
inductive CapabilityKind where
  /-- New entities can be added. -/
  | insert
  /-- Entities can be changed. -/
  | update
  /-- Entities can be removed. -/
  | delete
  /-- Entities can be fetched together with the ones that lead to them. -/
  | expand
  deriving DecidableEq, Repr

namespace CapabilityKind

/-- All kinds, in the order in which they are applied. -/
def all : List CapabilityKind := [insert, update, delete, expand]

theorem mem_all (k : CapabilityKind) : k ∈ all := by cases k <;> simp [all]

/-- The word for a kind. -/
def text : CapabilityKind → String
  | insert => "insert"
  | update => "update"
  | delete => "delete"
  | expand => "expand"

def ofText? (word : String) : Option CapabilityKind := all.find? fun k => k.text = word

theorem ofText?_text (k : CapabilityKind) : ofText? k.text = some k := by cases k <;> decide

end CapabilityKind

/-- A capability that is granted or denied. -/
structure Capability where
  /-- What it is about. -/
  kind : CapabilityKind
  /-- It is granted. -/
  flag : Bool := true
  deriving DecidableEq, Repr

/-- The capabilities of one kind. -/
def Capability.ofKind (kind : CapabilityKind) (cs : List Capability) : List Capability :=
  cs.filter fun c => c.kind = kind

/-- No capability of a list denies a kind. -/
def Capability.support (kind : CapabilityKind) (cs : List Capability) : Bool :=
  (ofKind kind cs).all (·.flag)

/-- A kind is not supported exactly if it is denied somewhere in the list. -/
theorem Capability.support_eq_false_iff {kind : CapabilityKind} {cs : List Capability} :
    support kind cs = false ↔ ⟨kind, false⟩ ∈ cs := by
  simp only [support, ofKind, List.all_eq_false, List.mem_filter, decide_eq_true_eq]
  constructor
  · rintro ⟨⟨k, f⟩, ⟨hm, rfl⟩, hf⟩
    cases f
    · exact hm
    · exact absurd rfl hf
  · intro h
    exact ⟨_, ⟨h, rfl⟩, by simp⟩

end EntityModel.CodeModel
