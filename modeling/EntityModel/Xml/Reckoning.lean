/-!
# Findings and reckoning

Most violations end the reading of a document. Some do not: a label without a namespace, a declaration that
contradicts another one, two elements with one identifier. Such a *fault* makes the document unacceptable
as well, but it is noted and reading goes on. A *warning* is noted too. The last note decides: a document is
accepted if nothing has been noted or if the last note is a warning.

The reckoning also holds what is known of the entities of the document, the identifiers that have been seen
and how many bytes the references so far stand for. All references together may not stand for more than a
number of bytes, so that a small document cannot grow without bound.
-/

namespace EntityModel.Xml

/-- How many texts may be open at once: the document and entities within entities. -/
def maxTexts : Nat := 20

/-- What has been noted about a document while it is read. -/
structure Findings where
  /-- How many warnings there are. -/
  warnings : Nat := 0
  /-- How many faults there are. -/
  faults : Nat := 0
  /-- Nothing has been noted, or the last note is a warning. -/
  acceptable : Bool := true
  deriving DecidableEq, Repr

namespace Findings

/-- So many warnings are noted, and so many faults; further ones are not. -/
def capacity : Nat := 100

/-- Notes a warning. -/
def warn (f : Findings) : Findings :=
  if f.warnings < capacity then { f with warnings := f.warnings + 1, acceptable := true } else f

/-- Notes a fault. -/
def fault (f : Findings) : Findings :=
  if f.faults < capacity then { f with faults := f.faults + 1, acceptable := false } else f

end Findings

/-- What is known about a document while it is read. -/
structure Reckoning where
  /-- The notes. -/
  findings : Findings := {}
  /-- How many bytes the references so far stand for. -/
  spent : Nat := 0
  /-- Entities that may stand in attribute values. -/
  approved : List String := []
  /-- How many bytes a reference to an entity stands for. -/
  sizes : List (String × Nat) := []
  /-- Entities whose text need not be read as content any more. -/
  parsed : List String := []
  /-- The identifiers of elements. -/
  identifiers : List String := []

namespace Reckoning

/-- Notes a warning. -/
def warn (r : Reckoning) : Reckoning := { r with findings := r.findings.warn }

/-- Notes a fault. -/
def fault (r : Reckoning) : Reckoning := { r with findings := r.findings.fault }

/-- Notes a fault under a condition. -/
def faultIf (b : Bool) (r : Reckoning) : Reckoning := if b then r.fault else r

/-- How many bytes the references of a document may stand for. -/
def maxGrowth : Nat := 1000000

/-- How many bytes a reference counts beyond those that it stands for. -/
def referenceCost : Nat := 20

/-- The reckoning after a reference that stands for a number of bytes, unless that is too much. -/
def spend? (r : Reckoning) (size : Nat) : Option Reckoning :=
  let spent := r.spent + size + referenceCost
  if spent ≤ maxGrowth then some { r with spent } else none

/-- The size of an entity, zero if it is not known. -/
def sizeOf (r : Reckoning) (name : String) : Nat := (r.sizes.lookup name).getD 0

/-- Targets of processing instructions that begin like reserved ones and are not. -/
def knownTargets : List String := ["xml-stylesheet", "xml-model"]

/-- The reckoning after a processing instruction with a target. Targets that begin with the three reserved
letters are warned of, and a colon is a fault. -/
def instruction (r : Reckoning) (target : String) : Reckoning :=
  if knownTargets.contains target then r
  else
    let r := if (String.ofList (target.toList.take 3)).toLower == "xml" then r.warn else r
    r.faultIf (target.toList.contains ':')

end Reckoning

end EntityModel.Xml
