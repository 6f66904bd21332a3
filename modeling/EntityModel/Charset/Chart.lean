import EntityModel.Charset.Page

/-!
# Charts

A chart assigns characters to numbered places. Most of the East Asian standards have charts of 94 rows with 94
places, and a place there is given by two bytes, `cell?`. A chart is written as stretches of consecutive places; a
place in no stretch, or one listed as `unassigned`, has no character.

Some standards fill their free rows with all the characters that an earlier chart has left out, in the order of
their code points: `lacking`.
-/

namespace EntityModel.Charset

/-- Characters at consecutive places. -/
structure Stretch where
  /-- The first place. -/
  first : Nat
  characters : Array Char

/-- The stretch that is written in lines. -/
def Stretch.ofLines (first : Nat) (lines : List String) : Stretch :=
  ⟨first, (lines.flatMap String.toList).toArray⟩

def Stretch.get? (s : Stretch) (place : Nat) : Option Char :=
  if s.first ≤ place then (s.characters[place - s.first]?).filter (· != unassigned) else none

/-- Characters at numbered places: an earlier stretch goes before a later one. -/
abbrev Chart := List Stretch

namespace Chart

def get? (chart : Chart) (place : Nat) : Option Char := chart.findSome? fun s => s.get? place

def characters (chart : Chart) : List Char := chart.flatMap fun s => s.characters.toList

end Chart

/-! ## What is left out -/

/-- Which of the code points from `first` on, so many, belong to given characters. -/
def marks (given : List Char) (first count : Nat) : Array Bool :=
  given.foldl (fun marks c => if first ≤ c.toNat then marks.setIfInBounds (c.toNat - first) true else marks)
    (Array.replicate count false)

/-- The characters with code points from `first` on, so many, that are not among given ones, in their order. -/
def lacking (given : List Char) (first count : Nat) : Array Char :=
  let marks := marks given first count
  (((List.range count).filter fun i => (first + i).isValidChar && !marks.getD i false).map fun i =>
    Char.ofNat (first + i)).toArray

/-! ## Places -/

/-- The place of two bytes in a chart of 94 rows, where the bytes have their high bits. -/
def cell? (a b : UInt8) : Option Nat :=
  if 0xA1 ≤ a && a ≤ 0xFE && 0xA1 ≤ b && b ≤ 0xFE then some (94 * (a.toNat - 0xA1) + (b.toNat - 0xA1)) else none

/-- The place of two bytes in a chart of 94 rows, where the bytes do not have their high bits. -/
def lowCell? (a b : UInt8) : Option Nat :=
  if 0x21 ≤ a && a ≤ 0x7E && 0x21 ≤ b && b ≤ 0x7E then some (94 * (a.toNat - 0x21) + (b.toNat - 0x21)) else none

/-- The private character of a number, if it is one of so many. -/
def private? (first count number : Nat) : Option Char :=
  if number < count then some (Char.ofNat (first + number)) else none

end EntityModel.Charset
