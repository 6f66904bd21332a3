import EntityModel.Text.DecimalDigit

/-!
# Integers in a base other than ten

An integer in base two, eight or sixteen is an optional sign, an optional mark of its base behind a zero, and
digits. The digits below ten may come from any script. There is no bound on their number.
-/

namespace EntityModel.Numeral

/-- A base with a mark of its own. -/
inductive Radix where
  /-- Base two. -/
  | binary
  /-- Base eight. -/
  | octal
  /-- Base sixteen. -/
  | hexadecimal
  deriving DecidableEq, Repr

namespace Radix

/-- The base. -/
def size : Radix → Nat
  | binary => 2
  | octal => 8
  | hexadecimal => 16

/-- The small letter that marks the base behind a zero. -/
def mark : Radix → Char
  | binary => 'b'
  | octal => 'o'
  | hexadecimal => 'x'

/-- What a character is worth as a digit. -/
def digit? (r : Radix) (c : Char) : Option Nat :=
  let worth : Option Nat :=
    match Text.decimalDigit? c with
    | some d => some d
    | none =>
        if 'a' ≤ c.toLower && c.toLower ≤ 'f' then some (c.toLower.toNat - 0x57) else none
  worth.filter (· < r.size)

/-- The text behind a mark of the base, if there is one. -/
def dropMark (r : Radix) : List Char → List Char
  | '0' :: m :: s => if m.toLower = r.mark then s else '0' :: m :: s
  | s => s

/-- Reads an integer without a sign. -/
def readNatural (r : Radix) (s : List Char) : Option Nat :=
  match (r.dropMark s).mapM r.digit? with
  | none | some [] => none
  | some ds => some (ds.foldl (fun n d => r.size * n + d) 0)

/-- Reads an integer from a text without surrounding blanks. -/
def readInteger (r : Radix) : List Char → Option Int
  | '-' :: s => (r.readNatural s).map fun n => -(n : Int)
  | '+' :: s => (r.readNatural s).map fun n => (n : Int)
  | s => (r.readNatural s).map fun n => (n : Int)

end Radix

end EntityModel.Numeral
