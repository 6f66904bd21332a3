import EntityModel.Text.DecimalDigit

/-!
# Integers in text

An integer is written as an optional sign and decimal digits, with single underscores allowed between two
digits. The digits may come from any script. No more than 4300 digits are read; that bound is checked on
the leading run of digits, before the text behind it. No more are written, either.

`read` expects a text without surrounding blanks. What a caller takes for a blank is the caller's choice.
-/

namespace EntityModel

/-- How many decimal digits an integer has. -/
def digitCount (i : Int) : Nat := (Nat.toDigits 10 i.natAbs).length

namespace Numeral

/-- Why a text is not read as an integer. -/
inductive IntegerFault where
  /-- The text does not follow the grammar. -/
  | malformed
  /-- The text starts with more digits than are read. -/
  | tooLong (digits : Nat)
  deriving DecidableEq, Repr

/-- The number of digits that are read or written at most. -/
def digitLimit : Nat := 4300

/-- The digits of a run with single underscores between them, if it is one. -/
def groupedDigits : List Char → Option (List Nat)
  | [] => none
  | [c] => (Text.decimalDigit? c).map ([·])
  | c :: '_' :: cs =>
      match Text.decimalDigit? c, groupedDigits cs with
      | some d, some ds => some (d :: ds)
      | _, _ => none
  | c :: cs =>
      match Text.decimalDigit? c, groupedDigits cs with
      | some d, some ds => some (d :: ds)
      | _, _ => none

/-- The number that decimal digits denote, the most significant first. -/
def ofDigits (ds : List Nat) : Nat := ds.foldl (fun n d => 10 * n + d) 0

/-- A character that may belong to a run of digits. -/
def isDigitOrUnderscore (c : Char) : Bool := Text.isDecimalDigit c || c == '_'

/-- Reads an unsigned integer. -/
def readNatural (s : List Char) : Except IntegerFault Nat :=
  match groupedDigits (s.takeWhile isDigitOrUnderscore) with
  | none => .error .malformed
  | some ds =>
      if digitLimit < ds.length then .error (.tooLong ds.length)
      else if (s.dropWhile isDigitOrUnderscore).isEmpty then .ok (ofDigits ds)
      else .error .malformed

def readInteger : List Char → Except IntegerFault Int
  | '-' :: s => (readNatural s).map fun n => -(n : Int)
  | '+' :: s => (readNatural s).map fun n => (n : Int)
  | s => (readNatural s).map fun n => (n : Int)

/-- An integer has no more digits than are written. -/
def isWritable (i : Int) : Bool := digitCount i ≤ digitLimit

end Numeral

end EntityModel
