import EntityModel.Counters.Basic
import EntityModel.Json.Value
import EntityModel.Literal

/-!
# Amounts to be counted

An event may be counted with an amount that is given as some JSON value: an integer, a truth value that counts
as one or zero, a float without its fraction, or a text that is an integer literal. Here the four
information separators do not count as blanks around a literal.
-/

namespace EntityModel

/-- Why a value is not an amount. -/
inductive AmountFault where
  /-- A text that is no integer literal. -/
  | literal (fault : LiteralFault)
  /-- A float that is no number. -/
  | notANumber
  /-- An infinite float. -/
  | infinite
  /-- A value of another kind. -/
  | wrongKind
  deriving DecidableEq, Repr

/-- The wording of a fault, where it has one. -/
def AmountFault.message? : AmountFault → Option String
  | .literal fault => some fault.message
  | .notANumber => some "cannot convert float NaN to integer"
  | .infinite | .wrongKind => none

namespace Counters

/-- The amount that a text stands for. -/
def textAmount (text : String) : Except AmountFault Int :=
  (Numeral.readInteger (Text.trimWhile Text.isWhiteSpace text.toList)).mapError fun f =>
    .literal (.ofInteger text f)

/-- The amount that a value stands for. -/
def amount : Json → Except AmountFault Int
  | .int n => .ok n
  | .bool b => .ok (if b then 1 else 0)
  | .text s => textAmount s
  | .float x =>
      match x.truncate? with
      | some n => .ok n
      | none => .error (if x.isNaN then .notANumber else .infinite)
  | .null | .list _ | .object _ => .error .wrongKind

/-- Counts a named event with an amount; without a name the amount is not looked at. -/
def countValue (name : String) (value : Json) (c : Counters) : Except AmountFault Counters :=
  if name = "" then .ok c else (amount value).map fun n => c.countNamed name n

end Counters

end EntityModel
