import EntityModel.Literal
import EntityModel.Numeral.Arithmetic
import EntityModel.Numeral.Radix
import EntityModel.Text.Lower
import EntityModel.Text.Split
import EntityModel.Yaml.Scalar

/-!
# Numbers in scalars

A scalar that is marked as a number is read with its underscores left out and its sign taken off. An integer
may then be binary, hexadecimal or, behind a zero, octal; numbers with colons have sexagesimal places; the rest
is decimal. A tag may mark a scalar that is no number, which fails with the wording of the reader that was
asked.
-/

namespace EntityModel.Yaml

open Numeral (Binary64 Radix)

/-- A text without its underscores. -/
def dropUnderscores (s : List Char) : List Char := s.filter (· ≠ '_')

/-- A negative sign, and what follows the sign if there is one. -/
def splitSign : List Char → Except Fault (Bool × List Char)
  | [] => .error .emptyNumber
  | '-' :: s => .ok (true, s)
  | '+' :: s => .ok (false, s)
  | s => .ok (false, s)

/-- A text without the white space around it. -/
def bare (s : List Char) : List Char := Text.trimWhile Text.isWhiteSpace s

/-! ## Integers -/

def decimalInteger (s : List Char) : Except Fault Int :=
  (Numeral.readInteger (bare s)).mapError fun f =>
    .noValue (LiteralFault.ofInteger (String.ofList s) f).message

/-- An integer in another base. -/
def radixInteger (r : Radix) (s : List Char) : Except Fault Int :=
  match r.readInteger (bare s) with
  | some n => .ok n
  | none => .error (.noValue (notInteger r.size (String.ofList s)))

/-- An integer with sexagesimal places. -/
def sexagesimalInteger (s : List Char) : Except Fault Int := do
  let places ← (Text.pieces ':' s).mapM decimalInteger
  return places.foldl (fun n place => 60 * n + place) 0

/-- An integer without its sign. -/
def unsignedInteger (s : List Char) : Except Fault Int :=
  match s with
  | [] => .error .emptyNumber
  | ['0'] => .ok 0
  | '0' :: 'b' :: ds => radixInteger .binary ds
  | '0' :: 'x' :: ds => radixInteger .hexadecimal ds
  | '0' :: _ => radixInteger .octal s
  | s => if s.contains ':' then sexagesimalInteger s else decimalInteger s

/-- The integer that a scalar marked as one denotes. -/
def integerOf (text : String) : Except Fault Int := do
  let (negative, s) ← splitSign (dropUnderscores text.toList)
  let n ← unsignedInteger s
  return if negative then -n else n

/-! ## Floats -/

def decimalFloat (s : List Char) : Except Fault Binary64 :=
  match Binary64.read (bare s) with
  | some x => .ok x
  | none => .error (.noValue (notFloat (String.ofList s)))

/-- What the place before so many others counts. -/
def sexagesimalWeight (places : Nat) : Binary64 := Binary64.ofDecimal false (Nat.pow 60 places) 0

/-- The sum of sexagesimal places, the least significant one added first. -/
def sexagesimalSum : List Binary64 → Binary64
  | [] => Binary64.ofMagnitude false 0
  | place :: rest => (sexagesimalSum rest).add (place.mul (sexagesimalWeight rest.length))

/-- A float with sexagesimal places, each of which must count a finite number. -/
def sexagesimalFloat (s : List Char) : Except Fault Binary64 := do
  let places ← (Text.pieces ':' s).mapM decimalFloat
  if (sexagesimalWeight (places.length - 1)).isInfinite then .error .overflow
  return sexagesimalSum places

/-- A float without its sign. -/
def unsignedFloat (s : List Char) : Except Fault Binary64 :=
  if s = ".inf".toList then .ok (Binary64.infinity false)
  else if s = ".nan".toList then .ok Binary64.nan
  else if s.contains ':' then sexagesimalFloat s
  else decimalFloat s

/-- The float that a scalar marked as one denotes. -/
def floatOf (text : String) : Except Fault Binary64 := do
  let (negative, s) ← splitSign (Text.lower (dropUnderscores text.toList))
  let x ← unsignedFloat s
  return if negative then x.negate else x

end EntityModel.Yaml
