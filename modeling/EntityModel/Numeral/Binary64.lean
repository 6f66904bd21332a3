import EntityModel.Text.DecimalDigit
import EntityModel.Text.Quoted

/-!
# Binary floating point numbers

A number of the 64-bit binary format is kept as its bits. `ofDecimal` rounds a decimal `m * 10 ^ e` to the
nearest such number, a tie to the one with even bits; beyond the largest number it yields infinity.

The magnitudes of the format are counted by their bits: bits `b` stand for `b` steps from zero, where the
steps double in size every `2 ^ 52` after the first two such blocks. So a magnitude is found as a step size
`2 ^ q` and a number of steps below `2 ^ 53`, and its bits are `(q + 1074) * 2 ^ 52` plus that number.

`read` is the grammar of a float in text: an optional sign, digits with a point and an exponent, or a word
for infinity or for no number. As in an integer, single underscores may stand between two digits.
-/

namespace EntityModel.Numeral

/-- A 64-bit binary floating point number, by its bits. -/
structure Binary64 where
  /-- The sign bit, eleven bits of exponent and fifty-two of fraction. -/
  bits : UInt64
  deriving DecidableEq, Repr

namespace Binary64

/-- The bits of infinity without a sign. -/
def infinityBits : Nat := 0x7FF * Nat.pow 2 52

/-- A number from its sign and the bits of its magnitude. -/
def ofMagnitude (negative : Bool) (magnitude : Nat) : Binary64 :=
  ⟨(if negative then Nat.pow 2 63 + magnitude else magnitude).toUInt64⟩

def infinity (negative : Bool) : Binary64 := ofMagnitude negative infinityBits

/-- The value that is no number. -/
def nan : Binary64 := ofMagnitude false (infinityBits + Nat.pow 2 51)

/-- The bits without the sign. -/
def magnitude (x : Binary64) : Nat := x.bits.toNat % Nat.pow 2 63

/-- The sign bit is set. -/
def isNegative (x : Binary64) : Bool := Nat.pow 2 63 ≤ x.bits.toNat

/-- Not a number, with whatever bits. -/
def isNaN (x : Binary64) : Bool := infinityBits < x.magnitude

/-- Infinite, with either sign. -/
def isInfinite (x : Binary64) : Bool := x.magnitude == infinityBits

/-! ## Rounding -/

/-- The quotient rounded to the nearest natural number, a tie to the even one. -/
def roundQuotient (num den : Nat) : Nat :=
  let q := num / den
  let twice := 2 * (num % den)
  if twice < den then q
  else if den < twice then q + 1
  else if q % 2 = 0 then q else q + 1

/-- `a * 2 ^ k` where `k` is positive, and `a` otherwise: the other factor of the quotient takes the rest. -/
def shift (k : Int) (a : Nat) : Nat := a * Nat.pow 2 k.toNat

/-- The bits of the magnitude nearest to the positive quotient `num / den`. -/
def magnitudeOfQuotient (num den : Nat) : Nat :=
  -- the quotient lies between 2 ^ (k - 1) and 2 ^ (k + 1)
  let k : Int := (num.log2 : Int) - den.log2
  let low := shift k den ≤ shift (-k) num
  let q := max (if low then k - 52 else k - 53) (-1074)
  let steps := roundQuotient (shift (-q) num) (shift q den)
  min infinityBits ((q + 1074).toNat * Nat.pow 2 52 + steps)

/-- The number nearest to `m * 10 ^ e`, with a sign. An exponent far outside the range of the format is
settled by the number of digits alone. -/
def ofDecimal (negative : Bool) (m : Nat) (e : Int) : Binary64 :=
  if m = 0 then ofMagnitude negative 0
  else
    let top := ((Nat.toDigits 10 m).length : Int) + e
    if 400 < top then infinity negative
    else if top < -400 then ofMagnitude negative 0
    else ofMagnitude negative (magnitudeOfQuotient (m * Nat.pow 10 e.toNat) (Nat.pow 10 (-e).toNat))

/-! ## The whole part -/

/-- The steps of a finite magnitude and the exponent of their size. -/
def steps (x : Binary64) : Nat × Int :=
  let block : Nat := x.magnitude / Nat.pow 2 52
  if block = 0 then (x.magnitude, -1074)
  else (Nat.pow 2 52 + x.magnitude % Nat.pow 2 52, (block : Int) - 1075)

/-- The number without its fraction; none for infinity and for what is no number. -/
def truncate? (x : Binary64) : Option Int :=
  if infinityBits ≤ x.magnitude then none
  else
    let (n, q) := x.steps
    let whole : Nat := n * Nat.pow 2 q.toNat / Nat.pow 2 (-q).toNat
    some (if x.isNegative then -(whole : Int) else whole)

/-- The sixteen hexadecimal digits of the bits. -/
def hex (x : Binary64) : String := String.ofList (Text.Quoted.hex 16 x.bits.toNat)

/-! ## Reading -/

/-- The text with every decimal digit replaced by the common one and without the underscores, which must
stand between two digits. `afterDigit` says that a digit has just been read. -/
def ungroup : Bool → List Char → Option (List Char)
  | _, [] => some []
  | afterDigit, '_' :: cs =>
      match cs with
      | [] => none
      | d :: _ => if afterDigit && Text.isDecimalDigit d then ungroup false cs else none
  | _, c :: cs =>
      match Text.decimalDigit? c with
      | some d => (ungroup true cs).map (Nat.digitChar d :: ·)
      | none => (ungroup false cs).map (c :: ·)

/-- The natural number that common digits denote. -/
def ofDigitChars (cs : List Char) : Nat := cs.foldl (fun n c => 10 * n + (c.toNat - 0x30)) 0

/-- Reads the exponent part at the end of a number: nothing, or a mark, an optional sign and digits. -/
def readExponent : List Char → Option Int
  | [] => some 0
  | c :: cs =>
      if c == 'e' || c == 'E' then
        let (negative, ds) :=
          match cs with
          | '-' :: ds => (true, ds)
          | '+' :: ds => (false, ds)
          | ds => (false, ds)
        if ds.isEmpty || !ds.all Char.isDigit then none
        else some (if negative then -(ofDigitChars ds : Int) else ofDigitChars ds)
      else none

/-- Reads the digits of a number without a sign: digits before a point, after it, or both. -/
def readUnsigned (negative : Bool) (s : List Char) : Option Binary64 :=
  let whole := s.takeWhile Char.isDigit
  let (fraction, rest) :=
    match s.dropWhile Char.isDigit with
    | '.' :: r => (r.takeWhile Char.isDigit, r.dropWhile Char.isDigit)
    | r => ([], r)
  if whole.isEmpty && fraction.isEmpty then none
  else (readExponent rest).map fun e =>
    ofDecimal negative (ofDigitChars (whole ++ fraction)) (e - fraction.length)

/-- Reads what may follow the sign. -/
def readMagnitude (negative : Bool) (s : List Char) : Option Binary64 :=
  let word := String.ofList (s.map Char.toLower)
  if word = "inf" || word = "infinity" then some (infinity negative)
  else if word = "nan" then some nan
  else readUnsigned negative s

/-- Reads a float from a text without surrounding blanks. -/
def read (s : List Char) : Option Binary64 :=
  match ungroup false s with
  | none => none
  | some ('-' :: r) => readMagnitude true r
  | some ('+' :: r) => readMagnitude false r
  | some r => readMagnitude false r

end Binary64

end EntityModel.Numeral
