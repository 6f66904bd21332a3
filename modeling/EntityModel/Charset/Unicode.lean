import EntityModel.Charset.Decoder
import EntityModel.Text.Base64
import EntityModel.Text.Bytes
import EntityModel.Text.HexDigit

/-!
# Code points in bytes

The charsets that have every code point: UTF-8, units of two and of four bytes, UTF-7, and two charsets with
escapes for what is not ASCII.

Units either have an order that the name of the charset fixes, or they have the high byte first until a mark says
otherwise; a mark may stand anywhere and counts from there on. In UTF-7 a plus sign opens a run of characters in
base 64, where six bits of a unit are one character, and the first byte that is none of them closes it.
-/

namespace EntityModel.Charset.Unicode

/-- The character of a code point, if it has one. -/
def scalar? (n : Nat) : Option Char := if n.isValidChar then some (Char.ofNat n) else none

/-- The characters of code points, if each has one. -/
def scalars? (ns : List Nat) : Option (List Char) := ns.mapM scalar?

/-! ## Units in a fixed order -/

/-- The characters of bytes in UTF-8. -/
def utf8? (bytes : List UInt8) : Option (List Char) :=
  (String.fromUTF8? ⟨bytes.toArray⟩).map String.toList

/-- The characters of units of two bytes, where a character may take a pair. -/
def utf16? (highFirst : Bool) (bytes : List UInt8) : Option (List Char) :=
  (Text.units highFirst bytes).bind fun us => scalars? (Text.ofUnits us)

/-- The characters of units of two bytes, one each. -/
def ucs2? (highFirst : Bool) (bytes : List UInt8) : Option (List Char) :=
  (Text.units highFirst bytes).bind scalars?

/-- The characters of units of four bytes. -/
def utf32? (highFirst : Bool) (bytes : List UInt8) : Option (List Char) :=
  (Text.quads highFirst bytes).bind scalars?

/-! ## Units with marks -/

/-- A unit with its bytes in the other order. -/
def reversed (width unit : Nat) : Nat :=
  (List.range width).foldl (fun n i => 256 * n + unit / Nat.pow 256 i % 256) 0

/-- The characters of units, where a mark does not count and a mark in the wrong order turns it over; `acc` holds the
ones before, in reverse. -/
def marked? (width : Nat) (turned : Bool) (acc : List Char) : List Nat → Option (List Char)
  | [] => some acc.reverse
  | u :: us =>
      let n := if turned then reversed width u else u
      if n = 0xFEFF then marked? width turned acc us
      else if n = reversed width 0xFEFF then marked? width (!turned) acc us
      else (scalar? n).bind fun c => marked? width turned (c :: acc) us

/-- The characters of units of two bytes with marks. -/
def markedUcs2? (bytes : List UInt8) : Option (List Char) := (Text.units true bytes).bind (marked? 2 false [])

/-- The characters of units of four bytes with marks. -/
def markedUtf32? (bytes : List UInt8) : Option (List Char) := (Text.quads true bytes).bind (marked? 4 false [])

/-! ## UTF-7 -/

/-- A byte that stands for itself outside base 64. -/
def isDirect (b : UInt8) : Bool :=
  b == 0x09 || b == 0x0A || b == 0x0D || (0x20 ≤ b && b < 0x7E && b != 0x2B && b != 0x5C)

/-- Where a text in UTF-7 is. -/
inductive Base64State where
  /-- Outside base 64. -/
  | outside
  /-- Inside, with some bits that have not made a unit, how many they are, how many characters have been read behind
  the last unit, and the first unit of a pair. -/
  | inside (bits count read : Nat) (half : Option Nat)
  deriving DecidableEq, Repr

/-- The step behind one more unit. -/
def unitStep? (bits count unit : Nat) : Option Nat → Option (Step Base64State)
  | none =>
      if Text.isFirstHalf unit then some ⟨[], 0, .inside bits count 1 (some unit)⟩
      else (scalar? unit).map fun c => ⟨[c], 0, .inside bits count 0 none⟩
  | some half =>
      if Text.isSecondHalf unit then
        some ⟨[Char.ofNat (Text.ofPair half unit)], 0, .inside bits count 0 none⟩
      else none

/-- The step at a character of base 64. -/
def digitStep? (bits count read : Nat) (half : Option Nat) (digit : Nat) : Option (Step Base64State) :=
  let bits := 64 * bits + digit
  let count := count + 6
  if count < 16 then some ⟨[], 0, .inside bits count (read + 1) half⟩
  else
    let left := Nat.pow 2 (count - 16)
    unitStep? (bits % left) (count - 16) (bits / left) half

/-- The step at a byte outside base 64. -/
def outsideStep? (b : UInt8) (rest : List UInt8) : Option (Step Base64State) :=
  match b, rest with
  | 0x2B, 0x2D :: _ => some ⟨['+'], 1, .outside⟩
  | 0x2B, _ :: _ => some ⟨[], 0, .inside 0 0 0 none⟩
  | b, _ => if isDirect b then some ⟨[Char.ofNat b.toNat], 0, .outside⟩ else none

/-- The step at a byte. Bits left over at the end of a run must be zero, and fewer than six. -/
def utf7Step? : Base64State → UInt8 → List UInt8 → Option (Step Base64State)
  | .outside, b, rest => outsideStep? b rest
  | .inside bits count read half, b, rest =>
      match Text.Base64.bits? (Char.ofNat b.toNat) with
      | some digit => digitStep? bits count read half digit
      | none =>
          if bits != 0 || read != 0 then none
          else if b = 0x2D then some ⟨[], 0, .outside⟩
          else outsideStep? b rest

/-- UTF-7. -/
def utf7 : Decoder Base64State := ⟨.outside, utf7Step?⟩

/-! ## Escapes -/

/-- The number that hexadecimal digits at the front of the bytes denote, so many of them. -/
def hex? (count : Nat) (bytes : List UInt8) : Option Nat :=
  if bytes.length < count then none
  else (bytes.take count).foldlM (fun n b => (Text.hexDigit? (Char.ofNat b.toNat)).map (16 * n + ·)) 0

/-- A code point that the first charset with escapes may escape. -/
def mayEscape (n : Nat) : Bool := n == 0x24 || n == 0x40 || n == 0x60 || (0xA0 ≤ n && !Text.isHalfUnit n)

/-- The characters at a byte of the charset with escapes of four or of eight digits, and how many bytes follow it. A
backslash that does not open one stands for itself. -/
def longEscapePiece? (b : UInt8) (rest : List UInt8) : Option (List Char × Nat) :=
  let escape : Option (Nat × Nat) :=
    match b, rest with
    | 0x5C, 0x75 :: s => (hex? 4 s).map (·, 5)
    | 0x5C, 0x55 :: s => (hex? 8 s).map (·, 9)
    | _, _ => none
  match escape with
  | some (n, more) => if mayEscape n then (scalar? n).map fun c => ([c], more) else none
  | none => if b < 0xA0 then some ([Char.ofNat b.toNat], 0) else none

/-- Escapes of four or of eight digits. -/
def longEscapes : Decoder Unit := .plain longEscapePiece?

/-- An escape of four digits behind its backslash. -/
def shortEscape? : List UInt8 → Option Nat
  | 0x75 :: s => hex? 4 s
  | _ => none

/-- The characters at a byte of the charset with escapes of four digits, and how many bytes follow it. Two escapes
may be a pair; a backslash that does not open a character stands for itself. -/
def shortEscapePiece? (b : UInt8) (rest : List UInt8) : Option (List Char × Nat) :=
  if 0x80 ≤ b then none
  else
    let itself := some ([Char.ofNat b.toNat], 0)
    match if b = 0x5C then shortEscape? rest else none with
    | none => itself
    | some n =>
        if !Text.isHalfUnit n then some ([Char.ofNat n], 5)
        else
          match rest.drop 5 with
          | 0x5C :: s =>
              match shortEscape? s with
              | some m =>
                  if Text.isFirstHalf n && Text.isSecondHalf m then some ([Char.ofNat (Text.ofPair n m)], 11)
                  else itself
              | none => itself
          | _ => itself

/-- Escapes of four digits. -/
def shortEscapes : Decoder Unit := .plain shortEscapePiece?

end EntityModel.Charset.Unicode
