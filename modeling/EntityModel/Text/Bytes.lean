import EntityModel.Text.Half

/-!
# Texts in bytes

Three ways to get a text out of bytes. Units of two or of four bytes give code points, where a half of a surrogate
pair without the other is kept. UTF-8 is read as it is, or else all that is no character is mended: the longest
beginning of a character becomes one replacement character, and so does a byte that begins none. A text without
halves has bytes in UTF-8 again.
-/

namespace EntityModel.Text

/-! ## Units -/

/-- The number that bytes denote, the highest first. -/
def ofHighFirst (bytes : List UInt8) : Nat := bytes.foldl (fun n b => 256 * n + b.toNat) 0

/-- The units of two bytes in a sequence, the high byte first or last. -/
def units (highFirst : Bool) : List UInt8 → Option (List Nat)
  | [] => some []
  | a :: b :: bs =>
      (units highFirst bs).map (ofHighFirst (if highFirst then [a, b] else [b, a]) :: ·)
  | _ => none

/-- The units of four bytes in a sequence, the high byte first or last. -/
def quads (highFirst : Bool) : List UInt8 → Option (List Nat)
  | [] => some []
  | a :: b :: c :: d :: bs =>
      (quads highFirst bs).map
        (ofHighFirst (if highFirst then [a, b, c, d] else [d, c, b, a]) :: ·)
  | _ => none

/-- The code points of units of two bytes. -/
def ofUnits : List Nat → List Nat
  | [] => []
  | [a] => [a]
  | a :: b :: us =>
      if isFirstHalf a && isSecondHalf b then ofPair a b :: ofUnits us else a :: ofUnits (b :: us)

/-- The code points of units of four bytes, if all are code points. -/
def ofQuads? (us : List Nat) : Option (List Nat) := if us.all (· < 0x110000) then some us else none

/-! ## UTF-8 -/

/-- The text of bytes, if they are one. -/
def ofUtf8? (bytes : List UInt8) : Option (List Char) :=
  (String.fromUTF8? ⟨bytes.toArray⟩).map fun s => ofPlain s.toList

/-- The bytes of a text, if it holds no half. -/
def utf8? (s : String) : Option (List UInt8) :=
  if hasHalf s then none else some (String.ofList ((codes s.toList).map Char.ofNat)).toUTF8.toList

/-! ## Mending -/

/-- What must follow a first byte: a number of bytes, and the bounds of the next one. -/
structure Continuation where
  /-- How many bytes. -/
  count : Nat
  /-- The least byte that may be next. -/
  least : Nat
  /-- The greatest byte that may be next. -/
  greatest : Nat

/-- What must follow a byte that begins a character of several. -/
def continuation? (b : Nat) : Option Continuation :=
  if 0xC2 ≤ b && b ≤ 0xDF then some ⟨1, 0x80, 0xBF⟩
  else if b = 0xE0 then some ⟨2, 0xA0, 0xBF⟩
  else if b = 0xED then some ⟨2, 0x80, 0x9F⟩
  else if 0xE1 ≤ b && b ≤ 0xEF then some ⟨2, 0x80, 0xBF⟩
  else if b = 0xF0 then some ⟨3, 0x90, 0xBF⟩
  else if b = 0xF4 then some ⟨3, 0x80, 0x8F⟩
  else if 0xF1 ≤ b && b ≤ 0xF3 then some ⟨3, 0x80, 0xBF⟩
  else none

/-- The bits of a first byte that belong to the code point. -/
def leadBits (b count : Nat) : Nat := b % Nat.pow 2 (6 - count)

/-- The character that stands for what is no character. -/
def replacement : Char := Char.ofNat 0xFFFD

/-- The characters of bytes, mended; `open?` is a code point so far, with what must still follow. -/
def mendedFrom (open? : Option (Nat × Continuation)) : List UInt8 → List Char
  | [] => if open?.isSome then [replacement] else []
  | b :: bs =>
      let b := b.toNat
      let fresh : Option (Nat × Continuation) := (continuation? b).map fun k => (leadBits b k.count, k)
      let start : List Char :=
        if b < 0x80 then [Char.ofNat b] else if fresh.isSome then [] else [replacement]
      match open? with
      | none => start ++ mendedFrom fresh bs
      | some (n, k) =>
          if k.least ≤ b && b ≤ k.greatest then
            let n := 64 * n + b % 64
            if k.count ≤ 1 then Char.ofNat n :: mendedFrom none bs
            else mendedFrom (some (n, ⟨k.count - 1, 0x80, 0xBF⟩)) bs
          else replacement :: (start ++ mendedFrom fresh bs)

/-- The text of bytes in UTF-8, mended. -/
def mended (bytes : List UInt8) : List Char := ofPlain (mendedFrom none bytes)

/-- A text without its halves: each has three bytes that are mended. -/
def withoutHalves (s : String) : String :=
  String.ofList ((codes s.toList).flatMap fun n =>
    if isHalfUnit n then [replacement, replacement, replacement] else ofCode n)

end EntityModel.Text
