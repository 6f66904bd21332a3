import EntityModel.Charset.Chart.KsX1001
import EntityModel.Charset.Decoder

/-!
# Korean bytes

KS X 1001 has 2350 of the 11172 syllables. Extended Unix code writes it with high bytes. Code page 949 puts the
other syllables, in their order, around it. Johab spells a syllable: five bits each for the initial, the vowel and
the final.
-/

namespace EntityModel.Charset.Korean

/-- The syllables that KS X 1001 leaves out. -/
def otherSyllables : Array Char := lacking KsX1001.chart.characters 0xAC00 11172

/-! ## Extended Unix code -/

/-- The characters at a byte, and how many bytes follow it, given the character of two bytes. -/
def pairPiece? (pair? : UInt8 → UInt8 → Option Char) (b : UInt8) (rest : List UInt8) :
    Option (List Char × Nat) :=
  if b < 0x80 then some ([Char.ofNat b.toNat], 0)
  else
    match rest with
    | c :: _ => (pair? b c).map fun k => ([k], 1)
    | [] => none

/-- The character of two bytes of KS X 1001. -/
def standard? (a b : UInt8) : Option Char := (cell? a b).bind KsX1001.chart.get?

/-- Extended Unix code. -/
def extended : Decoder Unit := .plain (pairPiece? standard?)

/-! ## Code page 949 -/

/-- The number of a second byte among letters of both cases and high bytes. -/
def letterOrHigh? (b : UInt8) : Option Nat :=
  if 0x41 ≤ b && b ≤ 0x5A then some (b.toNat - 0x41)
  else if 0x61 ≤ b && b ≤ 0x7A then some (b.toNat - 0x61 + 26)
  else if 0x81 ≤ b && b ≤ 0xFE then some (b.toNat - 0x81 + 52)
  else none

/-- The other syllables: 178 behind each of the first 32 first bytes, then 84 before each row of KS X 1001. -/
def otherSyllable? (a b : UInt8) : Option Char := do
  let inside ← letterOrHigh? b
  if 0x81 ≤ a && a ≤ 0xA0 then otherSyllables[178 * (a.toNat - 0x81) + inside]?
  else if 0xA1 ≤ a && a ≤ 0xC6 && inside < 84 then otherSyllables[178 * 32 + 84 * (a.toNat - 0xA1) + inside]?
  else none

def privateRow? (a b : UInt8) : Option Char :=
  if b < 0xA1 then none
  else if a = 0xC9 then private? 0xE000 94 (b.toNat - 0xA1)
  else if a = 0xFE then private? 0xE05E 94 (b.toNat - 0xA1)
  else none

/-- The character of two bytes of code page 949. -/
def page949? (a b : UInt8) : Option Char :=
  ((otherSyllable? a b).or (standard? a b)).or (privateRow? a b)

/-- Code page 949. -/
def page949 : Decoder Unit := .plain (pairPiece? page949?)

/-! ## Johab -/

/-- What five bits of a spelling stand for. -/
inductive Slot where
  /-- No letter. -/
  | empty
  /-- The letter with a number among its kind. -/
  | letter (number : Nat)
  deriving DecidableEq, Repr

/-- The initial of five bits. -/
def initial? (n : Nat) : Option Slot :=
  if n = 1 then some .empty else if 2 ≤ n && n ≤ 20 then some (.letter (n - 2)) else none

/-- The vowel of five bits: the numbers run in groups of six with two left out between them. -/
def vowel? (n : Nat) : Option Slot :=
  if n = 2 then some .empty
  else if 3 ≤ n && n ≤ 29 && 2 ≤ n % 8 then some (.letter (n - 3 - 2 * (n / 8)))
  else none

/-- The final of five bits. -/
def final? (n : Nat) : Option Slot :=
  if n = 1 then some .empty
  else if 2 ≤ n && n ≤ 17 then some (.letter (n - 2))
  else if 19 ≤ n && n ≤ 29 then some (.letter (n - 3))
  else none

/-- The initials as letters of their own. -/
def initials : String := "ㄱㄲㄴㄷㄸㄹㅁㅂㅃㅅㅆㅇㅈㅉㅊㅋㅌㅍㅎ"

/-- The finals as letters of their own, where a final that is an initial as well does not count. -/
def finals : String :=
  "\ufffd\ufffdㄳ\ufffdㄵㄶ\ufffd\ufffdㄺㄻㄼㄽㄾㄿㅀ\ufffd\ufffdㅄ\ufffd\ufffd\ufffd\ufffd\ufffd\ufffd\ufffd" ++
    "\ufffd\ufffd"

/-- The letter or the syllable of a spelling. -/
def spelled? : Slot → Slot → Slot → Option Char
  | .letter i, .letter v, .letter f => some (Char.ofNat (0xAC00 + (i * 21 + v) * 28 + f + 1))
  | .letter i, .letter v, .empty => some (Char.ofNat (0xAC00 + (i * 21 + v) * 28))
  | .letter i, .empty, .empty => initials.toList[i]?
  | .empty, .letter v, .empty => some (Char.ofNat (0x314F + v))
  | .empty, .empty, .letter f => (finals.toList[f]?).filter (· != unassigned)
  | _, _, _ => none

/-- A spelling in two bytes. -/
def spelling? (a b : UInt8) : Option Char := do
  if 0x84 ≤ a && a ≤ 0xD3 && 0x41 ≤ b && b != 0x7F && b != 0x80 && b != 0xFF then
    let n := 256 * a.toNat + b.toNat
    spelled? (← initial? (n / 1024 % 32)) (← vowel? (n / 32 % 32)) (← final? (n % 32))
  else none

/-- The signs and the hanja of KS X 1001: a first byte covers two rows. -/
def signOrHanja? (a b : UInt8) : Option Char := do
  let pair ←
    if 0xD9 ≤ a && a ≤ 0xDE then some (2 * (a.toNat - 0xD9))
    else if 0xE0 ≤ a && a ≤ 0xF9 then some (2 * (a.toNat - 0xE0) + 41)
    else none
  let inside ←
    if 0x31 ≤ b && b ≤ 0x7E then some (b.toNat - 0x31)
    else if 0x91 ≤ b && b ≤ 0xFE then some (b.toNat - 0x43)
    else none
  if a = 0xDA && 0xA1 ≤ b && b ≤ 0xD3 then none
  else KsX1001.chart.get? (94 * pair + inside)

/-- The characters at a byte of Johab, and how many bytes follow it. The won sign is among the first 128. -/
def johabPiece? (b : UInt8) (rest : List UInt8) : Option (List Char × Nat) :=
  if b = 0x5C then some (['₩'], 0)
  else pairPiece? (fun a b => (spelling? a b).or (signOrHanja? a b)) b rest

def johab : Decoder Unit := .plain johabPiece?

end EntityModel.Charset.Korean
