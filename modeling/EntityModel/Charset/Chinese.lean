import EntityModel.Charset.Chart.Big5
import EntityModel.Charset.Chart.Cns11643
import EntityModel.Charset.Chart.Gb2312
import EntityModel.Charset.Chart.GbExtension
import EntityModel.Charset.Chart.Hkscs
import EntityModel.Charset.Decoder

/-!
# Chinese bytes

GB 2312 is written with high bytes, or between braces with low ones. Its extension to rows of 190 places has every
ideograph of the first block: the ones that GB 2312 leaves out come in their order. GB 18030 fills all the rows, and
writes every other character with four bytes: the ones below 65536 again in their order, the others by their number.

Big5 has rows of 157 places. Two sets of additions go with it, one of makers and one of Hong Kong.
-/

namespace EntityModel.Charset.Chinese

/-- The characters at a byte, and how many bytes follow it, given the characters of two bytes. -/
def pairPiece? (pair? : UInt8 → UInt8 → Option (List Char)) (b : UInt8) (rest : List UInt8) :
    Option (List Char × Nat) :=
  if b < 0x80 then some ([Char.ofNat b.toNat], 0)
  else
    match rest with
    | c :: _ => (pair? b c).map fun k => (k, 1)
    | [] => none

/-! ## GB 2312 -/

/-- The character of two bytes of GB 2312. -/
def standard? (a b : UInt8) : Option Char := (cell? a b).bind Gb2312.chart.get?

/-- Extended Unix code. -/
def extended : Decoder Unit := .plain (pairPiece? fun a b => (standard? a b).map ([·]))

/-- The step of the code between braces; the state tells whether they are open. A tilde stands before a brace, a
tilde, or a line break that does not count. -/
def bracedStep? (isOpen : Bool) (b : UInt8) (rest : List UInt8) : Option (Step Bool) :=
  match isOpen, b, rest with
  | false, 0x7E, 0x7E :: _ => some ⟨['~'], 1, false⟩
  | false, 0x7E, 0x7B :: _ => some ⟨[], 1, true⟩
  | false, 0x7E, 0x0A :: _ => some ⟨[], 1, false⟩
  | true, 0x7E, 0x7D :: _ => some ⟨[], 1, false⟩
  | _, 0x7E, _ => none
  | false, b, _ => some ⟨[Char.ofNat b.toNat], 0, false⟩
  | true, b, c :: _ => ((lowCell? b c).bind Gb2312.chart.get?).map fun k => ⟨[k], 1, true⟩
  | true, _, [] => none

/-- GB 2312 between braces. -/
def braced : Decoder Bool := ⟨false, bracedStep?⟩

/-! ## The extension of GB 2312 -/

/-- How far the first byte is from 0x81, and the number of the second byte in a row of 190. -/
def wide? (a b : UInt8) : Option (Nat × Nat) :=
  if 0x81 ≤ a && a ≤ 0xFE then
    if 0x40 ≤ b && b ≤ 0x7E then some (a.toNat - 0x81, b.toNat - 0x40)
    else if 0x80 ≤ b && b ≤ 0xFE then some (a.toNat - 0x81, b.toNat - 0x41)
    else none
  else none

/-- The ideographs that GB 2312 leaves out, and the ones behind them. -/
def otherIdeographs : Array Char :=
  lacking Gb2312.chart.characters 0x4E00 20902 ++ GbExtension.compatible.toList.toArray

/-- The other ideographs: 190 in each of the first 32 rows, then 96 in each row from the 42nd on. -/
def otherIdeograph? (row inside : Nat) : Option Char :=
  if row < 32 then otherIdeographs[190 * row + inside]?
  else if 41 ≤ row && inside < 96 then otherIdeographs[190 * 32 + 96 * (row - 41) + inside]?
  else none

/-- The character of a place of the extension, where a place from the 33rd row and the 97th column on is one of
GB 2312. -/
def wideChar? (row inside : Nat) : Option Char :=
  ((GbExtension.signs.get? (190 * row + inside)).or
    (if 32 ≤ row && 96 ≤ inside then Gb2312.chart.get? (94 * (row - 32) + (inside - 96)) else none)).or
    (otherIdeograph? row inside)

/-- The private characters of a place: six rows and seven rows behind the columns of GB 2312, then seven rows before
them. -/
def userDefined? (row inside : Nat) : Option Char :=
  if 41 ≤ row && row < 47 && 96 ≤ inside then private? 0xE000 564 (94 * (row - 41) + (inside - 96))
  else if 119 ≤ row && 96 ≤ inside then private? 0xE234 658 (94 * (row - 119) + (inside - 96))
  else if 32 ≤ row && row < 39 && inside < 96 then private? 0xE4C6 672 (96 * (row - 32) + inside)
  else none

/-- The extension. -/
def wide : Decoder Unit :=
  .plain (pairPiece? fun a b => (wide? a b).bind fun p => (wideChar? p.1 p.2).map ([·]))

/-- The characters at a byte of code page 936, and how many bytes follow it: the extension with the euro sign, a
last byte that is private, and the private rows. -/
def page936Piece? (b : UInt8) (rest : List UInt8) : Option (List Char × Nat) :=
  if b = 0x80 then some (['€'], 0)
  else if b = 0xFF then some (['\uf8f5'], 0)
  else
    pairPiece? (fun a b =>
      (wide? a b).bind fun p => ((wideChar? p.1 p.2).or (userDefined? p.1 p.2)).map ([·])) b rest

/-- Code page 936. -/
def page936 : Decoder Unit := .plain page936Piece?

/-! ## GB 18030 -/

/-- A private character that a place is left to. -/
def left? (place : Nat) : Option Char :=
  GbExtension.left.findSome? fun l => if l.1 ≤ place then private? l.2.1 l.2.2 (place - l.1) else none

/-- The character of a place with two bytes in the first edition. -/
def twoByteChar? (row inside : Nat) : Option Char :=
  (((wideChar? row inside).or (GbExtension.later.get? (190 * row + inside))).or
    (userDefined? row inside)).or (left? (190 * row + inside))

/-- The characters with two bytes in the first edition. -/
def twoByteChars : List Char := (List.range (126 * 190)).filterMap fun i => twoByteChar? (i / 190) (i % 190)

/-- The characters from U+0080 to U+FFFF with four bytes in the first edition. -/
def fourByteChars : Array Char := lacking twoByteChars 0x80 (0x10000 - 0x80)

/-- In the second edition a letter and a private character have changed places. -/
def exchanged (c : Char) : Char :=
  if c = 'ḿ' then '\ue7c7' else if c = '\ue7c7' then 'ḿ' else c

/-- The number of four bytes, where the second and the fourth one are digits. -/
def fourByteNumber? (a b c d : UInt8) : Option Nat :=
  if 0x81 ≤ a && a ≤ 0xFE && 0x30 ≤ b && b ≤ 0x39 && 0x81 ≤ c && c ≤ 0xFE && 0x30 ≤ d && d ≤ 0x39 then
    some ((((a.toNat - 0x81) * 10 + (b.toNat - 0x30)) * 126 + (c.toNat - 0x81)) * 10 + (d.toNat - 0x30))
  else none

def fourByteChar? (number : Nat) : Option Char :=
  (fourByteChars[number]?).or
    (if 189000 ≤ number && number < 189000 + 0x100000 then some (Char.ofNat (0x10000 + (number - 189000)))
     else none)

/-- The characters at a byte of GB 18030, and how many bytes follow it. -/
def nationalPiece? (a : UInt8) (rest : List UInt8) : Option (List Char × Nat) :=
  if a < 0x80 then some ([Char.ofNat a.toNat], 0)
  else
    match rest with
    | [] => none
    | b :: rest =>
        match wide? a b, rest with
        | some p, _ => (twoByteChar? p.1 p.2).map fun k => ([exchanged k], 1)
        | none, c :: d :: _ => ((fourByteNumber? a b c d).bind fourByteChar?).map fun k => ([exchanged k], 3)
        | none, _ => none

/-- GB 18030. -/
def national : Decoder Unit := .plain nationalPiece?

/-! ## Big5 -/

/-- The place of two bytes in rows of 157. -/
def big5Place? (a b : UInt8) : Option Nat :=
  if 0x81 ≤ a && a ≤ 0xFE then
    if 0x40 ≤ b && b ≤ 0x7E then some (157 * (a.toNat - 0x81) + (b.toNat - 0x40))
    else if 0xA1 ≤ b && b ≤ 0xFE then some (157 * (a.toNat - 0x81) + (b.toNat - 0x62))
    else none
  else none

/-- The decoder of rows of 157 places, given the characters of a place. -/
def rows157 (place? : Nat → Option (List Char)) : Decoder Unit :=
  .plain (pairPiece? fun a b => (big5Place? a b).bind place?)

/-- Big5. -/
def big5 : Decoder Unit := rows157 fun place => (Big5.chart.get? place).map ([·])

/-- The private characters of a place in code page 950. -/
def page950Private? (place : Nat) : Option Char :=
  if 157 * 121 ≤ place then private? 0xE000 785 (place - 157 * 121)
  else if 157 * 69 + 63 ≤ place then private? 0xF6B1 408 (place - (157 * 69 + 63))
  else if 157 * 13 ≤ place then private? 0xE311 2983 (place - 157 * 13)
  else private? 0xEEB8 2041 place

/-- Code page 950. -/
def page950 : Decoder Unit :=
  rows157 fun place => (((Big5.pageChart ++ Big5.chart).get? place).or (page950Private? place)).map ([·])

/-- The four places with a letter and a mark that is no character together with it. -/
def marked : List (Nat × List Char) :=
  [(157 * 7 + 34, ['Ê', '\u0304']), (157 * 7 + 36, ['Ê', '\u030c']), (157 * 7 + 65, ['ê', '\u0304']),
   (157 * 7 + 67, ['ê', '\u030c'])]

/-- Big5 with the additions of Hong Kong. -/
def hongKong : Decoder Unit :=
  rows157 fun place => (marked.lookup place).or (((Big5.chart ++ Hkscs.chart).get? place).map ([·]))

/-! ## CNS 11643 -/

/-- The characters at a byte, and how many bytes follow it: two high bytes of the first plane, or four that tell the
plane. -/
def planesPiece? (a : UInt8) (rest : List UInt8) : Option (List Char × Nat) :=
  if a < 0x80 then some ([Char.ofNat a.toNat], 0)
  else
    match a, rest with
    | 0x8E, 0xA1 :: c :: d :: _ => ((cell? c d).bind Cns11643.plane1.get?).map fun k => ([k], 3)
    | 0x8E, 0xA2 :: c :: d :: _ => ((cell? c d).bind Cns11643.plane2.get?).map fun k => ([k], 3)
    | _, b :: _ => ((cell? a b).bind Cns11643.plane1.get?).map fun k => ([k], 1)
    | _, [] => none

/-- Extended Unix code for the planes. -/
def planes : Decoder Unit := .plain planesPiece?

end EntityModel.Charset.Chinese
