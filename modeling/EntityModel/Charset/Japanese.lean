import EntityModel.Charset.Chart.JisExtension
import EntityModel.Charset.Chart.JisX0208
import EntityModel.Charset.Chart.JisX0212
import EntityModel.Charset.Decoder

/-!
# Japanese bytes

Extended Unix code writes the two charts with high bytes and puts a byte before katakana in half width and before
the second chart. Shift JIS lays the rows of the first chart out in pairs, behind first bytes that are no katakana.
Places behind the last row stand for private characters.
-/

namespace EntityModel.Charset.Japanese

/-! ## Charts with private rows -/

/-- The character at a place of a chart whose rows from the 85th on are private, starting with `first`. -/
def charOrPrivate? (chart : Chart) (first place : Nat) : Option Char :=
  if place < 94 * 84 then chart.get? place else private? first 940 (place - 94 * 84)

/-- The first private character of the first chart, and of the second one. -/
def privateStarts : Nat × Nat := (0xE000, 0xE3AC)

/-- The first chart as makers of personal computers have it: six signs in full width, and the additions. -/
def widened : Chart :=
  [.ofLines 32 ["～∥"], .ofLines 60 ["－"], .ofLines 80 ["￠￡"], .ofLines 137 ["￢"]] ++
    JisX0208.chart ++ JisExtension.chart

/-! ## Extended Unix code -/

/-- The characters at a byte, and how many bytes follow it. -/
def extendedPiece? (b : UInt8) (rest : List UInt8) : Option (List Char × Nat) :=
  if b < 0x80 then some ([Char.ofNat b.toNat], 0)
  else
    match b, rest with
    | 0x8E, c :: _ => (Page.katakana? c).map fun k => ([k], 1)
    | 0x8F, c :: d :: _ =>
        ((cell? c d).bind (charOrPrivate? JisX0212.chart privateStarts.2)).map fun k => ([k], 2)
    | _, c :: _ => ((cell? b c).bind (charOrPrivate? JisX0208.chart privateStarts.1)).map fun k => ([k], 1)
    | _, [] => none

/-- Extended Unix code. -/
def extended : Decoder Unit := .plain extendedPiece?

/-! ## Shift JIS -/

/-- The place of two bytes: a first byte covers two rows. -/
def shiftedPlace? (a b : UInt8) : Option Nat := do
  let pair ←
    if 0x81 ≤ a && a ≤ 0x9F then some (a.toNat - 0x81)
    else if 0xE0 ≤ a && a ≤ 0xFC then some (a.toNat - 0xC1)
    else none
  let inside ←
    if 0x40 ≤ b && b ≤ 0x7E then some (b.toNat - 0x40)
    else if 0x80 ≤ b && b ≤ 0xFC then some (b.toNat - 0x41)
    else none
  return 188 * pair + inside

/-- The character of a place: behind the 94 rows there are private characters in twenty more. -/
def shiftedChar? (chart : Chart) (place : Nat) : Option Char :=
  (chart.get? place).or (if 94 * 94 ≤ place then private? 0xE000 1880 (place - 94 * 94) else none)

/-- The characters at a byte, and how many bytes follow it, given a page for the first 128 and a chart. -/
def shiftedPiece? (page : Page) (chart : Chart) (b : UInt8) (rest : List UInt8) : Option (List Char × Nat) :=
  if b < 0x80 then (page.char? b).map fun k => ([k], 0)
  else
    match Page.katakana? b, rest with
    | some k, _ => some ([k], 0)
    | none, c :: _ => ((shiftedPlace? b c).bind (shiftedChar? chart)).map fun k => ([k], 1)
    | none, [] => none

/-- Shift JIS, where the yen sign and the overline are among the first 128. -/
def shifted : Decoder Unit := .plain (shiftedPiece? .japaneseRoman JisX0208.chart)

/-- Code page 932: Shift JIS with ASCII and with the additions. -/
def page932 : Decoder Unit := .plain (shiftedPiece? .ascii widened)

end EntityModel.Charset.Japanese
