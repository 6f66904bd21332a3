import EntityModel.Charset.Chinese
import EntityModel.Charset.Japanese
import EntityModel.Charset.Korean
import EntityModel.Charset.Page.Iso

/-!
# Switching sets

ISO 2022 keeps several sets of characters at hand and writes them all with low bytes. A text reads from its first
set. An escape sequence puts a set in the place of the first, the second or the third one. Two shift bytes change
between the first set and the second one, and an escape takes a single character of the third one. Behind a line
break the second and the third set are gone.

A `Profile` says which escape sequences and shifts a charset allows.
-/

namespace EntityModel.Charset.Iso2022

/-- A set of characters. -/
inductive GraphicSet where
  /-- One byte for a character. -/
  | single (char? : UInt8 → Option Char)
  /-- Two bytes for a character. -/
  | double (char? : UInt8 → UInt8 → Option Char)

/-- The character at the front of the bytes, and how many bytes follow the first one. -/
def GraphicSet.read? : GraphicSet → List UInt8 → Option (Char × Nat)
  | .single char?, a :: _ => (char? a).map fun k => (k, 0)
  | .double char?, a :: b :: _ => (char? a b).map fun k => (k, 1)
  | _, _ => none

/-- Where an escape sequence puts a set. -/
inductive Position where
  /-- The set that is read from. -/
  | first
  /-- The set that is read from after a shift. -/
  | second
  /-- The set of single characters. -/
  | third
  deriving DecidableEq, Repr

/-- An escape sequence. -/
structure Designation where
  /-- The bytes behind the escape. -/
  bytes : List UInt8
  /-- Where the set goes. -/
  position : Position
  set : GraphicSet

/-- What a charset allows. -/
structure Profile where
  /-- The escape sequences. -/
  designations : List Designation
  shifts : Bool

/-- The sets at hand. -/
structure Sets where
  first : GraphicSet
  second : Option GraphicSet := none
  third : Option GraphicSet := none
  /-- Whether the second set is read from. -/
  shifted : Bool := false

/-- The sets after an escape sequence. -/
def Sets.put (s : Sets) (d : Designation) : Sets :=
  match d.position with
  | .first => { s with first := d.set }
  | .second => { s with second := some d.set }
  | .third => { s with third := some d.set }

/-- The set that is read from. -/
def Sets.current? (s : Sets) : Option GraphicSet := if s.shifted then s.second else some s.first

def Sets.behind (s : Sets) (c : Char) : Sets :=
  if c == '\n' || c == '\r' then { s with second := none, third := none } else s

/-- The step behind an escape. -/
def escapeStep? (p : Profile) (s : Sets) (rest : List UInt8) : Option (Step Sets) :=
  match s.third, rest with
  | some set, 0x4E :: rest => (set.read? rest).map fun (c, n) => ⟨[c], n + 2, s⟩
  | _, _ =>
      (p.designations.find? fun d => d.bytes.isPrefixOf rest).map fun d => ⟨[], d.bytes.length, s.put d⟩

/-- The step at a byte. -/
def step? (p : Profile) (s : Sets) (b : UInt8) (rest : List UInt8) : Option (Step Sets) :=
  if b = 0x1B then escapeStep? p s rest
  else if p.shifts && b = 0x0E then if s.second.isSome then some ⟨[], 0, { s with shifted := true }⟩ else none
  else if p.shifts && b = 0x0F then some ⟨[], 0, { s with shifted := false }⟩
  else (s.current?.bind fun set => set.read? (b :: rest)).map fun (c, n) => ⟨[c], n, s.behind c⟩

/-! ## The sets -/

/-- The bytes of a page. -/
def ofPage (p : Page) : GraphicSet := .single p.char?

/-- The high bytes of a page, without their high bits. -/
def ofHighHalf (p : Page) : GraphicSet :=
  .single fun b => if 0x20 ≤ b && b < 0x80 then p.char? (b + 0x80) else none

/-- The places of a chart of 94 rows. -/
def ofPlaces (char? : Nat → Option Char) : GraphicSet := .double fun a b => (lowCell? a b).bind char?

def decoder (p : Profile) : Decoder Sets := ⟨{ first := ofPage .ascii }, step? p⟩

/-- The bytes of a text of ASCII characters. -/
def escape (s : String) : List UInt8 := s.toUTF8.toList

/-! ## Japanese -/

/-- The escape sequences that all the Japanese charsets have, given the first chart. -/
def japaneseCommon (chart : GraphicSet) : List Designation :=
  [⟨escape "(B", .first, ofPage .ascii⟩, ⟨escape "(J", .first, ofPage .japaneseRoman⟩,
   ⟨escape "$@", .first, chart⟩, ⟨escape "$B", .first, chart⟩]

def firstChart : GraphicSet := ofPlaces JisX0208.chart.get?

/-- The escape sequence of the second chart. -/
def secondChart : Designation := ⟨escape "$(D", .first, ofPlaces JisX0212.chart.get?⟩

/-- The first charset of mail. -/
def japanese : Decoder Sets := decoder ⟨japaneseCommon firstChart, false⟩

/-- The first extension, with the second chart. -/
def japanese1 : Decoder Sets := decoder ⟨secondChart :: japaneseCommon firstChart, false⟩

/-- The second extension, with Chinese and Korean, and with single characters of two pages. -/
def japanese2 : Decoder Sets :=
  decoder ⟨secondChart :: japaneseCommon firstChart ++
    [⟨escape "$A", .first, ofPlaces Gb2312.chart.get?⟩, ⟨escape "$(C", .first, ofPlaces KsX1001.chart.get?⟩,
     ⟨escape ".A", .third, ofHighHalf .latin1⟩, ⟨escape ".F", .third, ofHighHalf Iso.iso7⟩], false⟩

/-- The charset with katakana in half width, the additions and the private rows. -/
def japaneseWide : Decoder Sets :=
  decoder ⟨⟨escape "(I", .first, ofHighHalf .japanese⟩ ::
    ⟨escape "$(D", .first, ofPlaces (Japanese.charOrPrivate? JisX0212.chart Japanese.privateStarts.2)⟩ ::
    japaneseCommon (ofPlaces fun place =>
      ((JisX0208.chart ++ JisExtension.chart).get? place).or
        (Japanese.charOrPrivate? [] Japanese.privateStarts.1 place)), false⟩

/-! ## Korean and Chinese -/

/-- The Korean charset of mail. -/
def korean : Decoder Sets := decoder ⟨[⟨escape "$)C", .second, ofPlaces KsX1001.chart.get?⟩], true⟩

/-- The Chinese charset of mail: GB 2312 or the first plane, and single characters of the second plane. -/
def chinese : Decoder Sets :=
  decoder ⟨[⟨escape "$)A", .second, ofPlaces Gb2312.chart.get?⟩,
    ⟨escape "$)G", .second, ofPlaces Cns11643.plane1.get?⟩,
    ⟨escape "$*H", .third, ofPlaces Cns11643.plane2.get?⟩], true⟩

end EntityModel.Charset.Iso2022
