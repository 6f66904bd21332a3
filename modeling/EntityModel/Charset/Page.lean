/-!
# Pages

A page gives a byte one character. It lists the characters of the last bytes; each byte before them stands for
the code point of its number, unless the page changes it. A byte that stands for no character is listed as the
replacement character.

A page may also join a letter and a mark behind it. It does so in turns: what the first turn has made of two
characters may be joined to a mark again in the next one, but not in the same.
-/

namespace EntityModel.Charset

/-- A mark in a list of characters: nothing is assigned to the place. -/
def unassigned : Char := '\ufffd'

/-- What a mark makes of the letters before it. -/
structure Joining where
  mark : Char
  letters : String
  /-- The letters with the mark, in the same order. -/
  joined : String

/-- A letter with the mark. -/
def Joining.apply? (j : Joining) (letter : Char) : Option Char :=
  (j.letters.toList.zip j.joined.toList).lookup letter

/-- The characters of single bytes. -/
structure Page where
  /-- The characters of the last bytes. -/
  last : String
  /-- The bytes before them that do not stand for the code point of their number. -/
  changed : List (Nat × Char) := []
  /-- What marks are joined to, turn by turn. -/
  turns : List (List Joining) := []

namespace Page

/-! ## Bytes -/

/-- The character of a byte, given the characters of the last bytes and the changes. -/
def charOf? (last : Array Char) (changed : List (Nat × Char)) (b : UInt8) : Option Char :=
  let first := 256 - last.size
  if b.toNat < first then some ((changed.lookup b.toNat).getD (Char.ofNat b.toNat))
  else (last[b.toNat - first]?).filter (· != unassigned)

/-- The character of a byte. -/
def char? (p : Page) (b : UInt8) : Option Char := charOf? p.last.toList.toArray p.changed b

/-! ## Marks -/

def join? (turn : List Joining) (letter mark : Char) : Option Char :=
  (turn.find? fun j => j.mark == mark).bind fun j => j.apply? letter

/-- The characters after a turn; `acc` holds the ones before, in reverse. -/
def joinFrom (turn : List Joining) (acc : List Char) : List Char → List Char
  | a :: b :: s =>
      match join? turn a b with
      | some c => joinFrom turn (c :: acc) s
      | none => joinFrom turn (a :: acc) (b :: s)
  | s => acc.reverse ++ s

/-- The characters of a sequence of bytes, if every byte stands for one. -/
def decode? (p : Page) (bytes : List UInt8) : Option (List Char) :=
  let last := p.last.toList.toArray
  (bytes.mapM (charOf? last p.changed)).map fun s => p.turns.foldl (fun s turn => joinFrom turn [] s) s

/-! ## The plainest pages -/

/-- A page whose last bytes, so many, stand for nothing. -/
def short (count : Nat) (changed : List (Nat × Char)) : Page :=
  { last := String.ofList (List.replicate count unassigned), changed }

/-- The first 128 code points. -/
def ascii : Page := short 128 []

/-- The first 256 code points. -/
def latin1 : Page := { last := "" }

/-- The Japanese variant of the first 128: yen sign and overline. -/
def japaneseRoman : Page := short 128 [(0x5C, '¥'), (0x7E, '‾')]

/-- The Chinese variant of the first 128: yen sign and overline. -/
def chineseRoman : Page := short 128 [(0x24, '¥'), (0x7E, '‾')]

/-- The character of a byte of katakana in half width. -/
def katakana? (b : UInt8) : Option Char :=
  if 0xA1 ≤ b && b ≤ 0xDF then some (Char.ofNat (b.toNat + 0xFEC0)) else none

/-- The Japanese variant of the first 128 together with katakana. -/
def japanese : Page where
  last := String.ofList ((List.range 128).map fun i => (katakana? (i + 128).toUInt8).getD unassigned)
  changed := japaneseRoman.changed

/-- The names of the pages, in capitals. -/
def named : List (List String × Page) :=
  [(["ASCII", "US-ASCII", "ISO646-US", "ISO-IR-6", "ANSI_X3.4-1968", "ANSI_X3.4-1986", "CP367", "IBM367", "US",
     "CSASCII"], ascii),
   (["ISO-8859-1", "ISO-LATIN-1", "ISO_8859-1", "ISO8859-1", "LATIN1", "L1", "CP819", "IBM819", "CSISOLATIN1",
     "ISO-IR-100"], latin1),
   (["ISO646-JP", "JP", "JIS_C6220-1969-RO", "ISO-IR-14", "CSISO14JISC6220RO"], japaneseRoman),
   (["ISO646-CN", "CN", "GB_1988-80", "ISO-IR-57", "CSISO57GB1988"], chineseRoman),
   (["JIS_X0201", "JISX0201-1976", "X0201", "CSHALFWIDTHKATAKANA"], japanese)]

end Page

end EntityModel.Charset
