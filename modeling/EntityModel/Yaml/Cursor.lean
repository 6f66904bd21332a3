/-!
# Places in a text

Indentation means something in YAML, so reading keeps track of the line and the column. A *cursor* is a
place together with the characters behind it. The byte order mark takes no column.

Texts come with line feeds as their line breaks; three more characters break a line as well.
-/

namespace EntityModel.Yaml

/-- A character that ends a line. -/
def isBreak (c : Char) : Bool :=
  c == '\n' || c.toNat == 0x85 || c.toNat == 0x2028 || c.toNat == 0x2029

/-- A line break as it is kept in a text: the separators of lines and paragraphs stay what they are. -/
def keptBreak (c : Char) : Char := if c.toNat == 0x85 then '\n' else c

/-- A blank within a line. -/
def isSpace (c : Char) : Bool := c == ' ' || c == '\t'

/-- The line ends here. -/
def endsLine (c : Option Char) : Bool := c.all isBreak

/-- The line ends here, or a space follows. -/
def endsField (c : Option Char) : Bool := c.all fun c => isBreak c || c == ' '

/-- The line ends here, or a blank follows. -/
def endsWord (c : Option Char) : Bool := c.all fun c => isBreak c || isSpace c

def byteOrderMark : Char := Char.ofNat 0xFEFF

/-- A place in a text. -/
structure Cursor where
  /-- The characters from here on. -/
  rest : List Char
  /-- How many characters come before. -/
  index : Nat := 0
  /-- How many lines have ended before. -/
  line : Nat := 0
  /-- How many columns of the line come before. -/
  column : Nat := 0

namespace Cursor

/-- The next character. -/
def head? (c : Cursor) : Option Char := c.rest.head?

/-- The character behind a number of others. -/
def peek (c : Cursor) (n : Nat) : Option Char := c.rest[n]?

/-- The place behind the next character. -/
def advance (c : Cursor) : Cursor :=
  match c.rest with
  | [] => c
  | x :: rest =>
      if isBreak x then { rest, index := c.index + 1, line := c.line + 1, column := 0 }
      else if x = byteOrderMark then { c with rest, index := c.index + 1 }
      else { c with rest, index := c.index + 1, column := c.column + 1 }

/-- The place behind a number of characters. -/
def advanceBy (c : Cursor) : Nat → Cursor
  | 0 => c
  | n + 1 => c.advance.advanceBy n

/-- The longest run of characters of a kind, and the place behind it. -/
def span (c : Cursor) (p : Char → Bool) : List Char × Cursor :=
  let run := c.rest.takeWhile p
  (run, c.advanceBy run.length)

/-- The place behind the longest run of characters of a kind. -/
def skip (c : Cursor) (p : Char → Bool) : Cursor := (c.span p).2

/-- The place behind the spaces, at most up to a column. -/
def skipTo (c : Cursor) (column : Nat) : Cursor :=
  c.advanceBy (min (column - c.column) (c.rest.takeWhile (· == ' ')).length)

/-- The place behind the rest of a line after spaces and a comment, if there is nothing else. -/
def skipComment (c : Cursor) : Option Cursor :=
  let c := c.skip (· == ' ')
  let c := if c.head? = some '#' then c.skip (!isBreak ·) else c
  if endsLine c.head? then some c.advance else none

/-- Three dots or hyphens and a blank: the mark of the start or the end of a document. -/
def startsMark (c : Cursor) (x : Char) : Bool :=
  c.head? = some x && c.peek 1 = some x && c.peek 2 = some x && endsWord (c.peek 3)

/-- The mark of the start or the end of a document. -/
def startsAnyMark (c : Cursor) : Bool := c.startsMark '-' || c.startsMark '.'

end Cursor

/-- What lies between two lines of a folded text: a single line feed becomes a space, further breaks stay. -/
def foldBreaks (first : Char) (more : List Char) : List Char :=
  if first ≠ '\n' then first :: more
  else if more.isEmpty then [' '] else more

end EntityModel.Yaml
