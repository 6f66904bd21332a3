import EntityModel.Text.Half
import EntityModel.Text.HexDigit
import EntityModel.Yaml.Cursor

/-!
# Scalars

A scalar is written between quotes, plainly, or as a block of lines. Each has its own way to go over several
lines: quoted and plain scalars are folded, a block keeps its lines or folds them as its header says.

Each reader yields the text and the place behind it. Readers that loop take as many steps as there are
characters left.
-/

namespace EntityModel.Yaml

/-- Why a text cannot be read. -/
inductive Fault where
  /-- The text does not follow the grammar, or its content does not fit its tags. -/
  | malformed
  /-- A number or a date, or the code of a character, has no value; with the wording. -/
  | noValue (message : String)
  /-- A number is an empty text. -/
  | emptyNumber
  /-- A text that is marked as a truth value is not one of the words. -/
  | unknownWord
  /-- A text that is marked as a moment tells none. -/
  | noMoment
  /-- What is marked as a moment is not a scalar. -/
  | notScalar
  /-- A number has more sexagesimal places than a float has room for, or the code of a character has more than 31
  bits. -/
  | overflow
  /-- More collections within each other than are read. -/
  | tooDeep
  deriving DecidableEq, Repr

/-! ## Quoted scalars -/

/-- The line breaks that follow one, with the blanks around them left out. A mark of a document must not
stand at the start of a line. -/
def quotedBreaks : Nat → Cursor → Except Fault (List Char × Cursor)
  | 0, _ => .error .malformed
  | fuel + 1, c =>
      if c.startsAnyMark then .error .malformed
      else
        let c := c.skip isSpace
        match c.head? with
        | some x =>
            if isBreak x then do
              let (more, c) ← quotedBreaks fuel c.advance
              return (keptBreak x :: more, c)
            else .ok ([], c)
        | none => .ok ([], c)

/-- Blanks in a quoted scalar: kept within a line, folded if a line ends. -/
def quotedBlanks (c : Cursor) : Except Fault (List Char × Cursor) :=
  let (blanks, c) := c.span isSpace
  match c.head? with
  | none => .error .malformed
  | some x =>
      if isBreak x then do
        let (more, c) ← quotedBreaks (c.rest.length + 1) c.advance
        return (foldBreaks (keptBreak x) more, c)
      else .ok (blanks, c)

/-- The character for a letter behind a backslash. -/
def escapeLetters : List (Char × Nat) :=
  [('0', 0), ('a', 7), ('b', 8), ('t', 9), ('\t', 9), ('n', 0xA), ('v', 0xB), ('f', 0xC), ('r', 0xD),
   ('e', 0x1B), (' ', 0x20), ('"', 0x22), ('\\', 0x5C), ('/', 0x2F), ('N', 0x85), ('_', 0xA0),
   ('L', 0x2028), ('P', 0x2029)]

/-- How many hexadecimal digits follow a letter behind a backslash. -/
def escapeWidths : List (Char × Nat) := [('x', 2), ('u', 4), ('U', 8)]

/-- The number that exactly so many hexadecimal digits denote. -/
def hexNumber? (width : Nat) (s : List Char) : Option Nat :=
  let ds := s.take width
  if ds.length < width then none
  else ds.foldl (fun n c => match n, Text.hexDigit? c with | some n, some d => some (16 * n + d) | _, _ => none)
    (some 0)

/-- The code point with a number. -/
def coded (n : Nat) : Except Fault (List Char) :=
  if n < 0x110000 then .ok (Text.ofCode n)
  else if 0x80000000 ≤ n then .error .overflow
  else .error (.noValue "chr() arg not in range(0x110000)")

/-- What stands behind a backslash. -/
def quotedEscape (c : Cursor) : Except Fault (List Char × Cursor) :=
  match c.head? with
  | none => .error .malformed
  | some x =>
      match escapeLetters.lookup x with
      | some n => .ok ([Char.ofNat n], c.advance)
      | none =>
          match escapeWidths.lookup x with
          | some width =>
              match hexNumber? width c.advance.rest with
              | some n => do return (← coded n, c.advanceBy (width + 1))
              | none => .error .malformed
          | none =>
              if isBreak x then quotedBreaks (c.rest.length + 1) c.advance
              else .error .malformed

/-- The rest of a quoted scalar. -/
def quotedRest (quote : Char) : Nat → Cursor → Except Fault (List Char × Cursor)
  | 0, _ => .error .malformed
  | fuel + 1, c =>
      match c.head? with
      | none => .error .malformed
      | some x =>
          if x = quote && (quote = '"' || c.peek 1 ≠ some quote) then .ok ([], c.advance)
          else do
            let (part, c) ←
              if x = quote then .ok ([x], c.advanceBy 2)
              else if x = '\\' && quote = '"' then quotedEscape c.advance
              else if isSpace x || isBreak x then quotedBlanks c
              else .ok ([x], c.advance)
            let (more, c) ← quotedRest quote fuel c
            return (part ++ more, c)

/-- Reads a quoted scalar from its opening quote on. -/
def quotedScalar (quote : Char) (c : Cursor) : Except Fault (List Char × Cursor) :=
  quotedRest quote (c.rest.length + 1) c.advance

/-! ## Plain scalars -/

/-- The characters that mean something at the start of a token. -/
def indicators : List Char :=
  ['-', '?', ':', ',', '[', ']', '\x7b', '\x7d', '#', '&', '*', '!', '|', '>', Char.ofNat 0x27, '"', '%',
   '@', Char.ofNat 0x60]

/-- The characters that end a plain scalar between brackets. -/
def flowIndicators : List Char := [',', '?', '[', ']', '\x7b', '\x7d']

/-- A plain scalar starts here. -/
def startsPlain (flow : Bool) (c : Cursor) : Bool :=
  match c.head? with
  | none => false
  | some x =>
      (!endsWord (some x) && !indicators.contains x) ||
        (!endsWord (c.peek 1) && (x == '-' || (!flow && (x == '?' || x == ':'))))

/-- A colon ends a plain scalar if this follows. -/
def endsKey (flow : Bool) (c : Option Char) : Bool :=
  endsWord c || (flow && c.any fun c => [',', '[', ']', '\x7b', '\x7d'].contains c)

/-- The part of a plain scalar up to the next blank. -/
def plainWord (flow : Bool) : List Char → List Char
  | [] => []
  | x :: s =>
      if endsWord (some x) || (x == ':' && endsKey flow s.head?) || (flow && flowIndicators.contains x)
      then []
      else x :: plainWord flow s

/-- The line breaks that follow one in a plain scalar, with the spaces around them left out; none at the mark
of a document. -/
def plainBreaks : Nat → Cursor → Option (List Char) × Cursor
  | 0, c => (none, c)
  | fuel + 1, c =>
      if c.startsAnyMark then (none, c)
      else
        let c := c.skip (· == ' ')
        match c.head? with
        | some x =>
            if isBreak x then
              let (more, c) := plainBreaks fuel c.advance
              (more.map (keptBreak x :: ·), c)
            else (some [], c)
        | none => (some [], c)

/-- What may join two parts of a plain scalar: spaces, or folded line breaks. -/
structure Joint where
  /-- The text between the parts; none if the scalar ends here. -/
  text : Option (List Char)
  /-- The place behind. -/
  cursor : Cursor
  /-- A line has ended. -/
  crossed : Bool

/-- Reads what may join two parts of a plain scalar. -/
def plainJoint (c : Cursor) : Joint :=
  let (spaces, c) := c.span (· == ' ')
  match c.head? with
  | some x =>
      if isBreak x then
        let (more, c) := plainBreaks (c.rest.length + 1) c.advance
        { text := more.map (foldBreaks (keptBreak x)), cursor := c, crossed := true }
      else { text := if spaces.isEmpty then none else some spaces, cursor := c, crossed := false }
  | none => { text := if spaces.isEmpty then none else some spaces, cursor := c, crossed := false }

/-- Reads a plain scalar whose further lines are at a column at least; tells also whether a line ended
behind its last part. -/
def plainScalar (flow : Bool) (column : Int) (crossed : Bool) :
    Nat → Cursor → List Char × Cursor × Bool
  | 0, c => ([], c, crossed)
  | fuel + 1, c =>
      let word := if c.head? = some '#' then [] else plainWord flow c.rest
      if word.isEmpty then ([], c, crossed)
      else
        let j := plainJoint (c.advanceBy word.length)
        match j.text with
        | none => (word, j.cursor, j.crossed)
        | some between =>
            if j.cursor.head? = some '#' || (!flow && (j.cursor.column : Int) < column) then
              (word, j.cursor, j.crossed)
            else
              match plainScalar flow column j.crossed fuel j.cursor with
              | ([], c, crossed) => (word, c, crossed)
              | (more, c, crossed) => (word ++ between ++ more, c, crossed)

/-! ## Block scalars -/

/-- What the header of a block says. -/
structure BlockHeader where
  /-- The breaks at the end are kept (`true`) or dropped (`false`); one is kept if nothing is said. -/
  keep : Option Bool := none
  /-- The indentation of the block, if it is given. -/
  indentation : Option Nat := none

/-- A sign of a header. -/
def keepSign? (c : Option Char) : Option Bool :=
  match c with
  | some '+' => some true
  | some '-' => some false
  | _ => none

/-- A digit of a header; zero is no indentation. -/
def indentationDigit? (c : Option Char) : Except Fault (Option Nat) :=
  match c with
  | some x =>
      if x = '0' then .error .malformed
      else if x.isDigit then .ok (some (x.toNat - 0x30))
      else .ok none
  | none => .ok none

/-- Reads the header of a block: a sign and a digit in either order, and nothing else on the line. -/
def blockHeader (c : Cursor) : Except Fault (BlockHeader × Cursor) := do
  let (header, c) ←
    match keepSign? c.head? with
    | some keep => do
        let c := c.advance
        match ← indentationDigit? c.head? with
        | some n => pure (({ keep, indentation := some n } : BlockHeader), c.advance)
        | none => pure ({ keep }, c)
    | none => do
        match ← indentationDigit? c.head? with
        | some n =>
            let c := c.advance
            match keepSign? c.head? with
            | some keep => pure ({ keep, indentation := some n }, c.advance)
            | none => pure ({ indentation := some n }, c)
        | none => pure ({}, c)
  if !endsField c.head? then .error .malformed
  else
    match c.skipComment with
    | some c => return (header, c)
    | none => .error .malformed

/-- The empty lines at the start of a block, and the greatest column that its spaces reach. -/
def blockStart (column : Nat) : Nat → Cursor → List Char × Nat × Cursor
  | 0, c => ([], column, c)
  | fuel + 1, c =>
      let c := c.skip (· == ' ')
      let column := max column c.column
      match c.head? with
      | some x =>
          if isBreak x then
            let (more, column, c) := blockStart column fuel c.advance
            (keptBreak x :: more, column, c)
          else ([], column, c)
      | none => ([], column, c)

/-- The empty lines before a line of a block. -/
def blockBreaks (indentation : Nat) : Nat → Cursor → List Char × Cursor
  | 0, c => ([], c)
  | fuel + 1, c =>
      let c := c.skipTo indentation
      match c.head? with
      | some x =>
          if isBreak x then
            let (more, c) := blockBreaks indentation fuel c.advance
            (keptBreak x :: more, c)
          else ([], c)
      | none => ([], c)

/-- What lies between two lines of a block. -/
def blockJoint (folded : Bool) (first next : Option Char) (ending : List Char) (breaks : List Char) :
    List Char :=
  let plain (c : Option Char) : Bool := !(c.any isSpace)
  if folded && ending == ['\n'] && plain first && plain next then
    (if breaks.isEmpty then [' '] else breaks)
  else ending ++ breaks

/-- The lines of a block, with the break of the last one and the empty lines behind it apart. -/
def blockLines (folded : Bool) (indentation : Nat) :
    Nat → Cursor → List Char × List Char × List Char × Cursor
  | 0, c => ([], [], [], c)
  | fuel + 1, c =>
      let first := c.head?
      let (line, c) := c.span (!isBreak ·)
      let ending := (c.head?.map keptBreak).toList
      let (breaks, c) := blockBreaks indentation (c.rest.length + 1) c.advance
      if c.column = indentation && c.head?.isSome then
        let between := blockJoint folded first c.head? ending breaks
        let (more, ending, breaks, c) := blockLines folded indentation fuel c
        (line ++ between ++ more, ending, breaks, c)
      else (line, ending, breaks, c)

/-- Reads a block scalar behind its indicator, inside a block that starts at a column. -/
def blockScalar (folded : Bool) (column : Int) (c : Cursor) : Except Fault (List Char × Cursor) := do
  let (header, c) ← blockHeader c
  let least := (column + 1).toNat.max 1
  let (start, indentation, c) :=
    match header.indentation with
    | none =>
        let (breaks, reached, c) := blockStart 0 (c.rest.length + 1) c
        (breaks, max least reached, c)
    | some n =>
        let indentation := least + n - 1
        let (breaks, c) := blockBreaks indentation (c.rest.length + 1) c
        (breaks, indentation, c)
  let (lines, ending, breaks, c) :=
    if c.column = indentation && c.head?.isSome then
      let (lines, ending, breaks, c) := blockLines folded indentation (c.rest.length + 1) c
      (start ++ lines, ending, breaks, c)
    else ([], [], start, c)
  let tail :=
    match header.keep with
    | none => ending
    | some false => []
    | some true => ending ++ breaks
  return (lines ++ tail, c)

end EntityModel.Yaml
