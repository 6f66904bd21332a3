import EntityModel.Json.Value
import EntityModel.Numeral.Integer
import EntityModel.Text.Half
import EntityModel.Text.HexDigit

/-!
# Reading JSON

A reader for JSON texts, with three numbers more than the standard has: `NaN`, `Infinity` and
`-Infinity`. Control characters are not allowed inside a text. A name that is written twice in an object
keeps its first place and its last value. The escape of a half of a surrogate pair without the other half
is kept as `Text.ofUnit` keeps it.

A failure is a place in the text, given by the characters from there to the end. `Json.read` turns it into
a position. Two failures are no matter of syntax: an integer of more digits than are read, and arrays and
objects within each other more deeply than are read.

Nested values are read with a bound on the number of calls, which the length of the text provides: every
call consumes a character.
-/

namespace EntityModel.Json

open Numeral (Binary64 IntegerFault)

/-- Why a text is not read as JSON. -/
inductive Fault where
  /-- The text stops being JSON at this position. -/
  | malformed (position : Nat)
  /-- An integer with more digits than are read. -/
  | integerTooLong (digits : Nat)
  /-- More arrays and objects within each other than are read. -/
  | tooDeep
  deriving DecidableEq, Repr

/-- How many arrays and objects may be within each other. -/
def maxDepth : Nat := 985

namespace Reader

/-- Where and why reading stopped. -/
inductive Stop where
  /-- The syntax is violated in front of these characters. -/
  | at (rest : List Char)
  /-- An integer with more digits than are read. -/
  | integerTooLong (digits : Nat)
  /-- More arrays and objects within each other than are read. -/
  | tooDeep

/-- What a part of the reader yields: a value and the characters behind it. -/
abbrev Result (α : Type) := Except Stop (α × List Char)

/-- White space between the parts of a text. -/
def isSpace (c : Char) : Bool := c == ' ' || c == '\t' || c == '\n' || c == '\r'

/-- The text without leading white space. -/
def skip (s : List Char) : List Char := s.dropWhile isSpace

/-! ## Texts -/

/-- The number that four hexadecimal digits denote. -/
def hex4? (a b c d : Char) : Option Nat :=
  match Text.hexDigit? a, Text.hexDigit? b, Text.hexDigit? c, Text.hexDigit? d with
  | some a, some b, some c, some d => some (((a * 16 + b) * 16 + c) * 16 + d)
  | _, _, _, _ => none

/-- The character behind a backslash, where it takes one letter. -/
def letter? : Char → Option Char
  | '"' => some '"'
  | '\\' => some '\\'
  | '/' => some '/'
  | 'b' => some '\x08'
  | 'f' => some '\x0c'
  | 'n' => some '\n'
  | 'r' => some '\r'
  | 't' => some '\t'
  | _ => none

/-- The escape that may complete a surrogate pair, at the backslash `next`: nothing if no escape with room
for a closing quote follows, otherwise its code unit, if its digits are digits. -/
def followingUnit (next : Char) : List Char → Option (Option Nat)
  | 'u' :: a :: b :: c :: d :: _ :: _ => if next = '\\' then some (hex4? a b c d) else none
  | _ => none

/-- What has been read, in reverse, with a further code point. -/
@[irreducible] def before (acc : List Char) (n : Nat) : List Char := (Text.ofCode n).reverse ++ acc

/-- Reads the rest of a text up to its closing quote. `start` is the input from the opening quote on, `acc`
what has been read, in reverse. -/
def readText (start : List Char) (acc : List Char) : List Char → Result String
  | [] => .error (.at start)
  | '"' :: r => .ok (String.ofList acc.reverse, r)
  | '\\' :: 'u' :: a :: b :: c :: d :: next :: r =>
      match hex4? a b c d with
      | none => .error (.at ('u' :: a :: b :: c :: d :: next :: r))
      | some n =>
          match if Text.isFirstHalf n then followingUnit next r else none with
          | none => readText start (before acc n) (next :: r)
          | some none => .error (.at r)
          | some (some m) =>
              if Text.isSecondHalf m then readText start (before acc (Text.ofPair n m)) (r.drop 5)
              else readText start (before acc n) (next :: r)
  | '\\' :: 'u' :: r => .error (.at ('u' :: r))
  | '\\' :: c :: r =>
      match letter? c with
      | some l => readText start (l :: acc) r
      | none => .error (.at ('\\' :: c :: r))
  | ['\\'] => .error (.at start)
  | c :: r => if c.toNat ≤ 0x1F then .error (.at (c :: r)) else readText start (c :: acc) r
termination_by s => s.length
decreasing_by all_goals simp only [List.length_cons, List.length_drop]; omega

/-! ## Numbers -/

/-- The fraction of a number, if a point with a digit behind it follows. -/
def fractionOf : List Char → List Char × List Char
  | '.' :: d :: r =>
      if d.isDigit then ('.' :: d :: r.takeWhile Char.isDigit, r.dropWhile Char.isDigit)
      else ([], '.' :: d :: r)
  | r => ([], r)

/-- The exponent of a number, if its mark, an optional sign and a digit follow. -/
def exponentOf (s : List Char) : List Char × List Char :=
  match s with
  | e :: r =>
      if e == 'e' || e == 'E' then
        let (sign, r') :=
          match r with
          | c :: r' => if c == '+' || c == '-' then ([c], r') else ([], r)
          | [] => ([], [])
        match r'.takeWhile Char.isDigit with
        | [] => ([], s)
        | ds => (e :: (sign ++ ds), r'.dropWhile Char.isDigit)
      else ([], s)
  | [] => ([], s)

/-- The whole part of a number: a zero, or digits that do not start with one. -/
def wholeOf : List Char → List Char × List Char
  | '0' :: r => (['0'], r)
  | r => (r.takeWhile Char.isDigit, r.dropWhile Char.isDigit)

/-- Reads a number; `s` is the input from its sign on. -/
def readNumber (s : List Char) : Result Json :=
  let (sign, r) :=
    match s with
    | '-' :: r => (['-'], r)
    | r => ([], r)
  match wholeOf r with
  | ([], _) => .error (.at s)
  | (whole, r) =>
      let (fraction, r) := fractionOf r
      let (exponent, r) := exponentOf r
      if fraction.isEmpty && exponent.isEmpty then
        match Numeral.readInteger (sign ++ whole) with
        | .ok n => .ok (.int n, r)
        | .error (.tooLong digits) => .error (.integerTooLong digits)
        | .error .malformed => .error (.at s)
      else
        match Binary64.read (sign ++ whole ++ fraction ++ exponent) with
        | some x => .ok (.float x, r)
        | none => .error (.at s)

/-! ## Values -/

mutual

/-- Reads one value; `depth` arrays and objects may still be within each other. -/
def readValue (depth : Nat) : Nat → List Char → Result Json
  | 0, s => .error (.at s)
  | fuel + 1, s =>
      match s with
      | '"' :: r => (readText s [] r).map fun p => (.text p.1, p.2)
      | '{' :: r =>
          match depth, skip r with
          | 0, _ => .error .tooDeep
          | _ + 1, '}' :: r => .ok (.object [], r)
          | depth + 1, r => readFields depth fuel [] r
      | '[' :: r =>
          match depth, skip r with
          | 0, _ => .error .tooDeep
          | _ + 1, ']' :: r => .ok (.list [], r)
          | depth + 1, r => readItems depth fuel [] r
      | 'n' :: 'u' :: 'l' :: 'l' :: r => .ok (.null, r)
      | 't' :: 'r' :: 'u' :: 'e' :: r => .ok (.bool true, r)
      | 'f' :: 'a' :: 'l' :: 's' :: 'e' :: r => .ok (.bool false, r)
      | 'N' :: 'a' :: 'N' :: r => .ok (.float Binary64.nan, r)
      | 'I' :: 'n' :: 'f' :: 'i' :: 'n' :: 'i' :: 't' :: 'y' :: r =>
          .ok (.float (Binary64.infinity false), r)
      | '-' :: 'I' :: 'n' :: 'f' :: 'i' :: 'n' :: 'i' :: 't' :: 'y' :: r =>
          .ok (.float (Binary64.infinity true), r)
      | s => readNumber s

/-- Reads the items of an array up to its closing bracket; `acc` holds the ones before, in reverse. -/
def readItems (depth : Nat) : Nat → List Json → List Char → Result Json
  | 0, _, s => .error (.at s)
  | fuel + 1, acc, s =>
      match readValue depth fuel s with
      | .error e => .error e
      | .ok (v, r) =>
          match skip r with
          | ']' :: r => .ok (.list (v :: acc).reverse, r)
          | ',' :: r => readItems depth fuel (v :: acc) (skip r)
          | r => .error (.at r)

/-- Reads the members of an object up to its closing brace; `acc` holds the ones before. -/
def readFields (depth : Nat) : Nat → List (String × Json) → List Char → Result Json
  | 0, _, s => .error (.at s)
  | fuel + 1, acc, s =>
      match s with
      | '"' :: r =>
          match readText s [] r with
          | .error e => .error e
          | .ok (name, r) =>
              match skip r with
              | ':' :: r =>
                  match readValue depth fuel (skip r) with
                  | .error e => .error e
                  | .ok (v, r) =>
                      match skip r with
                      | '}' :: r => .ok (.object (Table.put name v acc), r)
                      | ',' :: r => readFields depth fuel (Table.put name v acc) (skip r)
                      | r => .error (.at r)
              | r => .error (.at r)
      | s => .error (.at s)

end

end Reader

/-- Reads a text that holds one JSON value and white space around it. -/
def read (s : String) : Except Fault Json :=
  let cs := s.toList
  let fault : Reader.Stop → Fault
    | .at rest => .malformed (Text.codes (cs.take (cs.length - rest.length))).length
    | .integerTooLong digits => .integerTooLong digits
    | .tooDeep => .tooDeep
  match Reader.readValue maxDepth (cs.length + 1) (Reader.skip cs) with
  | .error e => .error (fault e)
  | .ok (v, r) => if (Reader.skip r).isEmpty then .ok v else .error (fault (.at (Reader.skip r)))

end EntityModel.Json
