import EntityModel.Json.Value
import EntityModel.Text.Half
import EntityModel.Text.Quoted

/-!
# Writing JSON

Two layouts of one value, in ASCII characters only. `Json.compact` writes it on one line in the given order
of members. `Json.render` sorts the members of every object by name and gives every item and member a line
of its own, indented by two blanks for each level; an empty array or object stays on its line.

Inside a text the quote and the backslash stand behind a backslash, five control characters have a letter,
and every other character outside the visible ASCII range is written in UTF-16 code units of four
hexadecimal digits. A float is written with all the digits of its exact decimal value.
-/

namespace EntityModel.Json

open Numeral (Binary64)

/-! ## Texts -/

/-- A code unit as an escape. -/
def unitEscape (n : Nat) : List Char := '\\' :: 'u' :: Text.Quoted.hex 4 n

/-- The code units of a code point in UTF-16. -/
def codeUnits (n : Nat) : List Nat :=
  if n < 0x10000 then [n] else [0xD800 + (n - 0x10000) / 0x400, 0xDC00 + (n - 0x10000) % 0x400]

/-- One code point as it stands inside a text. -/
def escape (n : Nat) : List Char :=
  match Char.ofNat n with
  | '"' => ['\\', '"']
  | '\\' => ['\\', '\\']
  | '\n' => ['\\', 'n']
  | '\r' => ['\\', 'r']
  | '\t' => ['\\', 't']
  | '\x0c' => ['\\', 'f']
  | '\x08' => ['\\', 'b']
  | c => if ' ' ≤ c && c ≤ '~' then [c] else (codeUnits n).flatMap unitEscape

/-- A text between quotes. -/
def quote (s : String) : List Char := '"' :: ((Text.codes s.toList).flatMap escape ++ ['"'])

/-! ## Numbers -/

/-- The exact decimal value of a finite float, with at least one digit behind the point and no zeros at its end
but that. -/
def exactDecimal (x : Binary64) : List Char :=
  let (n, q) := x.steps
  let places := (-q).toNat
  let digits := (toString (n * Nat.pow 2 q.toNat * Nat.pow 5 places)).toList
  let padded := List.replicate (places + 1 - digits.length) '0' ++ digits
  let whole := padded.take (padded.length - places)
  let fraction := ((padded.drop (padded.length - places)).reverse.dropWhile (· = '0')).reverse
  (if x.isNegative then ['-'] else []) ++ whole ++ '.' :: (if fraction.isEmpty then ['0'] else fraction)

/-- A float, with words for what has no decimal value. -/
def floatText (x : Binary64) : List Char :=
  if x.isNaN then "NaN".toList
  else if x.isInfinite then (if x.isNegative then "-Infinity" else "Infinity").toList
  else exactDecimal x

/-! ## One line -/

mutual

/-- A value on one line. -/
def compactChars : Json → List Char
  | .null => "null".toList
  | .bool b => (if b then "true" else "false").toList
  | .int n => (toString n).toList
  | .float x => floatText x
  | .text s => quote s
  | .list items => '[' :: compactItems items
  | .object fields => '\x7b' :: compactFields fields

/-- The rest of an array, from an item on. -/
def compactItems : List Json → List Char
  | [] => [']']
  | [v] => compactChars v ++ [']']
  | v :: vs => compactChars v ++ ',' :: compactItems vs

/-- The rest of an object, from a member on. -/
def compactFields : List (String × Json) → List Char
  | [] => ['\x7d']
  | [(n, v)] => quote n ++ ':' :: compactChars v ++ ['\x7d']
  | (n, v) :: fs => quote n ++ ':' :: compactChars v ++ ',' :: compactFields fs

end

/-- The value on one line, members in their own order. -/
def compact (v : Json) : String := String.ofList (compactChars v)

/-! ## Sorted and indented -/

/-- Inserts a member behind the ones with smaller names. -/
def insertSorted (f : String × Json) : List (String × Json) → List (String × Json)
  | [] => [f]
  | g :: gs => if g.1 < f.1 then g :: insertSorted f gs else f :: g :: gs

mutual

/-- The value with the members of every object in the order of their names. -/
def sorted : Json → Json
  | .list items => .list (sortedItems items)
  | .object fields => .object (sortedFields fields)
  | v => v

/-- Every item sorted inside. -/
def sortedItems : List Json → List Json
  | [] => []
  | v :: vs => sorted v :: sortedItems vs

/-- Every member sorted inside, and the members in order. -/
def sortedFields : List (String × Json) → List (String × Json)
  | [] => []
  | (n, v) :: fs => insertSorted (n, sorted v) (sortedFields fs)

end

/-- A line break and the indentation of a level. -/
def newline (level : Nat) : List Char := '\n' :: List.replicate (2 * level) ' '

mutual

/-- A value with its items and members on lines of their own, at a level of indentation. -/
def indentedChars (level : Nat) : Json → List Char
  | .list [] => ['[', ']']
  | .list (v :: vs) =>
      '[' :: newline (level + 1) ++ indentedChars (level + 1) v ++ indentedItems level vs
  | .object [] => ['\x7b', '\x7d']
  | .object ((n, v) :: fs) =>
      '\x7b' :: newline (level + 1) ++ quote n ++ ':' :: ' ' :: indentedChars (level + 1) v ++
        indentedFields level fs
  | .null => "null".toList
  | .bool b => (if b then "true" else "false").toList
  | .int n => (toString n).toList
  | .float x => floatText x
  | .text s => quote s

/-- The rest of an array behind an item. -/
def indentedItems (level : Nat) : List Json → List Char
  | [] => newline level ++ [']']
  | v :: vs => ',' :: newline (level + 1) ++ indentedChars (level + 1) v ++ indentedItems level vs

/-- The rest of an object behind a member. -/
def indentedFields (level : Nat) : List (String × Json) → List Char
  | [] => newline level ++ ['\x7d']
  | (n, v) :: fs =>
      ',' :: newline (level + 1) ++ quote n ++ ':' :: ' ' :: indentedChars (level + 1) v ++
        indentedFields level fs

end

/-- The value over several lines, members sorted by name. -/
def render (v : Json) : String := String.ofList (indentedChars 0 (sorted v))

end EntityModel.Json
