import EntityModel.Literal
import EntityModel.Text.Bytes
import EntityModel.Yaml.Scalar

/-!
# Anchors, tags and directives

A node may carry an anchor, by which it is referred to later, and a tag, which says of what type it is. A tag is
written in full between angle brackets or with a handle that stands for its first part. Directives at the
start of a document say which version it follows and what its handles stand for.
-/

namespace EntityModel.Yaml

/-- A character of an anchor, a handle or the name of a directive. -/
def isWordChar (c : Char) : Bool := c.isAlphanum || c == '-' || c == '_'

/-- A character of a tag, apart from the escapes. -/
def isTagChar (c : Char) : Bool :=
  c.isAlphanum || "-;/?:@&=+$,_.!~*'()[]".toList.contains c

/-- A part, if the place behind it satisfies a condition. -/
def followedBy {α : Type} (ok : Option Char → Bool) (x : α × Cursor) : Except Fault (α × Cursor) :=
  if ok x.2.head? then .ok x else .error .malformed

/-! ## Anchors -/

/-- What may follow an anchor. -/
def endsAnchor (c : Option Char) : Bool :=
  endsWord c || c.any fun c => ['?', ':', ',', ']', '\x7d', '%', '@', Char.ofNat 0x60].contains c

/-- Reads the name of an anchor behind its indicator. -/
def anchorName (c : Cursor) : Except Fault (String × Cursor) :=
  let (name, c) := c.span isWordChar
  if name.isEmpty then .error .malformed
  else followedBy endsAnchor (String.ofList name, c)

/-! ## Tags -/

/-- The bytes of a run of escapes, each a percent sign and two hexadecimal digits. -/
def escapedBytes : List Char → Option (List UInt8)
  | '%' :: a :: b :: s =>
      match Text.hexByte? a b, escapedBytes s with
      | some byte, some more => some (byte :: more)
      | _, _ => none
  | '%' :: _ => none
  | _ => some []

/-- Reads the characters of a tag, escapes replaced. -/
def tagText : Nat → Cursor → Except Fault (List Char × Cursor)
  | 0, _ => .error .malformed
  | fuel + 1, c =>
      match c.head? with
      | some '%' =>
          match escapedBytes c.rest with
          | none => .error .malformed
          | some bytes =>
              match Text.ofUtf8? bytes with
              | none => .error .malformed
              | some part => do
                  let (more, c) ← tagText fuel (c.advanceBy (3 * bytes.length))
                  return (part ++ more, c)
      | some x =>
          if isTagChar x then do
            let (more, c) ← tagText fuel c.advance
            return (x :: more, c)
          else .ok ([], c)
      | none => .ok ([], c)

/-- Reads the characters of a tag; there must be some. -/
def tagUri (c : Cursor) : Except Fault (String × Cursor) := do
  let (s, c') ← tagText (c.rest.length + 1) c
  if c'.index = c.index then .error .malformed
  return (String.ofList s, c')

/-- Reads a handle: an exclamation mark, or a word between two of them. -/
def tagHandle (c : Cursor) : Except Fault (String × Cursor) :=
  if c.head? ≠ some '!' then .error .malformed
  else
    let (word, c) := c.advance.span isWordChar
    if c.head? = some '!' then .ok ("!" ++ String.ofList word ++ "!", c.advance)
    else if word.isEmpty && c.head? = some ' ' then .ok ("!", c)
    else .error .malformed

/-- The rest of the line up to a blank holds another exclamation mark. -/
def hasHandle (s : List Char) : Bool := (s.takeWhile fun c => !endsField (some c)).contains '!'

/-- A tag as it is written: a handle, if it has one, and the rest. -/
structure RawTag where
  handle : Option String
  /-- The rest. -/
  suffix : String

/-- Reads a tag. -/
def rawTag (c : Cursor) : Except Fault (RawTag × Cursor) := do
  let next := c.peek 1
  if next = some '<' then
    let (suffix, c) ← tagUri (c.advanceBy 2)
    if c.head? ≠ some '>' then .error .malformed
    followedBy endsField (⟨none, suffix⟩, c.advance)
  else if endsWord next then followedBy endsField (⟨none, "!"⟩, c.advance)
  else
    let (handle, c) ←
      if hasHandle (c.rest.drop 1) then tagHandle c else .ok ("!", c.advance)
    let (suffix, c) ← tagUri c
    followedBy endsField (⟨some handle, suffix⟩, c)

/-! ## Directives -/

/-- A directive. -/
inductive Directive where
  /-- The version that is followed, by its major number. -/
  | version (major : Nat)
  /-- What a handle stands for. -/
  | handle (name meaning : String)
  /-- Any other one; it means nothing. -/
  | other

/-- Reads a number of the version. -/
def versionNumber (c : Cursor) : Except Fault (Nat × Cursor) :=
  let (ds, c) := c.span Char.isDigit
  if ds.isEmpty then .error .malformed
  else
    match Numeral.readNatural ds with
    | .ok n => .ok (n, c)
    | .error f => .error (.noValue (LiteralFault.ofInteger (String.ofList ds) f).message)

/-- Reads what follows the name of a directive. -/
def directiveValue (name : String) (c : Cursor) : Except Fault (Directive × Cursor) := do
  if name = "YAML" then
    let (major, c) ← versionNumber (c.skip (· == ' '))
    if c.head? ≠ some '.' then .error .malformed
    let (_, c) ← versionNumber c.advance
    followedBy endsField (.version major, c)
  else if name = "TAG" then
    let (handle, c) ← tagHandle (c.skip (· == ' '))
    if c.head? ≠ some ' ' then .error .malformed
    let (meaning, c) ← tagUri (c.skip (· == ' '))
    followedBy endsField (.handle handle meaning, c)
  else .ok (.other, c.skip (!isBreak ·))

/-- Reads a directive from its percent sign on, with the end of its line. -/
def directive (c : Cursor) : Except Fault (Directive × Cursor) := do
  let (name, c) := c.advance.span isWordChar
  if name.isEmpty || !endsField c.head? then .error .malformed
  let (d, c) ← directiveValue (String.ofList name) c
  match c.skipComment with
  | some c => return (d, c)
  | none => .error .malformed

end EntityModel.Yaml
