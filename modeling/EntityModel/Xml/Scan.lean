import EntityModel.Text.Blank

/-!
# Scanning the characters of a document

A scanner takes a part off the front of the characters and leaves the rest, or fails. Here are the
character classes of XML and the scanners that everything else is made of: names, quoted literals, the
blank between two parts. `Scan.many` repeats a scanner as often as the length of the input allows.
-/

namespace EntityModel.Xml

/-! ## Character classes -/

/-- A character that may occur in a document. -/
def isXmlChar (c : Char) : Bool :=
  let n := c.toNat
  n == 0x9 || n == 0xA || n == 0xD || (0x20 ≤ n && n ≤ 0xD7FF) || (0xE000 ≤ n && n ≤ 0xFFFD) ||
    (0x10000 ≤ n && n ≤ 0x10FFFF)

/-- White space between the parts of markup. -/
def isXmlSpace (c : Char) : Bool := c == ' ' || c == '\t' || c == '\n' || c == '\r'

/-- The characters beyond ASCII that may start a name, as closed ranges. -/
def nameStartRanges : List (Nat × Nat) :=
  [(0xC0, 0xD6), (0xD8, 0xF6), (0xF8, 0x2FF), (0x370, 0x37D), (0x37F, 0x1FFF), (0x200C, 0x200D),
   (0x2070, 0x218F), (0x2C00, 0x2FEF), (0x3001, 0xD7FF), (0xF900, 0xFDCF), (0xFDF0, 0xFFFD),
   (0x10000, 0xEFFFF)]

/-- A character that may start a name without a colon. -/
def isNameStart (c : Char) : Bool :=
  c.isAlpha || c == '_' || Text.inRanges nameStartRanges c.toNat

/-- A character that may continue a name without a colon. -/
def isNameChar (c : Char) : Bool :=
  isNameStart c || c.isDigit || c == '-' || c == '.' || c.toNat == 0xB7 ||
    (0x300 ≤ c.toNat && c.toNat ≤ 0x36F) || (0x203F ≤ c.toNat && c.toNat ≤ 0x2040)

/-! ## Scanners -/

/-- A scanner of parts of type `α`. -/
abbrev Scan (α : Type) := StateT (List Char) Option α

namespace Scan

/-- No part at all can be read here. -/
def fail {α : Type} : Scan α := fun _ => none

/-- Goes on only under a condition. -/
def require (b : Bool) : Scan Unit := if b then pure () else fail

/-- The characters that have not been read. -/
def rest : Scan (List Char) := get

/-- The part, if it can be read here; otherwise nothing is consumed. -/
def optional {α : Type} (p : Scan α) : Scan (Option α) := fun s =>
  match p s with
  | some (a, r) => some (some a, r)
  | none => some (none, s)

/-- One character of a kind. -/
def satisfy (p : Char → Bool) : Scan Char
  | c :: r => if p c then some (c, r) else none
  | [] => none

/-- What stands behind a given text at the front of the characters. -/
def stripLiteral : List Char → List Char → Option (List Char)
  | [], s => some s
  | _ :: _, [] => none
  | l :: ls, c :: s => if l = c then stripLiteral ls s else none

/-- A given text. -/
def literal (text : String) : Scan Unit := fun s => (stripLiteral text.toList s).map fun r => ((), r)

/-- A given text, if it stands here. -/
def literal? (text : String) : Scan Bool := fun s =>
  match stripLiteral text.toList s with
  | some r => some (true, r)
  | none => some (false, s)

/-- The longest run of characters of a kind. -/
def takeWhile (p : Char → Bool) : Scan (List Char) := fun s =>
  let (a, r) := s.span p
  some (a, r)

/-- White space, if any; tells whether there was some. -/
def space : Scan Bool := do
  let s ← takeWhile isXmlSpace
  return !s.isEmpty

/-- White space of at least one character. -/
def space1 : Scan Unit := do
  require (← space)

/-- Repeats a scanner until it fails, at most a number of times. -/
def manyFuel {α : Type} (p : Scan α) : Nat → Scan (List α)
  | 0 => pure []
  | fuel + 1 => do
      match ← optional p with
      | none => pure []
      | some a => return a :: (← manyFuel p fuel)

/-- Repeats a scanner that consumes characters until it fails. -/
def many {α : Type} (p : Scan α) : Scan (List α) := fun s => manyFuel p s.length s

/-- The characters before and behind a text that ends a construct; `acc` holds the ones passed, in
reverse. -/
def splitAt (stop acc : List Char) : List Char → Option (List Char × List Char)
  | [] => none
  | c :: s =>
      match stripLiteral stop (c :: s) with
      | some r => some (acc.reverse, r)
      | none => splitAt stop (c :: acc) s

/-- The characters up to a text that ends a construct; all of them must be allowed in a document. -/
def upTo (stop : String) : Scan (List Char) := fun s =>
  match splitAt stop.toList [] s with
  | some (a, r) => if a.all isXmlChar then some (a, r) else none
  | none => none

/-- A literal in quotes of either kind, whose characters are of a kind. -/
def quotedBy (p : Char → Bool) : Scan (List Char) := do
  let q ← satisfy fun c => c.toNat == 0x22 || c.toNat == 0x27
  let s ← takeWhile fun c => c != q && p c
  let _ ← satisfy (· == q)
  return s

/-- The longest name, in bytes. -/
def maxNameSize : Nat := 50000

/-- A name, colons allowed anywhere. -/
def anyName : Scan String := do
  let c ← satisfy fun c => isNameStart c || c == ':'
  let s ← takeWhile fun c => isNameChar c || c == ':'
  let name := String.ofList (c :: s)
  require (name.utf8ByteSize ≤ maxNameSize)
  return name

/-- A name token: a run of name characters. -/
def nameToken : Scan String := do
  let s ← takeWhile fun c => isNameChar c || c == ':'
  require !s.isEmpty
  return String.ofList s

end Scan

/-! ## Whole texts -/

/-- A name without a colon. -/
def isNcName : List Char → Bool
  | [] => false
  | c :: s => isNameStart c && s.all isNameChar

/-- A name, colons allowed anywhere. -/
def isAnyName : List Char → Bool
  | [] => false
  | c :: s => (isNameStart c || c == ':') && s.all fun c => isNameChar c || c == ':'

def isNameToken (s : List Char) : Bool := !s.isEmpty && s.all fun c => isNameChar c || c == ':'

/-! ## Names with a label -/

/-- A name that is cut at a colon: the label before it, empty if the name is not cut, and the local part. -/
structure RawName where
  /-- The label that stands for a namespace. -/
  label : String
  /-- The local part. -/
  localName : String
  deriving DecidableEq, Repr

namespace RawName

/-- The name as written. -/
def text (n : RawName) : String := if n.label = "" then n.localName else n.label ++ ":" ++ n.localName

/-- The parts of a text before and behind its first colon. -/
def cut (s : List Char) : List Char × List Char := (s.takeWhile (· != ':'), (s.dropWhile (· != ':')).drop 1)

/-- The name in a tag. It is cut only where two names without a colon are left. -/
def ofTag (s : String) : RawName :=
  let (a, b) := cut s.toList
  if isNcName a && isNcName b then ⟨String.ofList a, String.ofList b⟩ else ⟨"", s⟩

/-- The name in a declaration. It is cut at the first colon, unless that leaves nothing on a side. -/
def ofDeclaration (s : String) : RawName :=
  let (a, b) := cut s.toList
  if a.isEmpty || b.isEmpty then ⟨"", s⟩ else ⟨String.ofList a, String.ofList b⟩

/-- A name in a tag that has no stray colon. -/
def regular (n : RawName) : Bool := !n.localName.toList.contains ':'

end RawName

end EntityModel.Xml
