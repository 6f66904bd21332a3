import EntityModel.Xml.Scan

/-!
# Markup

The content of an element as a sequence of tokens: tags, runs of characters, references to entities,
comments and processing instructions. A character reference and a reference to one of the five predefined
entities is the character it stands for. References to other entities stay references, in content and in
attribute values, since what they stand for is declared elsewhere.

A token is well-formed by itself. That tags match, that names have no stray colon, that entities and
namespace labels are declared and that no attribute is repeated is not a matter of single tokens.
-/

namespace EntityModel.Xml

/-- A part of an attribute value or of the text of an entity. -/
inductive Piece where
  | char (c : Char)
  /-- A reference to an entity. -/
  | reference (name : String)
  deriving DecidableEq, Repr

/-- An attribute as written in a start tag. -/
structure RawAttribute where
  name : RawName
  /-- Its value, white space already replaced by blanks. -/
  value : List Piece

/-- A part of the content of an element. -/
inductive Token where
  /-- A start tag; `closed` if the element ends with it. -/
  | startTag (name : RawName) (attributes : List RawAttribute) (closed : Bool)
  /-- An end tag with its name as written. -/
  | endTag (name : String)
  /-- Character data. -/
  | characters (s : List Char)
  /-- A reference to an entity. -/
  | reference (name : String)
  | comment
  /-- A processing instruction. -/
  | instruction (target : String)

namespace Scan

/-! ## References -/

/-- The entities that need no declaration. -/
def predefined : List (String × Char) :=
  [("lt", '<'), ("gt", '>'), ("amp", '&'), ("quot", Char.ofNat 0x22), ("apos", Char.ofNat 0x27)]

/-- The number that digits denote in a base, each digit given by what it is worth. -/
def ofDigitValues (base : Nat) (ds : List Nat) : Nat := ds.foldl (fun n d => base * n + d) 0

/-- What a hexadecimal digit is worth. -/
def hexValue (c : Char) : Nat :=
  if c.isDigit then c.toNat - 0x30 else if c.isUpper then c.toNat - 0x37 else c.toNat - 0x57

/-- A hexadecimal digit. -/
def isHexDigit (c : Char) : Bool :=
  c.isDigit || ('a' ≤ c && c ≤ 'f') || ('A' ≤ c && c ≤ 'F')

/-- The digits of a character reference and the semicolon behind them. -/
def charReference : Scan Char := do
  let hex ← literal? "x"
  let digits ← takeWhile (if hex then isHexDigit else Char.isDigit)
  require !digits.isEmpty
  literal ";"
  let n := ofDigitValues (if hex then 16 else 10) (digits.map hexValue)
  -- a surrogate is no character, and the conversion makes it the one that is not allowed
  let c := Char.ofNat n
  require (c.toNat == n && isXmlChar c)
  return c

/-- What follows an ampersand. -/
def reference : Scan Piece := do
  if ← literal? "#" then
    return .char (← charReference)
  else
    let name ← anyName
    literal ";"
    match predefined.lookup name with
    | some c => return .char c
    | none => return .reference name

/-! ## Attributes -/

/-- The pieces of an attribute value up to its closing quote; `acc` holds the ones before, in reverse. -/
def valuePieces (quote : Char) : Nat → List Piece → Scan (List Piece)
  | 0, _ => fail
  | fuel + 1, acc => do
      let c ← satisfy fun c => isXmlChar c && c != '<'
      if c == quote then return acc.reverse
      else if c == '&' then
        let p ← reference
        valuePieces quote fuel (p :: acc)
      else valuePieces quote fuel (.char (if isXmlSpace c then ' ' else c) :: acc)

/-- An attribute value in quotes. -/
def attributeValue : Scan (List Piece) := do
  let quote ← satisfy fun c => c.toNat == 0x22 || c.toNat == 0x27
  let s ← rest
  valuePieces quote (s.length + 1) []

def rawAttribute : Scan RawAttribute := do
  let name ← anyName
  let _ ← space
  literal "="
  let _ ← space
  let value ← attributeValue
  return ⟨.ofTag name, value⟩

/-- The attributes of a start tag and its end. -/
def attributesAndEnd : Nat → List RawAttribute → Scan (List RawAttribute × Bool)
  | 0, _ => fail
  | fuel + 1, acc => do
      let spaced ← space
      if ← literal? ">" then return (acc.reverse, false)
      else if ← literal? "/>" then return (acc.reverse, true)
      else
        require spaced
        let a ← rawAttribute
        attributesAndEnd fuel (a :: acc)

/-! ## Tokens -/

/-- A comment behind its opening; it may not hold two hyphens in a row. -/
def commentBody : Scan Unit := do
  let _ ← upTo "--"
  literal ">"

/-- A processing instruction behind its opening; gives its target, which may not be the name of the
declaration. -/
def instructionBody : Scan String := do
  let target ← anyName
  require (target.toLower != "xml")
  let spaced ← space
  let body ← upTo "?>"
  require (spaced || body.isEmpty)
  return target

/-- A start tag behind its opening. -/
def startTag : Scan Token := do
  let name ← anyName
  let s ← rest
  let (attributes, closed) ← attributesAndEnd (s.length + 1) []
  return .startTag (.ofTag name) attributes closed

/-- An end tag behind its opening. -/
def endTag : Scan Token := do
  let name ← anyName
  let _ ← space
  literal ">"
  return .endTag name

/-- Character data up to the next markup. The end mark of a marked section may not stand in it. -/
def characters : Scan Token := do
  let s ← takeWhile fun c => c != '<' && c != '&'
  require (!s.isEmpty && s.all isXmlChar && (splitAt "]]>".toList [] s).isNone)
  return .characters s

/-- One token of content. -/
def token : Scan Token := do
  if ← literal? "&" then
    match ← reference with
    | .char c => return .characters [c]
    | .reference name => return .reference name
  else if ← literal? "<!--" then
    commentBody
    return .comment
  else if ← literal? "<![CDATA[" then
    return .characters (← upTo "]]>")
  else if ← literal? "<?" then
    return .instruction (← instructionBody)
  else if ← literal? "</" then endTag
  else if ← literal? "<" then startTag
  else characters

/-- The tokens of content up to the end of the characters; `acc` holds the ones before, in reverse. -/
def tokensFuel : Nat → List Token → List Char → Option (List Token)
  | 0, _, _ => none
  | _ + 1, acc, [] => some acc.reverse
  | fuel + 1, acc, c :: s =>
      match token (c :: s) with
      | some (t, r) => tokensFuel fuel (t :: acc) r
      | none => none

end Scan

/-- The tokens that a text consists of, if it is made of well-formed tokens. -/
def Token.ofChars? (s : List Char) : Option (List Token) := Scan.tokensFuel (s.length + 1) [] s

end EntityModel.Xml
