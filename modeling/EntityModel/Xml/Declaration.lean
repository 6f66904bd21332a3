import EntityModel.Xml.Expansion

/-!
# Reading declarations

The declarations of a document type stand in its internal subset; nothing outside the document is read.
In the text of an entity the character references are resolved at once and the references to other entities
are kept. A parameter entity may be used between declarations; its text is then read as declarations too.
Within the text of an entity it may not be used, and one that is not declared cuts that text off.
-/

namespace EntityModel.Xml.Scan

/-- A part that has been found by other means, if it has. -/
def ofOption {α : Type} : Option α → Scan α
  | some a => pure a
  | none => fail

/-! ## Identifiers of resources -/

/-- The literal behind the system keyword. -/
def systemLiteral : Scan (List Char) := quotedBy isXmlChar

/-- A character of a public identifier. -/
def isPublicChar (c : Char) : Bool :=
  c == ' ' || c == '\n' || c == '\r' || c.isAlphanum || "-'()+,./:=?;!*#@$_%".toList.contains c

/-- The literal behind the public keyword. -/
def publicLiteral : Scan (List Char) := quotedBy isPublicChar

/-- A reference to a text elsewhere; gives its system literal. -/
def externalId : Scan (List Char) := do
  if ← literal? "SYSTEM" then
    space1
    systemLiteral
  else
    literal "PUBLIC"
    space1
    let _ ← publicLiteral
    space1
    systemLiteral

/-- A reference to a text elsewhere as an entity, which is never a part of that text. -/
def externalText : Scan Unit := do
  let system ← externalId
  require !(system.contains '#')

/-! ## Entities -/

/-- The text of an entity from its literal: character references resolved, other references checked and
kept. A parameter entity ends the text; its name is given too. -/
def entityText : Nat → List Char → List Char → Option (List Char × Option String)
  | 0, _, _ => none
  | _ + 1, acc, [] => some (acc.reverse, none)
  | _ + 1, acc, '%' :: s => do
      let (name, _) ← (do let n ← anyName; literal ";"; return n : Scan String) s
      return (acc.reverse, some name)
  | fuel + 1, acc, '&' :: '#' :: s => do
      let (c, r) ← charReference s
      entityText fuel (c :: acc) r
  | fuel + 1, acc, '&' :: s => do
      let (name, r) ← (do let n ← anyName; literal ";"; return n : Scan String) s
      entityText fuel (';' :: (name.toList.reverse ++ '&' :: acc)) r
  | fuel + 1, acc, c :: s => entityText fuel (c :: acc) s

/-- The literal of an internal entity, which is one more text to be open, so that `depth` may not be zero. A
parameter entity in it must be undeclared, and that must be no error. -/
def entityLiteral (depth : Nat) (d : Doctype) : Scan (Doctype × List Char) := do
  require (depth != 0)
  let s ← quotedBy isXmlChar
  let (text, parameter) ← ofOption (entityText (s.length + 1) [] s)
  match parameter with
  | none => return (d, text)
  | some name =>
      require (d.parameters.lookup name).isNone
      let d ← ofOption { d with incomplete := true }.undeclared?
      return (d, text)

/-- A literal stands here. -/
def atLiteral : Scan Bool := do
  let s ← rest
  return s.head?.any fun c => c.toNat == 0x22 || c.toNat == 0x27

/-- The name of an entity or a notation; a colon in it is a fault. -/
def declaredName (d : Doctype) : Scan (Doctype × String) := do
  let name ← anyName
  return (d.faultIf (name.toList.contains ':'), name)

def declarationEnd : Scan Unit := do
  let _ ← space
  literal ">"

/-- The declaration of a parameter entity behind its sign. -/
def parameterDeclaration (depth : Nat) (d : Doctype) : Scan Doctype := do
  space1
  let (d, name) ← declaredName d
  space1
  if ← atLiteral then
    let (d, text) ← entityLiteral depth d
    declarationEnd
    return d.addParameter name (some text)
  else
    externalText
    declarationEnd
    return d.addParameter name none

/-- An entity declaration behind its keyword. -/
def entityDeclaration (depth : Nat) (d : Doctype) : Scan Doctype := do
  space1
  if ← literal? "%" then parameterDeclaration depth d
  else
    let (d, name) ← declaredName d
    space1
    if ← atLiteral then
      let (d, text) ← entityLiteral depth d
      declarationEnd
      return d.addEntity name (.internal text)
    else
      externalText
      let spaced ← space
      if ← literal? "NDATA" then
        require spaced
        space1
        let _ ← optional anyName
        declarationEnd
        return d.addEntity name .unparsed
      else
        literal ">"
        return d.addEntity name .external

/-! ## Attributes -/

/-- One or more parts separated by bars, in parentheses. -/
def enumeration (part : Scan String) : Scan Unit := do
  literal "("
  let _ ← space
  let _ ← part
  let _ ← many do
    let _ ← space
    literal "|"
    let _ ← space
    part
  let _ ← space
  literal ")"

def attributeKind : Scan AttributeKind := do
  if ← literal? "CDATA" then return .text
  else if ← literal? "IDREFS" then return .names
  else if ← literal? "IDREF" then return .name
  else if ← literal? "ID" then return .identifier
  else if ← literal? "ENTITY" then return .name
  else if ← literal? "ENTITIES" then return .names
  else if ← literal? "NMTOKENS" then return .tokens
  else if ← literal? "NMTOKEN" then return .token
  else if ← literal? "NOTATION" then
    space1
    enumeration anyName
    return .name
  else
    enumeration nameToken
    return .tokens

def attributeDefault : Scan (Option (List Piece)) := do
  if ← literal? "#REQUIRED" then return none
  else if ← literal? "#IMPLIED" then return none
  else
    if ← literal? "#FIXED" then space1
    return some (← attributeValue)

/-- The attributes of an attribute list and its end. The references in a default must be to entities that are
declared before. `depth` bounds the nesting of entities. -/
def attributeRules (element : String) (depth : Nat) : Nat → Doctype → Scan Doctype
  | 0, _ => fail
  | fuel + 1, d => do
      if ← literal? ">" then return d
      else
        let name ← anyName
        space1
        let kind ← attributeKind
        space1
        let value ← attributeDefault
        let reckoning ← ofOption (d.approveValue? false depth d.reckoning (value.getD []))
        let fallback := value.map fun v =>
          let text := d.literal v
          if kind.tokenized then String.ofList (collapseBlanks text.toList) else text
        let spaced ← space
        let s ← rest
        require (spaced || s.head? == some '>')
        attributeRules element depth fuel
          ({ d with reckoning }.addRule ⟨element, name, kind, fallback⟩)

/-- An attribute list behind its keyword. -/
def attributeList (depth : Nat) (d : Doctype) : Scan Doctype := do
  space1
  let element ← anyName
  let _ ← space
  let s ← rest
  attributeRules element depth (s.length + 1) d

/-! ## Element types and notations -/

/-- How often a part of a content model may occur. -/
def occurrence : Scan Unit := do
  let _ ← optional (satisfy fun c => c == '?' || c == '*' || c == '+')

/-- How deep parentheses may be nested in a content model. -/
def maxModelDepth : Nat := 256

/-- A name in a content model. -/
def modelName : Scan Unit := do
  let _ ← anyName
  occurrence

/-- Parts of a content model behind an opening parenthesis, with one kind of separator, and the closing
one. -/
def modelParts (part : Scan Unit) : Scan Unit := do
  let _ ← space
  part
  let _ ← space
  match ← optional (satisfy fun c => c == '|' || c == ',') with
  | none => pure ()
  | some separator =>
      let _ ← space
      part
      let _ ← many do
        let _ ← space
        let _ ← satisfy (· == separator)
        let _ ← space
        part
      let _ ← space
  literal ")"
  occurrence

/-- A part of a content model: a name, or parts in parentheses, which are nested at most to a depth. -/
def contentPart : Nat → Scan Unit
  | 0 => modelName
  | depth + 1 => do
      if ← literal? "(" then modelParts (contentPart depth) else modelName

/-- Content that mixes characters with elements. -/
def mixedContent : Scan Unit := do
  literal "("
  let _ ← space
  literal "#PCDATA"
  let names ← many do
    let _ ← space
    literal "|"
    let _ ← space
    anyName
  let _ ← space
  literal ")"
  if names.isEmpty then
    let _ ← literal? "*"
  else literal "*"

/-- An element type declaration behind its keyword. -/
def elementDeclaration (d : Doctype) : Scan Doctype := do
  space1
  let name ← anyName
  space1
  if ← literal? "EMPTY" then pure ()
  else if ← literal? "ANY" then pure ()
  else if (← optional mixedContent).isSome then pure ()
  else
    let s ← rest
    require (s.head? == some '(')
    contentPart maxModelDepth
  declarationEnd
  return d.addElement name

/-- A notation declaration behind its keyword. -/
def notationDeclaration (d : Doctype) : Scan Doctype := do
  space1
  let (d, name) ← declaredName d
  space1
  if (← optional externalId).isNone then
    literal "PUBLIC"
    space1
    let _ ← publicLiteral
  declarationEnd
  return d.addNotation name

/-! ## The subset -/

/-- One declaration, comment or instruction. `depth` bounds the nesting of entities within it. -/
def declaration (depth : Nat) (d : Doctype) : Scan Doctype := do
  if ← literal? "<!--" then
    commentBody
    return d
  else if ← literal? "<?" then
    let target ← instructionBody
    return { d with reckoning := d.reckoning.instruction target }
  else if ← literal? "<!ENTITY" then entityDeclaration depth d
  else if ← literal? "<!ATTLIST" then attributeList depth d
  else if ← literal? "<!ELEMENT" then elementDeclaration d
  else
    literal "<!NOTATION"
    notationDeclaration d

/-- Reads the declarations up to the end of the characters or to a closing bracket. `fuel` bounds the
number of steps and `depth` the texts that may be open at once. -/
def declarations : Nat → Nat → Doctype → Scan Doctype
  | 0, _, _ => fail
  | _, 0, _ => fail
  | fuel + 1, depth + 1, d => do
      let _ ← space
      let s ← rest
      if s.isEmpty || s.head? == some ']' then return d
      else if ← literal? "%" then
        let name ← anyName
        literal ";"
        let d := { d with incomplete := true }
        match d.parameters.lookup name with
        | some (some text) =>
            match declarations (text.length + 1) depth d text with
            | some (inner, []) =>
                declarations fuel (depth + 1) (← ofOption (inner.spend? (byteSize text)))
            | _ => fail
        | some none => declarations fuel (depth + 1) d
        | none => declarations fuel (depth + 1) (← ofOption d.undeclared?)
      else declarations fuel (depth + 1) (← declaration depth d)
termination_by fuel depth => (depth, fuel)

/-- A document type declaration behind its opening. -/
def doctype (d : Doctype) : Scan Doctype := do
  space1
  let _ ← anyName
  let _ ← space
  let s ← rest
  let outside ← optional externalId
  let d := { d with incomplete := outside.isSome }
  let _ ← space
  if ← literal? "[" then
    let d ← declarations (s.length + 1) maxTexts d
    literal "]"
    declarationEnd
    return d
  else
    literal ">"
    return d

end EntityModel.Xml.Scan
