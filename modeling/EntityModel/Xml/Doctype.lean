import EntityModel.Text.Split
import EntityModel.Xml.Markup
import EntityModel.Xml.Reckoning

/-!
# Document types

A document type declares entities, attributes, element types and notations. Of two declarations of one
entity, or of one attribute of an element, the first counts. An element type or a notation that is declared
twice is a fault.

Whether an undeclared entity is an error depends on whether a declaration of it might have been missed: that
is so if there is an external subset or a parameter entity was used, unless the document says that it stands
alone.
-/

namespace EntityModel.Xml

/-- What a general entity stands for. -/
inductive Entity where
  /-- A text of the document itself. -/
  | internal (text : List Char)
  /-- A text elsewhere. -/
  | external
  /-- Data that is not markup. -/
  | unparsed
  deriving DecidableEq, Repr

/-! ## Kinds of attributes -/

/-- The kinds of values that an attribute may be declared to have. -/
inductive AttributeKind where
  /-- Any characters. -/
  | text
  /-- The identifier of an element. -/
  | identifier
  /-- A name: of an identifier, an entity or a notation. -/
  | name
  /-- Names separated by blanks. -/
  | names
  /-- A name token. -/
  | token
  /-- Name tokens separated by blanks; a choice among tokens is checked like one. -/
  | tokens
  deriving DecidableEq, Repr

namespace AttributeKind

/-- The value is made of tokens, so blanks at its ends and repeated blanks do not count. -/
def tokenized (k : AttributeKind) : Bool := k != text

/-- Parts of a kind, separated by single blanks. -/
def allParts (p : List Char → Bool) (s : List Char) : Bool := (Text.pieces ' ' s).all p

/-- A normalised value is of a kind. -/
def admits : AttributeKind → List Char → Bool
  | text, _ => true
  | identifier, s | name, s => isAnyName s
  | names, s => allParts isAnyName s
  | token, s => isNameToken s
  | tokens, s => allParts isNameToken s

end AttributeKind

/-- A value without blanks at its ends and with single blanks inside. -/
def collapseBlanks (s : List Char) : List Char :=
  [' '].intercalate ((Text.pieces ' ' s).filter fun p => !p.isEmpty)

/-! ## Declarations -/

/-- A declared attribute of an element type. -/
structure AttributeRule where
  /-- The element type, as written. -/
  element : String
  /-- The attribute, as written. -/
  name : String
  /-- The kind of its values. -/
  kind : AttributeKind
  /-- The value where the attribute is not written. References to entities stay as they are written. -/
  fallback : Option String
  deriving DecidableEq, Repr

namespace AttributeRule

/-- The rule is about an attribute of an element type. -/
def concerns (r : AttributeRule) (element name : String) : Bool := r.element = element && r.name = name

/-- The fallback, if there is one, is of the kind of the attribute. -/
def consistent (r : AttributeRule) : Bool := r.fallback.all fun v => r.kind.admits v.toList

end AttributeRule

/-- What a document type declares. -/
structure Doctype where
  /-- General entities. -/
  entities : List (String × Entity) := []
  /-- Parameter entities; those without a text are elsewhere. -/
  parameters : List (String × Option (List Char)) := []
  /-- The attributes that are declared, each by its first declaration. -/
  rules : List AttributeRule := []
  /-- The attributes whose values are made of tokens, each by the first declaration that says so. -/
  tokenized : List AttributeRule := []
  /-- The fallbacks that take part in the binding of labels. -/
  fallbacks : List AttributeRule := []
  /-- Element types. -/
  elements : List String := []
  notations : List String := []
  /-- A part of the declarations may be outside the document. -/
  incomplete : Bool := false
  /-- The document says that it stands alone. -/
  standalone : Bool := false
  /-- What has been noted so far. -/
  reckoning : Reckoning := {}

namespace Doctype

/-- An undeclared entity is no error. -/
def tolerant (d : Doctype) : Bool := d.incomplete && !d.standalone

/-- Notes a warning. -/
def warn (d : Doctype) : Doctype := { d with reckoning := d.reckoning.warn }

/-- Notes a fault under a condition. -/
def faultIf (b : Bool) (d : Doctype) : Doctype := { d with reckoning := d.reckoning.faultIf b }

/-- The document type after the use of an entity that is not declared, if that is no error. -/
def undeclared? (d : Doctype) : Option Doctype := if d.tolerant then some d.warn else none

/-! ### Entities -/

/-- A text denotes a character by its number, or is the character where that is no markup. -/
def denotes (c : Char) (s : List Char) : Bool :=
  (s = [c] && c != '<' && c != '&') ||
    s = "&#".toList ++ Nat.toDigits 10 c.toNat ++ [';'] ||
    (s.take 3 = "&#x".toList && (s.drop 3).map Char.toLower = Nat.toDigits 16 c.toNat ++ [';'])

/-- An entity may be declared under a name: a predefined one only as the character it stands for. -/
def permits (name : String) (e : Entity) : Bool :=
  match Scan.predefined.lookup name, e with
  | none, _ => true
  | some c, .internal text => denotes c text
  | some _, _ => false

/-- Adds a general entity, unless it is declared. -/
def addEntity (d : Doctype) (name : String) (e : Entity) : Doctype :=
  if !permits name e then d.warn
  else if (d.entities.lookup name).isSome then d
  else { d with entities := d.entities ++ [(name, e)] }

/-- Adds a parameter entity, unless it is declared. -/
def addParameter (d : Doctype) (name : String) (text : Option (List Char)) : Doctype :=
  if (d.parameters.lookup name).isSome then d
  else { d with parameters := d.parameters ++ [(name, text)] }

/-- The document type after a reference to a parameter entity with a text of some size, unless all references
together stand for too much. -/
def spend? (d : Doctype) (size : Nat) : Option Doctype :=
  (d.reckoning.spend? size).map fun reckoning => { d with reckoning }

/-! ### Attributes -/

/-- The rule for an attribute of an element type. -/
def rule? (d : Doctype) (element name : String) : Option AttributeRule :=
  d.rules.find? (·.concerns element name)

/-- The value of an attribute is made of tokens. -/
def isTokenized (d : Doctype) (element name : String) : Bool := d.tokenized.any (·.concerns element name)

/-- Adds a rule. A second rule for the same attribute is warned of and does not count. It is a fault if a
fallback is not of the kind of its attribute, if an element type has two identifiers, and if the universal
identifier is of another kind. -/
def addRule (d : Doctype) (r : AttributeRule) : Doctype :=
  let d := d.faultIf (r.name = "xml:id" && r.kind != .identifier)
  let d := d.faultIf !r.consistent
  let known := d.isTokenized r.element r.name
  let d :=
    if (d.rule? r.element r.name).isSome then d.warn
    else
      let second := r.kind = .identifier && d.rules.any fun q => q.element = r.element && q.kind = .identifier
      let counted := if r.consistent then r else { r with fallback := none }
      { d.faultIf second with rules := d.rules ++ [counted] }
  let d := if r.fallback.isSome && !known then { d with fallbacks := d.fallbacks ++ [r] } else d
  if r.kind.tokenized && !known then { d with tokenized := d.tokenized ++ [r] } else d

/-! ### Element types and notations -/

/-- Adds an element type. -/
def addElement (d : Doctype) (name : String) : Doctype :=
  let d := d.faultIf (d.elements.contains name)
  { d with elements := name :: d.elements }

def addNotation (d : Doctype) (name : String) : Doctype :=
  let d := d.faultIf (d.notations.contains name)
  { d with notations := name :: d.notations }

end Doctype

end EntityModel.Xml
