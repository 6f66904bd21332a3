import EntityModel.Text.Split

/-!
# Element trees

What remains of an XML document once it has been read: elements with their expanded names, attributes, text
and child elements. Comments and processing instructions leave no trace but one: the *text* of an element
is its character data before the first child element, processing instruction or entity reference. Comments
do not interrupt it.

Attributes are looked up without a namespace unless one is named.
-/

namespace EntityModel.Xml

/-- An expanded name: the namespace, empty if there is none, and the local part. -/
structure Name where
  /-- The namespace. -/
  space : String
  /-- The local part. -/
  localName : String
  deriving DecidableEq, Repr, Inhabited

/-- What is in the place of the local part of a name, if that is no name: a label that is not bound may be left in
front of it, and a colon may stand anywhere. A name is written with its namespace in braces, so whatever follows the
first closing brace is taken for the local part. -/
def Name.stray? (n : Name) : Option String :=
  match Text.cutFirst '\x7d' n.space.toList with
  | some (_, rest) => some (String.ofList rest ++ "\x7d" ++ n.localName)
  | none => if n.localName.toList.contains ':' then some n.localName else none

/-- An attribute. -/
structure Attribute where
  name : Name
  /-- Its value, normalised. -/
  value : String
  deriving DecidableEq, Repr

/-- An element. -/
inductive Element where
  /-- An element with its name, attributes, text and child elements. -/
  | mk (name : Name) (attributes : List Attribute) (text : String) (children : List Element)
  deriving Inhabited

namespace Element

def name : Element → Name
  | mk n _ _ _ => n

def attributes : Element → List Attribute
  | mk _ as _ _ => as

/-- The character data of an element before anything else in it. -/
def text : Element → String
  | mk _ _ t _ => t

/-- The child elements of an element, in order. -/
def children : Element → List Element
  | mk _ _ _ cs => cs

/-- The local part of the name of an element. -/
def localName (e : Element) : String := e.name.localName

/-- The value of an attribute in a namespace. -/
def attributeIn? (e : Element) (space name : String) : Option String :=
  (e.attributes.find? fun a => a.name = ⟨space, name⟩).map (·.value)

/-- The value of an attribute without a namespace. -/
def attribute? (e : Element) (name : String) : Option String := e.attributeIn? "" name

/-- The value of an attribute without a namespace, or the empty text. -/
def attributeD (e : Element) (name : String) : String := (e.attribute? name).getD ""

/-- The child elements with one of some local names, in order. -/
def childrenNamed (e : Element) (names : List String) : List Element :=
  e.children.filter fun c => names.contains c.localName

end Element

end EntityModel.Xml
