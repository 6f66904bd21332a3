import EntityModel.Xml.Scan

/-!
# The head of a document

A document may begin with a declaration: a version, then the name of an encoding, then whether the document stands
alone. The version and the name are read twice: as bytes, since the name tells how the bytes behind it are read, and
then as the first characters of the document.
-/

namespace EntityModel.Xml.Scan

/-- A part of the declaration: a name, an equals sign and a value in quotes. -/
def declarationPart (name : String) (p : Char → Bool) : Scan (List Char) := do
  literal name
  let _ ← space
  literal "="
  let _ ← space
  quotedBy p

/-- A version that is understood: major number one. -/
def isVersion : List Char → Bool
  | '1' :: '.' :: minor => minor.all Char.isDigit
  | _ => false

/-- The name of an encoding: a letter, then letters, digits and three marks. -/
def isEncodingName : List Char → Bool
  | [] => false
  | c :: s => c.isAlpha && s.all fun c => c.isAlphanum || c == '.' || c == '_' || c == '-'

/-- The version behind the opening of a declaration. -/
def versionPart : Scan (List Char) := do
  space1
  let version ← declarationPart "version" fun c => c.isDigit || c == '.'
  require (isVersion version)
  return version

/-- The encoding of a declaration. -/
def encodingPart : Scan (List Char) := do
  let name ← declarationPart "encoding" isXmlChar
  require (isEncodingName name)
  return name

/-- The name of the encoding at the front of a document, up to the quote behind it. -/
def headEncoding : Scan String := do
  literal "<?xml"
  let _ ← versionPart
  space1
  return String.ofList (← encodingPart)

end EntityModel.Xml.Scan
