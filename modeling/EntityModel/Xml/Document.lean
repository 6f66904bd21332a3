import EntityModel.Xml.Assembly
import EntityModel.Xml.Declaration
import EntityModel.Xml.Encoding

/-!
# Documents

A document is a declaration, comments and instructions, a document type, the root element, and comments and
instructions again. Only the root is kept. Line breaks of every kind become line feeds before anything
else is looked at.

`Document.read?` yields nothing if the document violates well-formedness anywhere, in its characters, its
markup, its namespaces or the nesting of its elements, and nothing either if what has been noted about it is
not acceptable.
-/

namespace EntityModel.Xml

/-- The characters with every line break as a single line feed; `acc` holds the ones before, in reverse. -/
def normalizeBreaks (acc : List Char) : List Char → List Char
  | [] => acc.reverse
  | '\r' :: '\n' :: s => normalizeBreaks ('\n' :: acc) s
  | '\r' :: s => normalizeBreaks ('\n' :: acc) s
  | c :: s => normalizeBreaks (c :: acc) s

namespace Scan

/-! ## The declaration -/

/-- The declaration behind its opening; tells whether the document says that it stands alone. A version other
than the first one is warned of. -/
def xmlDeclaration : Scan Doctype := do
  let version ← versionPart
  let spaced ← space
  let encoding ← optional encodingPart
  require (spaced || encoding.isNone)
  let spaced ← if encoding.isSome then space else pure spaced
  let alone ← optional (declarationPart "standalone" Char.isAlpha)
  require (alone.all fun a => spaced && (a == "yes".toList || a == "no".toList))
  let _ ← space
  literal "?>"
  let d : Doctype := { standalone := alone == some "yes".toList }
  return if version == "1.0".toList then d else d.warn

/-! ## Around the root -/

/-- A comment or an instruction, with the white space before it; gives the target of the instruction. -/
def misc : Scan (Option String) := do
  let _ ← space
  if ← literal? "<!--" then
    commentBody
    return none
  else
    literal "<?"
    return some (← instructionBody)

/-- The reckoning after comments and instructions. -/
def miscs (r : Reckoning) : Scan Reckoning := do
  let targets ← many misc
  let _ ← space
  return (targets.filterMap id).foldl Reckoning.instruction r

/-- Everything before the root. -/
def prolog : Scan Doctype := do
  let s ← rest
  let d ←
    if (stripLiteral "<?xml".toList s).any fun r => r.head?.any isXmlSpace then do
      literal "<?xml"
      xmlDeclaration
    else pure {}
  let d := { d with reckoning := ← miscs d.reckoning }
  if ← literal? "<!DOCTYPE" then
    let d ← doctype d
    return { d with reckoning := ← miscs d.reckoning }
  else return d

/-- The root element, with what has been noted up to its end. -/
def root (d : Doctype) : Scan (Element × Reckoning) := do
  let s ← rest
  let st ← content d maxTexts (s.length + 1) [] { frames := [], reckoning := d.reckoning }
  match st.frames, st.root with
  | [], some e => return (e, st.reckoning)
  | _, _ => fail

/-- A whole document. -/
def document : Scan Element := do
  let d ← prolog
  let (e, r) ← root d
  let r ← miscs r
  require ((← rest).isEmpty && r.findings.acceptable)
  return e

end Scan

/-- The root of a document given by its characters. -/
def Document.ofChars? (s : List Char) : Option Element := (Scan.document (normalizeBreaks [] s)).map (·.1)

/-- The root of a document given by its bytes. -/
def Document.read? (bytes : List UInt8) : Option Element :=
  (Encoding.read? bytes).bind Document.ofChars?

end EntityModel.Xml
