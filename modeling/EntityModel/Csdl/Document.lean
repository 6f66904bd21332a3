import EntityModel.Csdl.Schema
import EntityModel.Xml.Document

/-!
# Reading service documents

A document is a package that includes other documents and holds schemas, or a single schema. The namespace of
the root tells the version of the protocol. Aliases and associations are gathered before any schema is
read, so that it does not matter where in the document they are declared.
-/

namespace EntityModel.Csdl

open Xml (Element)
open Edm (Graph Schema)

/-! ## Versions -/

/-- The namespace of the newer package. -/
def packageSpace : String := "http://docs.oasis-open.org/odata/ns/edmx"

/-- The namespace of the newer schemas. -/
def schemaSpace : String := "http://docs.oasis-open.org/odata/ns/edm"

/-- How the namespaces of the older dialect begin. -/
def olderSpaces : String := "http://schemas.microsoft.com/ado/"

def packageVersion (space : String) : String := if space = packageSpace then "4.0" else "3.0"

/-- The version of a schema that stands alone; empty if its namespace is not known. -/
def schemaVersion (space : String) : String :=
  if space = schemaSpace then "4.0"
  else if olderSpaces.toList.isPrefixOf space.toList then "3.0"
  else ""

/-! ## Roots -/

/-- The parts of a document. -/
structure Outline where
  /-- The version of the protocol. -/
  version : String
  /-- The namespaces that are included, each with its alias if it has one. -/
  included : List (Option String × String)
  schemas : List Element

/-- The elements that are looked at before any schema is read: the root, and in a package what stands beside the
schemas and around them. -/
def surroundings (root : Element) : List Element :=
  root :: (if root.localName = "Edmx" then
    (root.children.flatMap fun c => c :: (if c.localName = "Reference" then c.children else [])) ++
      (root.childrenNamed ["DataServices"]).flatMap Element.children
  else [])

/-- The parts of a document with a given root. A name around the schemas that is none is not foreseen. -/
def outline (root : Element) : Except (Mishap MetadataFault) Outline := do
  if let some text := (surroundings root).findSome? fun e => e.name.stray? then
    throw (.unforeseen (.literal (.elementName text)))
  match root.localName with
  | "Edmx" =>
      .ok
        { version := packageVersion root.name.space,
          included := inclusions root,
          schemas := (root.childrenNamed ["DataServices"]).flatMap fun d => d.childrenNamed ["Schema"] }
  | "Schema" => .ok { version := schemaVersion root.name.space, included := [], schemas := [root] }
  | name => .error (.foreseen (.unexpectedRoot name))

/-- What is known about a document before its schemas are read. -/
def Outline.context (o : Outline) : Context :=
  let aliases := includedAliases o.included ++ schemaAliases o.schemas
  { aliases, associations := o.schemas.flatMap (schemaAssociations aliases) }

/-! ## Documents -/

/-- The graph of the schemas and notes of a document, unless a fault was noted. -/
def Outline.graph (o : Outline) (schemas : List Schema) (notes : List Note) :
    Except MetadataFault Graph :=
  match notes.findSome? Note.deferred? with
  | some fault => .error fault
  | none =>
      .ok
        { version := o.version, references := .ofList (referencesOf o.included), schemas,
          annotations := notes.filterMap Note.annotated? }

/-- Reads the graph of a document with a given root. -/
def readRoot (root : Element) : Except (Mishap MetadataFault) Graph := do
  let o ← outline root
  (do let (schemas, notes) ← (o.schemas.mapM (readSchema o.context)).outcome
      o.graph schemas notes).mapError .foreseen

/-- A byte that is a blank of the ASCII range. -/
def isBlankByte (b : UInt8) : Bool := b == 0x20 || (0x09 ≤ b && b ≤ 0x0D)

/-- Reads the graph of a document given by its bytes. -/
def readDocument (bytes : List UInt8) : Except (Mishap MetadataFault) Graph :=
  if bytes.all isBlankByte then .error (.foreseen .empty)
  else
    match Xml.Document.read? bytes with
    | none => .error (.foreseen .notWellFormed)
    | some root => readRoot root

/-- Reads the graph of a document given as a text, unless the text has no bytes. -/
def readText (text : String) : Except (Mishap MetadataFault) Graph :=
  match Text.utf8? text with
  | some bytes => readDocument bytes
  | none => .error (.unforeseen .unencodable)

end EntityModel.Csdl
