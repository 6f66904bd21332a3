import EntityModel.Csdl.Alias
import EntityModel.Csdl.Reading

/-!
# Annotations and their values

The value of an annotation, or of a property of a record, is written in one of two ways: as an attribute that
is named for the kind of the constant or path, or as a child element. The attribute wins; of several, the
one whose kind comes first in the lists below. Of several child elements, the first one counts that is not
itself an annotation.

An element that is neither a constant nor a path, a collection or a record is an expression to be
evaluated. It is kept by its name alone.
-/

namespace EntityModel.Csdl

open Xml (Element)
open Edm (Constant Expression Annotation)

/-! ## Constants and paths -/

def constantKinds : List String :=
  ["Bool", "String", "Int", "Float", "Decimal", "Date", "DateTimeOffset", "TimeOfDay", "Duration", "Guid",
   "Binary", "EnumMember"]

def pathKinds : List String := ["Path", "PropertyPath", "NavigationPropertyPath", "AnnotationPath"]

def annotationElements : List String := ["Annotation", "ValueAnnotation"]

/-- Reads a constant of some kind. Only a text keeps the blanks around it. -/
def readConstant (kind text : String) : Except LiteralFault Constant :=
  let trimmed := Text.trim text
  if kind = Constant.boolKind then (Literal.bool trimmed).map .bool
  else if kind = Constant.intKind then (Literal.int trimmed).map .int
  else if kind = Constant.floatKind then (Literal.float trimmed).map .float
  else if kind = "String" then .ok (.text kind text)
  else .ok (.text kind trimmed)

/-- The segments of a path: what stands between its slashes, empty parts left out. -/
def pathSegments (text : String) : List String :=
  (Text.segments '/' (Text.trim text)).filter (· ≠ "")

def readPath (kind text : String) : Expression := .path kind (pathSegments text)

/-! ## Expressions -/

/-- A value given by an attribute of the element. -/
def valueAttribute? (e : Element) : Option (Reading (Option Expression)) :=
  match constantKinds.findSome? fun k => (e.attribute? k).map (k, ·) with
  | some (k, s) => some (some <$> Expression.constant <$> Reading.literal (readConstant k s))
  | none =>
      (pathKinds.findSome? fun k => (e.attribute? k).map (k, ·)).map fun (k, s) =>
        pure (some (readPath k s))

mutual

/-- Reads the expression that an element is; an annotation is none. -/
def readExpression (aliases : Aliases) : Element → Reading (Option Expression)
  | .mk name attributes text children => do
      let kind := name.localName
      let e : Element := .mk name attributes text children
      Reading.look e
      if constantKinds.contains kind then
        some <$> Expression.constant <$> Reading.literal (readConstant kind text)
      else if pathKinds.contains kind then pure (some (readPath kind text))
      else if kind = "Collection" then
        (fun es => some (.collection es)) <$> readElements aliases children
      else if kind = "Record" then
        (fun ps => some (.record (nonEmpty? (aliases.reference e "Type")) ps)) <$>
          readProperties aliases children
      else if annotationElements.contains kind then pure none
      else pure (some (.constant (.dynamic kind)))

/-- Reads the expressions among the elements of a collection. -/
def readElements (aliases : Aliases) : List Element → Reading (List Expression)
  | [] => pure []
  | c :: cs => do
      let first ← readExpression aliases c
      let others ← readElements aliases cs
      return first.toList ++ others

/-- Reads the properties among the child elements of a record. -/
def readProperties (aliases : Aliases) : List Element → Reading (List (String × Option Expression))
  | [] => pure []
  | c :: cs => do
      Reading.look c
      if c.localName = "PropertyValue" then
        let value ← readValue aliases c
        let others ← readProperties aliases cs
        return (c.attributeD "Property", value) :: others
      else readProperties aliases cs

/-- Reads the value that an element gives to an annotation or a property. -/
def readValue (aliases : Aliases) : Element → Reading (Option Expression)
  | .mk name attributes text children =>
      match valueAttribute? (.mk name attributes text children) with
      | some value => value
      | none => readFirst aliases children

/-- Reads the first expression among some elements. -/
def readFirst (aliases : Aliases) : List Element → Reading (Option Expression)
  | [] => pure none
  | c :: cs => do
      match ← readExpression aliases c with
      | some value => return some value
      | none => readFirst aliases cs

end

/-! ## Annotations -/

def readAnnotated (aliases : Aliases) (e : Element) : Reading Annotation :=
  if e.attributeD "Term" = "" then Reading.fault .annotationWithoutTerm
  else do
    let value ← readValue aliases e
    return { term := aliases.reference e "Term", value, qualifier := e.attribute? "Qualifier" }

/-- Reads the annotations among the child elements and notes them for a target. -/
def noteAnnotations (aliases : Aliases) (target : String) (e : Element) : Reading Unit :=
  discard <| e.children.mapM fun a => do
    Reading.look a
    if annotationElements.contains a.localName then
      Reading.note (.annotated target (← readAnnotated aliases a))

end EntityModel.Csdl
