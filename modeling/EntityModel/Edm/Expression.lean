import EntityModel.Edm.Name
import EntityModel.Numeral.Binary64

/-!
# Annotations

An annotation applies a term to a target and may give it a value. A value is a constant, a path, a collection
or a record, nested as deep as one likes. An expression that is to be computed is kept as an opaque
constant under the name of its element.
-/

namespace EntityModel.Edm

open Numeral (Binary64)

/-- What a constant holds. -/
inductive Scalar where
  /-- A truth value. -/
  | bool (value : Bool)
  | int (value : Int)
  | float (value : Binary64)
  | text (value : String)
  /-- Nothing: the value of an expression that is not evaluated. -/
  | absent
  deriving DecidableEq, Repr

/-- The truth of a scalar: numbers other than zero and texts with characters are true. -/
def Scalar.truth : Scalar → Bool
  | bool b => b
  | int n => n ≠ 0
  | float x => x.magnitude ≠ 0
  | text s => s ≠ ""
  | absent => false

/-- A constant: a scalar of some kind. The kind of an expression that is not evaluated is the name of its
element. -/
structure Constant where
  kind : String
  /-- What it holds. -/
  value : Scalar
  deriving DecidableEq, Repr

namespace Constant

/-- The kind of truth values. -/
def boolKind : String := "Bool"

/-- The kind of integers. -/
def intKind : String := "Int"

def floatKind : String := "Float"

/-- A truth value. -/
def bool (value : Bool) : Constant := ⟨boolKind, .bool value⟩

/-- An integer. -/
def int (value : Int) : Constant := ⟨intKind, .int value⟩

def float (value : Binary64) : Constant := ⟨floatKind, .float value⟩

/-- A constant that is kept as text. -/
def text (kind value : String) : Constant := ⟨kind, .text value⟩

/-- An expression that is not evaluated, by the name of its element. -/
def dynamic (element : String) : Constant := ⟨element, .absent⟩

end Constant

/-- The value of an annotation. -/
inductive Expression where
  | constant (value : Constant)
  /-- A path of some kind, by its segments. -/
  | path (kind : String) (segments : List String)
  | collection (elements : List Expression)
  /-- A record, with its type if it is named; a property may be without a value. -/
  | record (type : Option String) (properties : List (String × Option Expression))
  deriving Inhabited

/-- The segments of a path with dots between them, as a property path is written. -/
def dottedPath (segments : List String) : String := ".".intercalate segments

namespace Expression

/-- The truth value, if the expression is of their kind. -/
def bool? : Expression → Option Bool
  | constant c => if c.kind = Constant.boolKind then some c.value.truth else none
  | _ => none

/-- The elements, if the expression is a collection. -/
def elements? : Expression → Option (List Expression)
  | collection es => some es
  | _ => none

/-- The segments, if the expression is a path. -/
def segments? : Expression → Option (List String)
  | path _ segments => some segments
  | _ => none

/-- The properties, if the expression is a record. -/
def properties? : Expression → Option (List (String × Option Expression))
  | record _ properties => some properties
  | _ => none

end Expression

/-- A term applied to some target. -/
structure Annotation where
  /-- The full name of the term. -/
  term : String
  value : Option Expression := none
  /-- What tells several annotations with one term apart. -/
  qualifier : Option String := none
  deriving Inhabited

/-- The namespace and the name of the term. -/
def Annotation.termName (a : Annotation) : QualifiedName := .ofText a.term

end EntityModel.Edm
