import EntityModel.CodeModel.Store
import EntityModel.Edm.Graph
import EntityModel.Vocabulary.Capabilities

/-!
# Restrictions

An annotation may restrict one kind of capability of an entity set. Its value is a record with one truth
value, which says whether the set itself has the capability, and one collection of paths, whose
properties do not have it. The paths start at the type of the set. The names of the record's properties do not
matter, and neither do properties that hold anything else.
-/

namespace EntityModel.Restriction

open CodeModel
open Edm (Expression Annotation)

/-! ## Terms -/

/-- The name, within the vocabulary of capabilities, of the term that restricts a kind. -/
def termLabel : CapabilityKind → String
  | .insert => "InsertRestrictions"
  | .update => "UpdateRestrictions"
  | .delete => "DeleteRestrictions"
  | .expand => "ExpandRestrictions"

/-- The full name of the term that restricts a kind. -/
def termName (kind : CapabilityKind) : String := Vocabulary.Capabilities.full (termLabel kind)

/-- The terms of all kinds, in the order in which they are applied. -/
def termNames : List String := CapabilityKind.all.map termName

/-! ## Values -/

/-- What a restriction says. -/
structure Statement where
  /-- The entity set has the capability. -/
  flag : Bool
  /-- The properties that do not have it, in the order of their paths. -/
  excluded : List PropertyId
  deriving DecidableEq, Repr

/-- The truth values among the properties of a record. -/
def booleans (properties : List (String × Option Expression)) : List Bool :=
  properties.filterMap fun p => p.2.bind Expression.bool?

/-- The collections among the properties of a record. -/
def collections (properties : List (String × Option Expression)) : List (List Expression) :=
  properties.filterMap fun p => p.2.bind Expression.elements?

/-- The property that an element of the collection leads to from a type. -/
def excludedBy (s : Store) (term : String) (t : TypeId) (e : Expression) :
    Except Failure PropertyId :=
  match e.segments? with
  | none => .error (.annotationShape term .notPath)
  | some segments =>
      let path := Edm.dottedPath segments
      if s.isClass t then s.findProperty t path
      else .error (.unresolvedPath path (s.fullName t) path)

/-- Reads what an annotation says about an entity set with elements of a type. -/
def readStatement (s : Store) (t : TypeId) (a : Annotation) : Except Failure Statement :=
  match a.value.bind Expression.properties? with
  | none => .error (.annotationShape a.term .notRecord)
  | some properties =>
      match booleans properties with
      | [flag] =>
          match collections properties with
          | [elements] => do
              let excluded ← elements.mapM (excludedBy s a.term t)
              return { flag, excluded }
          | cs => .error (.annotationShape a.term (.collections cs.length))
      | bs => .error (.annotationShape a.term (.booleans bs.length))

end EntityModel.Restriction
