import EntityModel.CodeModel.Capability
import EntityModel.Edm.Name

/-!
# Types and properties of a code model

The types of a code model refer to each other in circles: a property of a class has a class as its type, a
class knows its properties, and each of them knows its owner. So types and properties are referred to by
their place in a store. Two types are the same only if they stand at the same place; their names do not
matter for that.

Every type has a name. Beyond that it is plain, primitive, a class, or a method. An enumeration is a class
that has members as well.
-/

namespace EntityModel.CodeModel

/-- The place of a type in a store. -/
structure TypeId where
  /-- How many types come before it. -/
  index : Nat
  deriving DecidableEq, Repr

/-- The place of a property in a store. -/
structure PropertyId where
  /-- How many properties come before it. -/
  index : Nat
  deriving DecidableEq, Repr

/-- A type seen through the capabilities that apply to it. -/
structure Projection where
  type : TypeId
  /-- The capabilities, in the order in which they were found. -/
  capabilities : List Capability
  deriving DecidableEq, Repr

/-- What a class stands for. -/
inductive ClassKind where
  /-- An entity type. -/
  | entity
  /-- A complex type. -/
  | complex
  | enum
  /-- An entity container, the root of a service. -/
  | service
  /-- An entity type whose instances are media. -/
  | media
  deriving DecidableEq, Repr

namespace ClassKind

def all : List ClassKind := [entity, complex, enum, service, media]

/-- The word for a kind. -/
def text : ClassKind → String
  | entity => "entity"
  | complex => "complex"
  | enum => "enum"
  | service => "service"
  | media => "media"

def ofText? (word : String) : Option ClassKind := all.find? fun k => k.text = word

end ClassKind

/-- What an enumeration has beyond a class. -/
structure Enumeration where
  /-- The type of its values. -/
  underlying : String := "Edm.Int32"
  /-- Several members may be combined. -/
  isFlags : Bool := false
  /-- Its members with their values, where these are given. -/
  members : List (String × Option Int) := []
  deriving DecidableEq, Repr

/-- What a class has beyond its name. -/
structure ClassDetail where
  /-- What it stands for. -/
  kind : ClassKind := .entity
  /-- The class it extends. -/
  base : Option TypeId := none
  /-- It has no instances of its own. -/
  isAbstract : Bool := false
  /-- Its instances may have more properties. -/
  isOpen : Bool := false
  /-- Its key properties, or those of other classes that a key path leads to. -/
  key : List PropertyId := []
  /-- Its own properties. -/
  properties : List PropertyId := []
  methods : List TypeId := []
  /-- What it has as an enumeration, if it is one. -/
  enumeration : Option Enumeration := none
  deriving DecidableEq, Repr

/-- A parameter of a method. -/
structure Parameter where
  name : String
  type : TypeId
  /-- It takes a collection. -/
  collection : Bool := false
  /-- It may be left out. -/
  nullable : Bool := true
  deriving DecidableEq, Repr

/-- What a method has beyond its name. -/
structure MethodDetail where
  /-- The class that it is a method of. -/
  owner : Option TypeId := none
  parameters : List Parameter := []
  /-- The type of its result. -/
  returns : Option TypeId := none
  /-- Its result is a collection. -/
  collection : Bool := false
  /-- It is invoked on an instance. -/
  bound : Bool := false
  /-- More may be applied to its result. -/
  composable : Bool := false
  /-- The method with which it is requested. -/
  verbs : String := "POST"
  deriving DecidableEq, Repr

/-- What a type is beyond its name. -/
inductive Shape where
  /-- Nothing more. -/
  | plain
  /-- A primitive type. -/
  | primitive
  | structured (detail : ClassDetail)
  | method (detail : MethodDetail)
  deriving DecidableEq, Repr

/-- What a shape says of a class, if it is one. -/
def Shape.class? : Shape → Option ClassDetail
  | structured d => some d
  | _ => none

/-- What a shape says of a method, if it is one. -/
def Shape.method? : Shape → Option MethodDetail
  | method d => some d
  | _ => none

/-- A type. -/
structure TypeEntry where
  name : QualifiedName
  /-- What else it is. -/
  shape : Shape
  deriving DecidableEq, Repr

/-- A property. -/
structure Property where
  name : String
  type : TypeId
  /-- The class that it is a property of. -/
  owner : Option TypeId := none
  /-- Its value is a collection. -/
  collection : Bool := false
  /-- Its value may be missing. -/
  nullable : Bool := true
  /-- It leads to other entities. -/
  navigation : Bool := false
  /-- The target belongs to the source. -/
  containsTarget : Bool := false
  /-- It cannot be written. -/
  readOnly : Bool := false
  /-- The text of its default value. -/
  fallback : Option String := none
  /-- The projection that has been set for it. -/
  assigned : Option Projection := none
  deriving DecidableEq, Repr

/-- The projection of a property: the one that has been set, or else its type without capabilities. -/
def Property.projection (p : Property) : Projection := p.assigned.getD ⟨p.type, []⟩

/-! ## Variants -/

/-- The variants of types that can be asked for. -/
inductive Variant where
  /-- Any type. -/
  | type
  /-- A primitive type. -/
  | primitive
  /-- A class, or an enumeration. -/
  | structured
  | enum
  | method
  deriving DecidableEq, Repr

/-- The most special variant of a shape. -/
def Shape.variant : Shape → Variant
  | plain => .type
  | primitive => .primitive
  | structured d => if d.enumeration.isSome then .enum else .structured
  | method _ => .method

/-- A type of one variant is also of another. -/
def Variant.extends (v : Variant) : Variant → Bool
  | .type => true
  | .structured => v = .structured || v = .enum
  | w => v = w

end EntityModel.CodeModel
