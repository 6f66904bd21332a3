import EntityModel.Edm.Expression

/-!
# Schemas

What a schema declares: enumerations, structured types, type definitions, operations, terms and entity
containers. Types are referred to by full name. Whatever can be annotated has a *target path*: the dotted
name of a type or a container, with a slash and a name behind it for a property or an entity set.
-/

namespace EntityModel.Edm

/-! ## Types -/

/-- A structural property. -/
structure Property where
  name : String
  /-- The full name of its type. -/
  type : String
  /-- Its value is a collection. -/
  collection : Bool := false
  /-- Its value may be missing. -/
  nullable : Bool := true
  /-- The text of its default value. -/
  fallback : Option String := none
  deriving DecidableEq, Repr

/-- A property that leads to another entity. -/
structure NavigationProperty where
  name : String
  /-- The full name of its type. -/
  type : String
  /-- It leads to a collection. -/
  collection : Bool := false
  /-- It may lead nowhere. -/
  nullable : Bool := true
  /-- The target belongs to the source. -/
  containsTarget : Bool := false
  /-- The property that leads back. -/
  partner : Option String := none
  deriving DecidableEq, Repr

/-- The two kinds of structured types. -/
inductive StructuredKind where
  /-- A type without identity. -/
  | complex
  /-- A type with identity. -/
  | entity
  deriving DecidableEq, Repr

/-- A type made of properties. -/
structure StructuredType where
  name : QualifiedName
  kind : StructuredKind
  /-- The full name of the type it extends. -/
  base : Option String := none
  /-- It has no instances of its own. -/
  isAbstract : Bool := false
  /-- Its instances may have more properties. -/
  isOpen : Bool := false
  /-- Its instances are media. -/
  hasStream : Bool := false
  /-- The paths of its key properties. -/
  key : List String := []
  /-- Its structural properties. -/
  properties : List Property := []
  /-- Its navigation properties. -/
  navigation : List NavigationProperty := []
  deriving DecidableEq, Repr

/-- An enumeration. -/
structure EnumType where
  name : QualifiedName
  /-- The type of its values. -/
  underlying : String := "Edm.Int32"
  /-- Several members may be combined. -/
  isFlags : Bool := false
  /-- Its members with their values, where these are given. -/
  members : List (String × Option Int) := []
  deriving DecidableEq, Repr

/-- A second name for a primitive type. -/
structure TypeDefinition where
  name : QualifiedName
  /-- The type it stands for. -/
  underlying : String := "Edm.String"
  deriving DecidableEq, Repr

/-- A type that is an enumeration or structured. -/
inductive NamedType where
  | enum (type : EnumType)
  | structured (type : StructuredType)
  deriving DecidableEq, Repr

def NamedType.name : NamedType → QualifiedName
  | enum t => t.name
  | structured t => t.name

/-! ## Operations -/

/-- A parameter of an operation. -/
structure Parameter where
  name : String
  /-- The full name of its type. -/
  type : String
  /-- It takes a collection. -/
  collection : Bool := false
  /-- It may be left out. -/
  nullable : Bool := true
  deriving DecidableEq, Repr

/-- The two kinds of operations. -/
inductive OperationKind where
  /-- Without side effects. -/
  | function
  /-- With side effects. -/
  | action
  deriving DecidableEq, Repr

/-- An operation. -/
structure Operation where
  name : QualifiedName
  kind : OperationKind
  /-- It is invoked on its first parameter. -/
  bound : Bool := false
  /-- More may be applied to its result. -/
  composable : Bool := false
  parameters : List Parameter := []
  /-- The type of its result as written, if it has one. -/
  returns : Option String := none
  deriving DecidableEq, Repr

/-- The parameter that a bound operation is invoked on. -/
def Operation.binding? (o : Operation) : Option Parameter :=
  if o.bound then o.parameters.head? else none

/-! ## Containers -/

/-- An entity set or a singleton of a container. -/
structure ContainerMember where
  name : String
  /-- The full name of its type. -/
  type : String
  /-- The full name of the container. -/
  container : String
  deriving DecidableEq, Repr

/-- The target path of an entity set or a singleton. -/
def ContainerMember.targetPath (m : ContainerMember) : String := m.container ++ "/" ++ m.name

/-- An operation that a container offers. -/
structure OperationImport where
  name : String
  /-- The full name of the operation. -/
  operation : String
  /-- The kind of the operation it imports. -/
  kind : OperationKind
  /-- The entity set that the result belongs to. -/
  entitySet : Option String := none
  deriving DecidableEq, Repr

/-- An entity container. -/
structure Container where
  name : QualifiedName
  /-- Its entity sets. -/
  sets : List ContainerMember := []
  singletons : List ContainerMember := []
  imports : List OperationImport := []
  deriving DecidableEq, Repr

/-- The entity set with a name. -/
def Container.findSet? (c : Container) (name : String) : Option ContainerMember :=
  c.sets.find? fun s => s.name = name

/-! ## Schemas -/

/-- The declaration of a term. -/
structure Term where
  name : QualifiedName
  /-- The type of its values. -/
  type : String := ""
  /-- The kinds of targets that it applies to. -/
  appliesTo : List String := []
  deriving DecidableEq, Repr

/-- A schema. -/
structure Schema where
  /-- Its namespace. -/
  space : String
  shortName : Option String := none
  /-- Its entity types. -/
  entities : List StructuredType := []
  complexes : List StructuredType := []
  enums : List EnumType := []
  definitions : List TypeDefinition := []
  operations : List Operation := []
  terms : List Term := []
  /-- Its entity containers. -/
  containers : List Container := []
  deriving DecidableEq, Repr

/-- The types of a schema: enumerations, complex types, entity types. -/
def Schema.types (s : Schema) : List NamedType :=
  s.enums.map .enum ++ (s.complexes ++ s.entities).map .structured

end EntityModel.Edm
