import EntityModel.CodeModel.Type
import EntityModel.Failure.Basic
import EntityModel.Text.Split

/-!
# The store of types and properties

A store only grows. New types and properties go to the end, so a place, once given, keeps its meaning; what
stands there can be completed later, when the types that it refers to exist.

The *lineage* of a class is the class, the class it extends, and so on. Properties, keys and navigation are
all looked up along the lineage, nearest class first. In a store without circles of base classes no lineage
is longer than the number of types, which is where the walk is cut off.
-/

namespace EntityModel.CodeModel

/-- The types and properties that exist. -/
structure Store where
  /-- The types, by place. -/
  types : List TypeEntry := []
  /-- The properties, by place. -/
  properties : List Property := []
  deriving DecidableEq, Repr, Inhabited

namespace Store

/-! ## Looking up -/

/-- The type at a place. -/
def type? (s : Store) (t : TypeId) : Option TypeEntry := s.types[t.index]?

/-- The property at a place. -/
def property? (s : Store) (p : PropertyId) : Option Property := s.properties[p.index]?

def nameOf (s : Store) (t : TypeId) : QualifiedName := ((s.type? t).map (·.name)).getD ⟨"", ""⟩

def fullName (s : Store) (t : TypeId) : String := (s.nameOf t).full

/-- What a class has, if the type at the place is a class. -/
def class? (s : Store) (t : TypeId) : Option ClassDetail :=
  (s.type? t).bind (·.shape.class?)

/-- What a method has, if the type at the place is a method. -/
def method? (s : Store) (t : TypeId) : Option MethodDetail :=
  (s.type? t).bind (·.shape.method?)

/-- The type at a place is a class. -/
def isClass (s : Store) (t : TypeId) : Bool := (s.class? t).isSome

/-- The type at a place is of a variant. -/
def isOf (s : Store) (v : Variant) (t : TypeId) : Bool :=
  (s.type? t).any fun e => e.shape.variant.extends v

/-! ## Growing and completing -/

def addType (s : Store) (e : TypeEntry) : Store × TypeId :=
  ({ s with types := s.types ++ [e] }, ⟨s.types.length⟩)

def addProperty (s : Store) (p : Property) : Store × PropertyId :=
  ({ s with properties := s.properties ++ [p] }, ⟨s.properties.length⟩)

/-- Changes what a shape says of a class. -/
def changeShape (f : ClassDetail → ClassDetail) : Shape → Shape
  | .structured d => .structured (f d)
  | x => x

/-- Changes what a class has; nothing if the type at the place is no class. -/
def changeClass (s : Store) (t : TypeId) (f : ClassDetail → ClassDetail) : Store :=
  { s with types := s.types.modify t.index fun e => { e with shape := changeShape f e.shape } }

def changeProperty (s : Store) (p : PropertyId) (f : Property → Property) : Store :=
  { s with properties := s.properties.modify p.index f }

/-- Makes one class extend another. -/
def setBase (s : Store) (t base : TypeId) : Store :=
  s.changeClass t fun d => { d with base := some base }

/-- Makes a property the last one of a class. -/
def attachProperty (s : Store) (t : TypeId) (p : PropertyId) : Store :=
  (s.changeProperty p fun x => { x with owner := some t }).changeClass t fun d =>
    { d with properties := d.properties ++ [p] }

/-- Makes a method the last one of a class. -/
def attachMethod (s : Store) (t m : TypeId) : Store :=
  let owned : Store :=
    { s with
      types := s.types.modify m.index fun e =>
        match e.shape with
        | .method d => { e with shape := .method { d with owner := some t } }
        | _ => e }
  owned.changeClass t fun d => { d with methods := d.methods ++ [m] }

/-- Adds a property to the key of a class. -/
def extendKey (s : Store) (t : TypeId) (p : PropertyId) : Store :=
  s.changeClass t fun d => { d with key := d.key ++ [p] }

/-- Sets the projection of a property. -/
def project (s : Store) (p : PropertyId) (x : Projection) : Store :=
  s.changeProperty p fun y => { y with assigned := some x }

/-! ## Lineages -/

/-- The first classes of a lineage, at most a number of them. -/
def lineageUpTo (s : Store) : Nat → TypeId → List TypeId
  | 0, _ => []
  | n + 1, t =>
      match s.class? t with
      | none => []
      | some d => t :: (match d.base with | none => [] | some b => s.lineageUpTo n b)

/-- A class, the class it extends, and so on. -/
def lineage (s : Store) (t : TypeId) : List TypeId := s.lineageUpTo s.types.length t

/-- The properties at some places. -/
def propertiesAt (s : Store) (ps : List PropertyId) : List (PropertyId × Property) :=
  ps.filterMap fun p => (s.property? p).map (p, ·)

/-- The own properties of a class. -/
def declared (s : Store) (t : TypeId) : List (PropertyId × Property) :=
  s.propertiesAt (((s.class? t).map (·.properties)).getD [])

/-- The first own property of a class with a name. -/
def ownProperty? (s : Store) (t : TypeId) (name : String) : Option (PropertyId × Property) :=
  (s.declared t).find? fun p => p.2.name = name

/-- The property with a name on a class or the nearest class that it extends. -/
def nearest? (s : Store) (t : TypeId) (name : String) : Option (PropertyId × Property) :=
  (s.lineage t).findSome? fun c => s.ownProperty? c name

/-- The key of a class: its own, or that of the nearest class it extends that has one. -/
def keyOf (s : Store) (t : TypeId) : List (PropertyId × Property) :=
  match (s.lineage t).findSome? fun c => (s.class? c).filter fun d => !d.key.isEmpty with
  | none => []
  | some d => s.propertiesAt d.key

/-! ## Property paths -/

/-- Follows a path of property names from a class. The error is the first name that leads nowhere: it is
no property of the class reached, or the property before it has no class as its type. -/
def follow (s : Store) (t : TypeId) : List String → Except String PropertyId
  | [] => .error ""
  | [name] =>
      match s.nearest? t name with
      | none => .error name
      | some p => .ok p.1
  | name :: next :: more =>
      match s.nearest? t name with
      | none => .error name
      | some p => if s.isClass p.2.type then s.follow p.2.type (next :: more) else .error next

/-- The property that a path with dots leads to from a class. -/
def findProperty (s : Store) (t : TypeId) (path : String) : Except Failure PropertyId :=
  (s.follow t (Text.segments '.' path)).mapError (.unresolvedPath path (s.fullName t))

/-- The property that a path with dots leads to from a class, if there is one. -/
def tryFindProperty? (s : Store) (t : TypeId) (path : String) : Option PropertyId :=
  (s.findProperty t path).toOption

/-- The owner and the name of a property; an owner that is missing is shown by a question mark. -/
def qualifiedName (s : Store) (p : Property) : String :=
  (match p.owner with | some t => s.fullName t | none => "?") ++ "/" ++ p.name

end Store

end EntityModel.CodeModel
