import EntityModel.CodeModel.Model
import EntityModel.Json.Printer

/-!
# The client surface

The surface of a model is what a client of the service gets to see: the collections and singletons of the
root, what can be done with each, the navigation that starts from their types, and the operations of the
root. What can be done is read off the projections. A service without a root has an empty surface.

Along the lineage of a class a navigation property hides the ones of the same name behind it.
-/

namespace EntityModel.Surface

open CodeModel

/-! ## Parts of a surface -/

/-- A navigation property as a client sees it. -/
structure Navigation where
  name : String
  /-- The full name of its type. -/
  type : String
  /-- It leads to a collection. -/
  collection : Bool
  /-- The target can be fetched together with the source. -/
  expandable : Bool
  /-- What can be done with it. -/
  accessors : List String
  /-- The names of the target's key properties, for a collection. -/
  key : Option (List String)
  deriving DecidableEq, Repr

/-- A collection or singleton of the root as a client sees it. -/
structure Entry where
  name : String
  /-- The full name of its type. -/
  type : String
  /-- The full name of the type of its projection, and the capabilities of it. -/
  projection : String × List Capability
  /-- The navigation that starts from its type. -/
  navigation : List Navigation
  /-- What can be done with it. -/
  accessors : List String
  /-- The names of its key properties, for a collection. -/
  key : Option (List String)
  deriving DecidableEq, Repr

/-- An operation of the root as a client sees it. -/
structure Operation where
  name : String
  /-- The method with which it is requested. -/
  verbs : String
  /-- The names of its parameters. -/
  parameters : List String
  /-- The full name of the type of its result. -/
  returns : Option String
  /-- Its result is a collection. -/
  collection : Bool
  deriving DecidableEq, Repr

/-! ## Properties -/

/-- A property supports a kind of capability. -/
def supports (p : Property) (kind : CapabilityKind) : Bool :=
  Capability.support kind p.projection.capabilities

/-- A word, if a condition holds. -/
def wordIf (condition : Bool) (word : String) : List String := if condition then [word] else []

/-- The key properties of the type of a property; none if the type is no class. -/
def targetKey (s : Store) (p : Property) : List (PropertyId × Property) := s.keyOf p.type

/-- The names of the key properties of the type of a property. -/
def keyNames (s : Store) (p : Property) : List String := (targetKey s p).map (·.2.name)

/-- What can be done with a collection. -/
def collectionAccessors (s : Store) (p : Property) : List String :=
  ["list"] ++ wordIf (!(targetKey s p).isEmpty) "get_by_id" ++
    wordIf (supports p .insert) "add" ++ wordIf (supports p .update) "update" ++
    wordIf (supports p .delete) "delete"

/-- What can be done with a single entity. -/
def singleAccessors (p : Property) : List String := ["get"] ++ wordIf (supports p .update) "update"

/-- What can be done with a property. -/
def accessors (s : Store) (p : Property) : List String :=
  if p.collection then collectionAccessors s p else singleAccessors p

/-- The names of the key properties, for a collection. -/
def collectionKey (s : Store) (p : Property) : Option (List String) :=
  if p.collection then some (keyNames s p) else none

/-! ## Navigation -/

/-- The navigation properties among some properties whose names are not among the given ones and not used
before. -/
def unseen (seen : List String) : List (PropertyId × Property) → List (PropertyId × Property)
  | [] => []
  | p :: ps =>
      if !p.2.navigation || seen.contains p.2.name then unseen seen ps
      else p :: unseen (p.2.name :: seen) ps

/-- The navigation properties of a class, its own ones first. -/
def navigationProperties (s : Store) (t : TypeId) : List (PropertyId × Property) :=
  unseen [] ((s.lineage t).flatMap s.declared)

/-- A navigation property as a client sees it. -/
def navigationEntry (s : Store) (p : Property) : Navigation :=
  { name := p.name, type := s.fullName p.type, collection := p.collection,
    expandable := supports p .expand, accessors := accessors s p, key := collectionKey s p }

/-- The navigation that starts from a type. -/
def navigation (s : Store) (t : TypeId) : List Navigation :=
  (navigationProperties s t).map fun p => navigationEntry s p.2

/-! ## The root -/

/-- A collection or singleton as a client sees it. -/
def entry (s : Store) (p : Property) : Entry :=
  { name := p.name, type := s.fullName p.type,
    projection := (s.fullName p.projection.type, p.projection.capabilities),
    navigation := navigation s p.type, accessors := accessors s p, key := collectionKey s p }

/-- A method as a client sees it. -/
def operation (s : Store) (m : TypeId) : Option Operation :=
  (s.method? m).map fun d =>
    { name := (s.nameOf m).name, verbs := d.verbs, parameters := d.parameters.map (·.name),
      returns := d.returns.map s.fullName, collection := d.collection }

end EntityModel.Surface

namespace EntityModel

open CodeModel

/-- What a client of a service gets to see. -/
structure Surface where
  /-- The full name of the root, if there is one. -/
  service : Option String := none
  /-- The collections of the root. -/
  collections : List Surface.Entry := []
  /-- The singletons of the root. -/
  singletons : List Surface.Entry := []
  /-- The operations of the root. -/
  operations : List Surface.Operation := []
  deriving DecidableEq, Repr

namespace Surface

def ofRoot (s : Store) (root : TypeId) : Surface :=
  let properties := (s.declared root).map (·.2)
  { service := some (s.fullName root),
    collections := (properties.filter (·.collection)).map (entry s),
    singletons := (properties.filter (!·.collection)).map (entry s),
    operations := (((s.class? root).map (·.methods)).getD []).filterMap (operation s) }

def ofModel (s : Store) (m : Model) : Except Failure Surface := do
  match ← m.root? s with
  | none => return {}
  | some root => return ofRoot s root

end Surface

end EntityModel
