import EntityModel.Surface.Basic

/-!
# Writing surfaces and descriptions

A surface is written as a JSON value. The order of its members is fixed; a rendering sorts them. A
description of a model lists its namespaces with their types in front of the surface.
-/

namespace EntityModel

open CodeModel

/-! ## Surfaces -/

def CodeModel.Capability.toJson (c : Capability) : Json :=
  .object [("kind", .text c.kind.text), ("flag", .bool c.flag)]

namespace Surface

def projectionJson (type : String) (cs : List Capability) : Json :=
  .object [("type", .text type), ("capabilities", .list (cs.map Capability.toJson))]

/-- The member with the names of the key properties, if there are any to be shown. -/
def keyMember : Option (List String) → List (String × Json)
  | some names => [("key", .texts names)]
  | none => []

/-- A navigation property as JSON. -/
def Navigation.toJson (n : Navigation) : Json :=
  .object ([("name", .text n.name), ("type", .text n.type), ("is_collection", .bool n.collection),
    ("expandable", .bool n.expandable), ("accessors", .texts n.accessors)] ++ keyMember n.key)

/-- A collection or singleton as JSON. -/
def Entry.toJson (e : Entry) : Json :=
  .object ([("name", .text e.name), ("type", .text e.type),
    ("projection", projectionJson e.projection.1 e.projection.2),
    ("navigation", .list (e.navigation.map Navigation.toJson)),
    ("accessors", .texts e.accessors)] ++ keyMember e.key)

def Operation.toJson (o : Operation) : Json :=
  .object [("name", .text o.name), ("verbs", .text o.verbs), ("parameters", .texts o.parameters),
    ("returns", .ofText? o.returns), ("returns_collection", .bool o.collection)]

def toJson (x : Surface) : Json :=
  .object [("service", .ofText? x.service),
    ("collections", .list (x.collections.map Entry.toJson)),
    ("singletons", .list (x.singletons.map Entry.toJson)),
    ("operations", .list (x.operations.map Operation.toJson))]

/-- A surface as text: members sorted, every item on a line of its own. -/
def render (x : Surface) : String := x.toJson.render

end Surface

/-! ## Descriptions -/

/-- The word for what a type is. -/
def CodeModel.Shape.word : Shape → String
  | .plain => "type"
  | .primitive => "primitive"
  | .structured d => d.kind.text
  | .method _ => "method"

namespace CodeModel.Model

/-- A type in a description. -/
def typeJson (s : Store) (t : TypeId) : Json :=
  .object [("name", .text (s.nameOf t).name),
    ("kind", .ofText? ((s.type? t).map fun e => e.shape.word))]

/-- A namespace in a description. -/
def namespaceJson (s : Store) (n : Namespace) : Json :=
  .object [("name", .text n.name), ("types", .list (n.types.map (typeJson s)))]

/-- The description of a model. -/
def describe (s : Store) (m : Model) : Except Failure Json := do
  let surface ← Surface.ofModel s m
  return .object [("service_type", .text m.serviceType.text),
    ("namespaces", .list (m.registry.namespaces.map (namespaceJson s))),
    ("client_surface", surface.toJson)]

end CodeModel.Model

end EntityModel
