import EntityModel.CodeModel.Model
import EntityModel.Edm.Listing
import EntityModel.Failure.Basic

/-!
# Listing a model

A listing of a model is a JSON value with everything in the model. Where a type refers to another, the listing
shows the full name of the other one and its place among the types of the model, or minus one if it is not
among them.
-/

namespace EntityModel.CodeModel

def Capability.listing (c : Capability) : Json := .list [.text c.kind.text, .bool c.flag]

/-- Capabilities. -/
def Capability.listings (cs : List Capability) : Json := .list (cs.map Capability.listing)

/-- The word for a variant. -/
def Variant.text : Variant → String
  | .type => "type"
  | .primitive => "primitive"
  | .structured => "class"
  | .enum => "enum"
  | .method => "method"

namespace Model

variable (s : Store) (m : Model)

/-- A reference to a type; none to a type that is not there. -/
def reference (t : TypeId) : Json :=
  let place : Int := match m.registry.types.findIdx? (· == t) with
    | some i => i
    | none => -1
  if (s.type? t).isSome then .list [.text (s.fullName t), .int place] else .null

/-- A reference to a type that may be missing. -/
def reference? (t : Option TypeId) : Json := (t.map (m.reference s)).getD .null

def references (ts : List TypeId) : Json := .list (ts.map (m.reference s))

def propertyListing (p : Property) : Json :=
  .object [("name", .text p.name), ("qualified", .text (s.qualifiedName p)), ("type", m.reference s p.type),
    ("collection", .bool p.collection), ("nullable", .bool p.nullable), ("navigation", .bool p.navigation),
    ("contains_target", .bool p.containsTarget), ("read_only", .bool p.readOnly),
    ("default", .ofText? p.fallback), ("projection", Capability.listings p.projection.capabilities)]

/-- What every type has. -/
def nameMembers (e : TypeEntry) : List (String × Json) :=
  [("name", .text e.name.name), ("namespace", .text e.name.space), ("full", .text e.name.full),
   ("variant", .text e.shape.variant.text)]

def methodMembers (d : MethodDetail) : List (String × Json) :=
  [("cls", m.reference? s d.owner), ("returns", m.reference? s d.returns), ("collection", .bool d.collection),
   ("bound", .bool d.bound), ("composable", .bool d.composable), ("verbs", .text d.verbs),
   ("parameters", .list (d.parameters.map fun p =>
      .list [.text p.name, m.reference s p.type, .bool p.collection, .bool p.nullable]))]

/-- What an enumeration has beyond a class. -/
def enumerationMembers : Option Enumeration → List (String × Json)
  | none => []
  | some x => [("underlying", .text x.underlying), ("flags", .bool x.isFlags),
      ("members", .list (x.members.map fun v => .list [.text v.1, .ofDigits? v.2]))]

/-- A method of a class. -/
def methodListing (t : TypeId) : Option Json :=
  match s.type? t with
  | some e => (e.shape.method?).map fun d => .object (nameMembers e ++ methodMembers s m d)
  | none => none

def classMembers (d : ClassDetail) : List (String × Json) :=
  [("kind", .text d.kind.text), ("base", m.reference? s d.base), ("abstract", .bool d.isAbstract),
   ("open", .bool d.isOpen),
   ("key", .texts ((s.propertiesAt d.key).map fun p => s.qualifiedName p.2)),
   ("properties", .list ((s.propertiesAt d.properties).map fun p => m.propertyListing s p.2)),
   ("methods", .list (d.methods.filterMap (m.methodListing s)))] ++ enumerationMembers d.enumeration

/-- A type; none if it is not there. -/
def typeListing (t : TypeId) : Json :=
  match s.type? t with
  | none => .null
  | some e =>
      .object (nameMembers e ++
        match e.shape with
        | .plain | .primitive => []
        | .method d => methodMembers s m d
        | .structured d => classMembers s m d)

def namespaceListing (n : Namespace) : Json :=
  .object [("name", .text n.name), ("types", m.references s n.types),
    ("classes", m.references s (n.types.filter (s.isOf .structured))),
    ("enums", m.references s (n.types.filter (s.isOf .enum)))]

/-- A model, where `unclear` is how a root is shown that cannot be told. -/
def listing (unclear : Failure → Json) : Json :=
  .object [("service_type", .text m.serviceType.text), ("strict", .bool m.strict),
    ("metadata", .texts m.metadata.keys),
    ("namespaces", .list (m.registry.namespaces.map (m.namespaceListing s))),
    ("types", .list (m.registry.types.map (m.typeListing s))), ("services", m.references s (m.services s)),
    ("container", match m.root? s with
      | .ok t => m.reference? s t
      | .error f => unclear f)]

end Model

end EntityModel.CodeModel
