import EntityModel.Edm.Graph
import EntityModel.Json.Value

/-!
# Listing a graph

A listing of a graph is a JSON value with everything in the graph, in the order of the graph. Only the targets
of annotations are sorted. Integers are written as texts of their digits and floats by their bits, so that
no reader of JSON can lose a part of them.
-/

namespace EntityModel

/-- An integer as the text of its digits. -/
def Json.ofDigits? : Option Int → Json
  | some n => .text (toString n)
  | none => .null

namespace Edm

/-! ## Annotations -/

/-- What a constant holds. -/
def Scalar.listing : Scalar → Json
  | .bool b => .bool b
  | .int n => .object [("int", .text (toString n))]
  | .float x => .object [("float", .text (if x.isNaN then "nan" else x.hex))]
  | .text s => .text s
  | .absent => .null

mutual

def Expression.listing : Expression → Json
  | .constant c => .object [("const", .text c.kind), ("value", c.value.listing)]
  | .path kind segments =>
      .object [("path", .text kind), ("segments", .texts segments), ("dotted", .text (dottedPath segments))]
  | .collection es => .object [("collection", .list (elementListings es))]
  | .record type ps => .object [("record", .ofText? type), ("properties", .list (propertyListings ps))]

/-- The elements of a collection. -/
def elementListings : List Expression → List Json
  | [] => []
  | e :: es => e.listing :: elementListings es

/-- The properties of a record. -/
def propertyListings : List (String × Option Expression) → List Json
  | [] => []
  | (n, none) :: ps => .list [.text n, .null] :: propertyListings ps
  | (n, some e) :: ps => .list [.text n, e.listing] :: propertyListings ps

end

def Annotation.listing (a : Annotation) : Json :=
  .object [("term", .text a.term), ("namespace", .text a.termName.space), ("name", .text a.termName.name),
    ("qualifier", .ofText? a.qualifier), ("value", (a.value.map (·.listing)).getD .null)]

def Graph.annotationListing (g : Graph) (target : String) : Json :=
  .list ((g.annotationsOf target).map (·.listing))

/-! ## Types -/

def EnumType.listing (t : EnumType) : Json :=
  .object [("name", .text t.name.dotted), ("kind", .text "EnumType"), ("underlying", .text t.underlying),
    ("flags", .bool t.isFlags),
    ("members", .list (t.members.map fun m => .list [.text m.1, .ofDigits? m.2]))]

def Property.listing (p : Property) : Json :=
  .list [.text p.name, .text p.type, .bool p.collection, .bool p.nullable, .ofText? p.fallback]

def NavigationProperty.listing (p : NavigationProperty) : Json :=
  .list [.text p.name, .text p.type, .bool p.collection, .bool p.nullable, .bool p.containsTarget,
    .ofText? p.partner]

def StructuredType.listing (t : StructuredType) : Json :=
  let kind := match t.kind with | .complex => "ComplexType" | .entity => "EntityType"
  .object [("name", .text t.name.dotted), ("kind", .text kind), ("base", .ofText? t.base),
    ("abstract", .bool t.isAbstract), ("open", .bool t.isOpen), ("stream", .bool t.hasStream),
    ("key", .texts t.key), ("properties", .list (t.properties.map (·.listing))),
    ("navigation", .list (t.navigation.map (·.listing)))]

def NamedType.listing : NamedType → Json
  | .enum t => t.listing
  | .structured t => t.listing

def TypeDefinition.listing (t : TypeDefinition) : Json :=
  .object [("name", .text t.name.dotted), ("kind", .text "TypeDefinition"), ("underlying", .text t.underlying)]

def Term.listing (t : Term) : Json := .list [.text t.name.dotted, .text t.type, .texts t.appliesTo]

/-! ## Operations and containers -/

def Parameter.listing (p : Parameter) : Json :=
  .list [.text p.name, .text p.type, .bool p.collection, .bool p.nullable]

def Operation.listing (o : Operation) : Json :=
  let kind := match o.kind with | .function => "Function" | .action => "Action"
  .object [("name", .text o.name.dotted), ("kind", .text kind), ("bound", .bool o.bound),
    ("composable", .bool o.composable), ("parameters", .list (o.parameters.map (·.listing))),
    ("return", .ofText? o.returns), ("binding", .ofText? (o.binding?.map (·.name)))]

/-- An entity set or a singleton. -/
def ContainerMember.listing (m : ContainerMember) : Json :=
  .list [.text m.name, .text m.type, .text m.targetPath]

def OperationImport.listing (i : OperationImport) : Json :=
  let kind := match i.kind with | .function => "FunctionImport" | .action => "ActionImport"
  .list [.text i.name, .text i.operation, .text kind, .ofText? i.entitySet]

def Container.listing (c : Container) : Json :=
  .object [("name", .text c.name.dotted), ("sets", .list (c.sets.map (·.listing))),
    ("singletons", .list (c.singletons.map (·.listing))), ("imports", .list (c.imports.map (·.listing)))]

/-! ## Graphs -/

def Schema.listing (s : Schema) : Json :=
  .object [("namespace", .text s.space), ("alias", .ofText? s.shortName),
    ("enums", .list (s.enums.map (·.listing))), ("complex", .list (s.complexes.map (·.listing))),
    ("entities", .list (s.entities.map (·.listing))),
    ("definitions", .list (s.definitions.map (·.listing))),
    ("operations", .list (s.operations.map (·.listing))), ("terms", .list (s.terms.map (·.listing))),
    ("containers", .list (s.containers.map (·.listing)))]

def Graph.listing (g : Graph) : Json :=
  .object [("version", .text g.version),
    ("references", .list (g.references.map fun r => .list [.text r.1, .text r.2])),
    ("annotations", .list (g.targets.map fun t => .list [.text t, g.annotationListing t])),
    ("schemas", .list (g.schemas.map (·.listing)))]

end Edm

end EntityModel
