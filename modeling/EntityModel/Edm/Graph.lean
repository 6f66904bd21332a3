import EntityModel.Edm.Schema
import EntityModel.Table

/-!
# The graph of a service

All schemas of a service document, the references to other documents, and the annotations. Annotations are
kept in the order in which they were made, each with the path of its target; so the annotations of one target
keep their order whatever lies between them, and it does not matter where in the document they stood.
-/

namespace EntityModel.Edm

/-- The metadata of a service. -/
structure Graph where
  /-- The version of the protocol; empty if the document does not tell. -/
  version : String := "4.0"
  /-- The namespaces that are referred to, by alias or by their own name. -/
  references : Table String String := []
  schemas : List Schema := []
  /-- The annotations with the paths of their targets. -/
  annotations : List (String × Annotation) := []
  deriving Inhabited

namespace Graph

/-! ## Annotations -/

/-- Adds an annotation of a target. -/
def annotate (g : Graph) (target : String) (a : Annotation) : Graph :=
  { g with annotations := g.annotations ++ [(target, a)] }

/-- The annotations that were made with a target path. -/
def recorded (g : Graph) (target : String) : List Annotation :=
  (g.annotations.filter fun e => e.1 = target).map (·.2)

/-- The annotations of a target; the empty path is no target. -/
def annotationsOf (g : Graph) (target : String) : List Annotation :=
  if target = "" then [] else g.recorded target

/-- The first annotation of a target with a term. -/
def annotationWith? (g : Graph) (target : String) (term : QualifiedName) : Option Annotation :=
  (g.annotationsOf target).find? fun a => a.termName = term

/-- Inserts a text into a sorted list, unless it is there. -/
def insertText (s : String) : List String → List String
  | [] => [s]
  | t :: ts => if s = t then t :: ts else if s < t then s :: t :: ts else t :: insertText s ts

/-- The paths of all targets, each once, in the order of their characters. -/
def targets (g : Graph) : List String := g.annotations.foldr (fun e ts => insertText e.1 ts) []

/-! ## Declarations -/

def types (g : Graph) : List NamedType := g.schemas.flatMap Schema.types

/-- The first type with a dotted name. -/
def type? (g : Graph) (name : String) : Option NamedType :=
  g.types.find? fun t => t.name.dotted = name

/-- The first type definition with a dotted name. -/
def definition? (g : Graph) (name : String) : Option TypeDefinition :=
  (g.schemas.flatMap (·.definitions)).find? fun d => d.name.dotted = name

/-- The target path of the type or the definition with a name. -/
def typeTarget? (g : Graph) (name : String) : Option String :=
  match g.type? name with
  | some t => some t.name.dotted
  | none => (g.definition? name).map (·.name.dotted)

/-- The first term with a dotted name. -/
def term? (g : Graph) (name : String) : Option Term :=
  (g.schemas.flatMap (·.terms)).find? fun t => t.name.dotted = name

def operations (g : Graph) : List Operation := g.schemas.flatMap (·.operations)

/-- The first operation with a dotted name. -/
def operation? (g : Graph) (name : String) : Option Operation :=
  g.operations.find? fun o => o.name.dotted = name

/-- All entity containers, schema by schema. -/
def containers (g : Graph) : List Container := g.schemas.flatMap (·.containers)

end Graph

end EntityModel.Edm
