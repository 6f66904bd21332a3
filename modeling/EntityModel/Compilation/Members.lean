import EntityModel.Compilation.Draft

/-!
# Types and their members

First every type of every schema is declared: enumerations, complex types, entity types and containers, each
as a class without members. Then the structured types are filled in the order of their declaration: the
class they extend, their properties, their navigation properties and their key. So a reference may lead to
any type of the document, but a key path finds only what has been filled before.
-/

namespace EntityModel.Compilation

open CodeModel
open Edm (Graph Schema StructuredType EnumType Container)

/-! ## Declarations -/

def enumClass (t : EnumType) : ClassDetail :=
  { kind := .enum,
    enumeration := some { underlying := t.underlying, isFlags := t.isFlags, members := t.members } }

/-- The kind of the class of a structured type. -/
def structuredKind (t : StructuredType) : ClassKind :=
  match t.kind with
  | .complex => .complex
  | .entity => if t.hasStream then .media else .entity

/-- The class of a structured type, without members. -/
def structuredClass (t : StructuredType) : ClassDetail :=
  { kind := structuredKind t, isAbstract := t.isAbstract, isOpen := t.isOpen }

/-- The class of a container, without members. -/
def serviceClass : ClassDetail := { kind := .service }

def declare (name : QualifiedName) (d : ClassDetail) : Build TypeId :=
  Build.register ⟨name, .structured d⟩

/-- The classes that have been declared for the structured types and the containers. -/
structure Declared where
  /-- The structured types with their classes. -/
  structured : List (StructuredType × TypeId) := []
  /-- The containers with their classes. -/
  containers : List (Container × TypeId) := []

/-- Declares the types of a schema. -/
def declareSchema (s : Schema) : Build Declared := do
  s.enums.forM fun t => discard (declare t.name (enumClass t))
  let structured ← (s.complexes ++ s.entities).mapM fun t =>
    return (t, ← declare t.name (structuredClass t))
  let containers ← s.containers.mapM fun c => return (c, ← declare c.name serviceClass)
  return { structured, containers }

def declareTypes (g : Graph) : Build Declared := do
  let ds ← g.schemas.mapM declareSchema
  return { structured := ds.flatMap (·.structured), containers := ds.flatMap (·.containers) }

/-! ## Members -/

/-- Adds a structural property to a class. -/
def addStructural (g : Graph) (owner : String) (c : TypeId) (p : Edm.Property) : Build Unit := do
  let type ← resolve g p.type (owner ++ "/" ++ p.name)
  Build.addProperty c
    { name := p.name, type, collection := p.collection, nullable := p.nullable,
      fallback := p.fallback }

/-- Adds a navigation property to a class. -/
def addNavigation (g : Graph) (owner : String) (c : TypeId) (p : Edm.NavigationProperty) :
    Build Unit := do
  let type ← resolveClass g p.type (owner ++ "/" ++ p.name)
  Build.addProperty c
    { name := p.name, type, collection := p.collection, nullable := p.nullable, navigation := true,
      containsTarget := p.containsTarget }

/-- Adds the property that a path leads to to the key of a class. -/
def addKey (c : TypeId) (path : String) : Build Unit := do
  match (← get).store.findProperty c path with
  | .ok p => Build.edit fun s => s.extendKey c p
  | .error f => Build.fail f

/-- Lets a class extend another, if the type names one. -/
def addBase (g : Graph) (t : StructuredType) (c : TypeId) : Build Unit := do
  match given t.base with
  | none => return ()
  | some b =>
      let base ← resolveClass g b t.name.dotted
      Build.edit fun s => s.setBase c base

/-- Fills the class of a structured type. -/
def fillStructured (g : Graph) (t : StructuredType) (c : TypeId) : Build Unit := do
  addBase g t c
  t.properties.forM (addStructural g t.name.dotted c)
  t.navigation.forM (addNavigation g t.name.dotted c)
  t.key.forM (addKey c)

end EntityModel.Compilation
