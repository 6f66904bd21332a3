import EntityModel.Edm.Graph

/-!
# The vocabulary of capabilities

The terms with which a service says what it is capable of, and the types of their values. The vocabulary is
part of the installation; its graph stands here as a value.

The four terms that a compilation needs restrict the insertion, update, deletion and expansion of entities.
Each of their types has one flag and one collection of paths.
-/

namespace EntityModel.Vocabulary.Capabilities

open Edm

/-- The namespace of the vocabulary. -/
def space : String := "Org.OData.Capabilities.V1"

/-- The full name of a type or term of the vocabulary. -/
def full (name : String) : String := space ++ "." ++ name

/-! ## Properties -/

/-- A flag that is set unless something else is said. -/
def flag (name : String) : Property :=
  { name, type := "Edm.Boolean", nullable := false, fallback := some "true" }

def plain (name type : String) : Property := { name, type }

/-- A property with several values of some type. -/
def several (name type : String) : Property := { name, type, collection := true, nullable := false }

def paths (name : String) : Property := several name "Edm.PropertyPath"

/-- A property with several paths of navigation properties. -/
def navigationPaths (name : String) : Property := several name "Edm.NavigationPropertyPath"

/-! ## Types -/

/-- A complex type of the vocabulary. -/
def complex (name : String) (properties : List Property) : StructuredType :=
  { name := ⟨space, name⟩, kind := .complex, properties }

/-- An enumeration of the vocabulary, whose members have no values of their own. -/
def enum (name : String) (members : List String) : EnumType :=
  { name := ⟨space, name⟩, members := members.map (·, none) }

def complexes : List StructuredType :=
  [complex "CallbackType" [several "CallbackProtocols" (full "CallbackProtocol")],
   complex "CallbackProtocol"
    [plain "Id" "Edm.String", plain "UrlTemplate" "Edm.String",
     plain "DocumentationUrl" "Edm.String"],
   complex "ChangeTrackingType"
    [flag "Supported", paths "FilterableProperties", navigationPaths "ExpandableProperties"],
   complex "CountRestrictionsType"
    [flag "Countable", paths "NonCountableProperties",
     navigationPaths "NonCountableNavigationProperties"],
   complex "NavigationRestrictionsType"
    [plain "Navigability" (full "NavigationType"),
     several "RestrictedProperties" (full "NavigationPropertyRestriction")],
   complex "NavigationPropertyRestriction"
    [plain "NavigationProperty" "Edm.NavigationPropertyPath",
     plain "Navigability" (full "NavigationType")],
   complex "FilterRestrictionsType"
    [flag "Filterable", plain "RequiresFilter" "Edm.Boolean", paths "RequiredProperties",
     paths "NonFilterableProperties"],
   complex "SortRestrictionsType"
    [flag "Sortable", paths "AscendingOnlyProperties", paths "DescendingOnlyProperties",
     paths "NonSortableProperties"],
   complex "InsertRestrictionsType"
    [flag "Insertable", navigationPaths "NonInsertableNavigationProperties"],
   complex "UpdateRestrictionsType"
    [flag "Updatable", navigationPaths "NonUpdatableNavigationProperties"],
   complex "DeleteRestrictionsType"
    [flag "Deletable", navigationPaths "NonDeletableNavigationProperties"],
   complex "ExpandRestrictionsType"
    [flag "Expandable", navigationPaths "NonExpandableProperties"]]

def enums : List EnumType :=
  [enum "ConformanceLevelType" ["Minimal", "Intermediate", "Advanced"],
   enum "NavigationType" ["Recursive", "Single", "None"]]

/-! ## Terms -/

/-- A term of the vocabulary. -/
def term (name type : String) (appliesTo : List String) : Term :=
  { name := ⟨space, name⟩, type, appliesTo }

/-- A term that is set or not. -/
def tag (name target : String) : Term := term name "Org.OData.Core.V1.Tag" [target]

/-- A term of entity sets with a complex type of its own. -/
def ofEntitySet (name : String) : Term := term name (full (name ++ "Type")) ["EntitySet"]

def terms : List Term :=
  [term "ConformanceLevel" (full "ConformanceLevelType") ["EntityContainer"],
   term "SupportedFormats" "Collection(Edm.String)" [],
   tag "AsynchronousRequestsSupported" "EntityContainer",
   tag "BatchContinueOnErrorSupported" "EntityContainer",
   tag "CrossJoinSupported" "EntityContainer",
   term "CallbackSupported" (full "CallbackType") ["EntityContainer", "EntitySet"],
   term "ChangeTracking" (full "ChangeTrackingType") ["EntityContainer", "EntitySet"],
   tag "TopSupported" "EntitySet",
   tag "SkipSupported" "EntitySet",
   ofEntitySet "CountRestrictions",
   ofEntitySet "NavigationRestrictions",
   ofEntitySet "FilterRestrictions",
   ofEntitySet "SortRestrictions",
   ofEntitySet "InsertRestrictions",
   ofEntitySet "UpdateRestrictions",
   ofEntitySet "DeleteRestrictions",
   ofEntitySet "ExpandRestrictions"]

/-- The graph of the vocabulary. -/
def graph : Graph :=
  { version := "4.0",
    references := [("Core", "Org.OData.Core.V1")],
    schemas := [{ space, shortName := some "Capabilities", complexes, enums, terms }] }

end EntityModel.Vocabulary.Capabilities
