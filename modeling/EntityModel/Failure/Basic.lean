import EntityModel.Failure.Report
import EntityModel.Literal

/-!
# Causes of failure

Everything that can go wrong while settings and vocabularies are loaded and metadata is read and compiled,
one constructor for each cause. `Failure.report` has the wording.

A few causes have no report, since nobody foresaw them. What can go wrong in both ways is a `Mishap`.
-/

namespace EntityModel

/-! ## Reading metadata -/

/-- Why a metadata document cannot be read. -/
inductive MetadataFault where
  /-- There is nothing in the document. -/
  | empty
  /-- The document is not well-formed. -/
  | notWellFormed
  /-- The root is neither a package of schemas nor a schema. -/
  | unexpectedRoot (name : String)
  /-- A literal is outside its grammar. -/
  | literal (fault : LiteralFault)
  | annotationWithoutTerm
  | schemaWithoutNamespace
  /-- A navigation property names an association, or a role in one, that is not declared. -/
  | unknownAssociation (navigation relationship role : String)
  deriving DecidableEq, Repr

/-- The wording of a fault. -/
def MetadataFault.message : MetadataFault → String
  | .empty => "Metadata document is empty"
  | .notWellFormed => "Metadata document is not well-formed XML"
  | .unexpectedRoot name => "Unexpected metadata root element '" ++ name ++ "'"
  | .literal fault => "Invalid literal in metadata document: " ++ fault.message
  | .annotationWithoutTerm => "Annotation element without a Term attribute"
  | .schemaWithoutNamespace => "Schema element without a Namespace attribute"
  | .unknownAssociation navigation relationship role =>
      "Navigation property '" ++ navigation ++ "' references unknown association '" ++ relationship ++
        "' role '" ++ role ++ "'"

/-! ## Configuration -/

/-- The settings of a compilation. -/
inductive SettingName where
  /-- The key of the metadata document. -/
  | metadataKey
  /-- Whether several service classes are refused. -/
  | strictEntityContainer
  /-- The service type of a document that does not tell its own. -/
  | defaultServiceType
  deriving DecidableEq, Repr

/-- The name of a setting in a file. -/
def SettingName.text : SettingName → String
  | metadataKey => "metadata_key"
  | strictEntityContainer => "strict_entity_container"
  | defaultServiceType => "default_service_type"

/-- Why a value is refused. -/
inductive ValueFault where
  /-- A text is expected. -/
  | notText
  /-- Bytes that are no text. -/
  | notUnicode
  /-- A text or integer that is no truth value. -/
  | noTruthWord
  /-- A value of a kind that cannot be a truth value. -/
  | notTruth
  /-- A value that is not among the allowed ones. -/
  | notAllowed
  /-- A mapping is expected. -/
  | notMapping
  /-- An object with the request's members is expected. -/
  | notObject
  /-- A value is required. -/
  | missing
  /-- A text that is no JSON. -/
  | invalidJson
  deriving DecidableEq, Repr

/-- The word for a kind of fault. -/
def ValueFault.text : ValueFault → String
  | notText => "string_type"
  | notUnicode => "string_unicode"
  | noTruthWord => "bool_parsing"
  | notTruth => "bool_type"
  | notAllowed => "literal_error"
  | notMapping => "dict_type"
  | notObject => "model_attributes_type"
  | missing => "missing"
  | invalidJson => "json_invalid"

/-- Why a vocabulary or the settings cannot be loaded. -/
inductive ConfigurationFault where
  /-- The file of a vocabulary cannot be read. -/
  | vocabularyUnreadable (name : String)
  /-- The document in the file of a vocabulary cannot be read. -/
  | vocabularyUnusable (name : String) (fault : MetadataFault)
  /-- Terms that are needed are not in a vocabulary. -/
  | vocabularyIncomplete (name : String) (terms : List String)
  /-- The settings file does not exist. -/
  | settingsMissing (name : String)
  /-- The settings file is a directory. -/
  | settingsUnreadable (name : String)
  /-- The settings file follows no known format. -/
  | settingsUnparsable (name : String)
  /-- The settings file holds something else than a mapping. -/
  | settingsNotMapping (name kind : String)
  /-- Some settings have values that are refused. -/
  | settingsInvalid (fields : List (SettingName × ValueFault))
  deriving DecidableEq, Repr

/-- The wording of a fault. -/
def ConfigurationFault.message : ConfigurationFault → String
  | .vocabularyUnreadable name => "Could not read vocabulary " ++ name
  | .vocabularyUnusable name fault => "Could not load vocabulary " ++ name ++ ": " ++ fault.message
  | .vocabularyIncomplete name terms =>
      "Vocabulary " ++ name ++ " does not define: " ++ ", ".intercalate terms
  | .settingsMissing name => "Settings file not found: " ++ name
  | .settingsUnreadable name =>
      "Cannot read settings file " ++ name ++ ": [Errno 21] Is a directory: " ++ Text.quoted name
  | .settingsUnparsable name => "Failed to parse settings file " ++ name ++ " as JSON or YAML"
  | .settingsNotMapping name kind => "Settings file " ++ name ++ " must be a mapping, got " ++ kind
  | .settingsInvalid _ => "Invalid compiler settings"

/-- The settings that a fault names. -/
def ConfigurationFault.detail : ConfigurationFault → FailureDetail
  | .settingsInvalid fields => .fields (fields.map fun f => (f.1.text, f.2.text))
  | _ => .none

/-! ## Arguments and annotations -/

/-- What a caller has to provide and has not. -/
inductive Requirement where
  | argument (name : String)
  /-- The document under the key of the metadata document. -/
  | document (key : String)
  deriving DecidableEq, Repr

/-- The wording of a missing requirement. -/
def Requirement.message : Requirement → String
  | .argument name => name ++ " is required"
  | .document key => "service_metadata has no '" ++ key ++ "' document"

/-- What is wrong with the shape of a restriction. -/
inductive ShapeFault where
  /-- Its value is not a record. -/
  | notRecord
  /-- It has not exactly one truth value. -/
  | booleans (count : Nat)
  /-- It has not exactly one collection. -/
  | collections (count : Nat)
  /-- Its collection has an element that is not a path. -/
  | notPath
  deriving DecidableEq, Repr

/-- The wording of a shape fault. -/
def ShapeFault.message : ShapeFault → String
  | .notRecord => "value is not a record"
  | .booleans count => "expected exactly one boolean property, found " ++ toString count
  | .collections count => "expected exactly one collection property, found " ++ toString count
  | .notPath => "collection elements must be property paths"

/-! ## All failures -/

/-- Why something failed. -/
inductive Failure where
  /-- The installation is at fault. -/
  | configuration (fault : ConfigurationFault)
  /-- The caller has left something out. -/
  | precondition (requirement : Requirement)
  /-- The metadata document cannot be read. -/
  | metadata (fault : MetadataFault)
  /-- A type is not defined. -/
  | unresolvedType (typeName referencedBy : String)
  /-- A property path leads nowhere; `segment` is the first part that is not found. -/
  | unresolvedPath (path className segment : String)
  /-- A restriction has a wrong shape. -/
  | annotationShape (term : String) (fault : ShapeFault)
  /-- There are several service classes where one is asked for. -/
  | duplicateServiceRoot (names : List String)
  deriving DecidableEq, Repr

/-! ## Mishaps -/

/-- A cause that has no report. -/
inductive Unforeseen where
  /-- A text has no bytes: it holds a half of a surrogate pair. -/
  | unencodable
  /-- A literal is outside its grammar where none is looked for. -/
  | literal (fault : LiteralFault)
  deriving DecidableEq, Repr

/-- Why something could not be done, where the foreseen causes are of some type. -/
inductive Mishap (φ : Type) where
  /-- A foreseen cause. -/
  | foreseen (fault : φ)
  /-- Another cause. -/
  | unforeseen (cause : Unforeseen)
  deriving DecidableEq, Repr

/-- A mishap with its foreseen cause seen as a part of something larger. -/
def Mishap.map {φ ψ : Type} (f : φ → ψ) : Mishap φ → Mishap ψ
  | foreseen fault => .foreseen (f fault)
  | unforeseen cause => .unforeseen cause

/-! ## Reports -/

/-- How a failure is reported. -/
def Failure.report : Failure → Report
  | .configuration fault => .ofMessage .configuration fault.message fault.detail
  | .precondition requirement => .ofMessage .precondition requirement.message .none
  | .metadata fault => .ofMessage .metadataParse fault.message .none
  | .unresolvedType typeName referencedBy => .unresolvedType typeName referencedBy
  | .unresolvedPath path className segment => .unresolvedPath path className segment
  | .annotationShape term fault => .annotationShape term fault.message
  | .duplicateServiceRoot names => .duplicateServiceRoot names

end EntityModel
