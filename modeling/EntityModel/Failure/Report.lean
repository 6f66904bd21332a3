/-!
# Reports of failures

What the outside sees of a failure: the class it belongs to, a code, a message, and for some classes the
parts that the message is made of. The class alone says whether the input or the installation is at fault.
-/

namespace EntityModel

/-- The classes of failures. -/
inductive FailureClass where
  /-- Any failure of a compilation. -/
  | general
  /-- A vocabulary or the settings could not be loaded. -/
  | configuration
  /-- A required argument was not given. -/
  | precondition
  /-- The metadata is malformed or refers to things that do not exist. -/
  | dataConsistency
  /-- The metadata cannot be read. -/
  | metadataParse
  /-- A type is referred to that is not defined. -/
  | unresolvedType
  /-- A property path leads nowhere. -/
  | unresolvedPath
  /-- An annotation has not the shape that its term asks for. -/
  | annotationShape
  /-- More than one class is the root of the service. -/
  | duplicateServiceRoot
  deriving DecidableEq, Repr

namespace FailureClass

def code : FailureClass → String
  | general => "ocm.error"
  | configuration => "ocm.configuration"
  | precondition => "ocm.precondition"
  | dataConsistency => "ocm.data_consistency"
  | metadataParse => "ocm.metadata_parse"
  | unresolvedType => "ocm.unresolved_type"
  | unresolvedPath => "ocm.unresolved_property_path"
  | annotationShape => "ocm.annotation_shape"
  | duplicateServiceRoot => "ocm.duplicate_service_root"

/-- The failure says that the metadata is not consistent. -/
def isDataConsistency : FailureClass → Bool
  | general | configuration | precondition => false
  | _ => true

/-- The failure says that the value of an argument is wrong. -/
def isArgument (c : FailureClass) : Bool := c = precondition

/-- The status of a response that reports the failure: the installation or the input is at fault. -/
def status (c : FailureClass) : Nat := if c = configuration then 500 else 422

end FailureClass

/-- The parts of a message, for the classes that keep them. -/
inductive FailureDetail where
  /-- Nothing but the message. -/
  | none
  /-- The type and where it is referred to; the latter may be empty. -/
  | unresolvedType (typeName referencedBy : String)
  /-- The path, the class it starts from and the segment that is not found. -/
  | unresolvedPath (path className segment : String)
  /-- The term and what is wrong. -/
  | annotationShape (term reason : String)
  /-- The names of the classes. -/
  | duplicateServiceRoot (names : List String)
  /-- The settings that are not valid, each with the kind of fault. -/
  | fields (fields : List (String × String))
  deriving DecidableEq, Repr

/-- A failure as it is reported. -/
structure Report where
  kind : FailureClass
  code : String
  message : String
  /-- The parts of the message. -/
  detail : FailureDetail := .none
  deriving DecidableEq, Repr

namespace Report

/-- A report with a message and the code of its class, unless another code is given that is not empty. -/
def plain (kind : FailureClass) (message : String) (code : Option String) : Report :=
  { kind, message, code := (code.filter fun c => c != "").getD kind.code }

/-- A report with the code of its class. -/
def ofMessage (kind : FailureClass) (message : String) (detail : FailureDetail) : Report :=
  { kind, code := kind.code, message, detail }

/-- The report on a type that is not defined. -/
def unresolvedType (typeName referencedBy : String) : Report :=
  let place := if referencedBy = "" then "" else " (referenced by " ++ referencedBy ++ ")"
  ofMessage .unresolvedType
    ("Type '" ++ typeName ++ "' is not defined in the service metadata" ++ place)
    (.unresolvedType typeName referencedBy)

/-- The report on a path that leads nowhere. An empty segment is reported as the whole path. -/
def unresolvedPath (path className segment : String) : Report :=
  let segment := if segment = "" then path else segment
  ofMessage .unresolvedPath
    ("Property path '" ++ path ++ "' cannot be resolved on '" ++ className ++ "' (segment '" ++ segment ++
      "' not found)")
    (.unresolvedPath path className segment)

/-- The report on an annotation of a wrong shape. -/
def annotationShape (term reason : String) : Report :=
  ofMessage .annotationShape ("Annotation '" ++ term ++ "' has an unsupported shape: " ++ reason)
    (.annotationShape term reason)

/-- The report on several roots of a service. -/
def duplicateServiceRoot (names : List String) : Report :=
  ofMessage .duplicateServiceRoot
    ("More than one Service class found in the model: " ++ ", ".intercalate names)
    (.duplicateServiceRoot names)

end Report

end EntityModel
