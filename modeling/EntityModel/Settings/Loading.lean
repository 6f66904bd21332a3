import EntityModel.Environment
import EntityModel.Json.Reader
import EntityModel.Settings.Validation
import EntityModel.Text.Blank
import EntityModel.Yaml.Content

/-!
# Loading settings

Settings come from a file and from variables of the environment, which win over the file. The file is the one that is
named, or else the one that a variable names; without either there is no file. It holds a mapping, in JSON or
in YAML, or nothing.

Most faults are faults of the configuration. A few are not: a path that cannot be followed, content that is no text or
goes too deep, a key that is no text, and a scalar that does not have the value it is marked with.
-/

namespace EntityModel

/-- Why settings cannot be loaded. -/
inductive SettingsFault where
  | configuration (fault : ConfigurationFault)
  /-- The content of the file is no text. -/
  | undecodable
  /-- The mapping has a key that is no text. -/
  | keyNotText
  /-- An integer in the file has more digits than are read. -/
  | integerTooLong (digits : Nat)
  /-- Collections in the file are within each other more deeply than is read. -/
  | tooDeep
  /-- A scalar in the file has no value. -/
  | content (fault : Yaml.Fault)
  /-- The path of the file cannot be followed. -/
  | unreachable
  deriving DecidableEq, Repr

namespace Settings

/-! ## The environment -/

/-- The variable that names the settings file. -/
def fileVariable : String := "EDMGEN_CONFIG"

def variableOf : SettingName → String
  | .metadataKey => "EDMGEN_METADATA_KEY"
  | .strictEntityContainer => "EDMGEN_STRICT_ENTITY_CONTAINER"
  | .defaultServiceType => "EDMGEN_DEFAULT_SERVICE_TYPE"

/-- The value of a variable without the blanks around it, if there is more than blanks. -/
def given? (env : Environment) (name : String) : Option String :=
  ((env.bindings.lookup name).map Text.trim).filter (· ≠ "")

/-- The settings that variables give, as entries of a mapping. -/
def overrides (env : Environment) : List (Value × Value) :=
  [SettingName.metadataKey, .strictEntityContainer, .defaultServiceType].filterMap fun n =>
    (given? env (variableOf n)).map fun v => (.text n.text, .text v)

/-- The settings file: the one that is named, or else the one that a variable names. -/
def fileOf (named : Option SourceFile) (env : Environment) : Option SourceFile :=
  match named with
  | some f => some f
  | none => (given? env fileVariable).map fun path => ⟨plainPath path, env.file path⟩

/-! ## The file -/

/-- A text with line feeds as its line breaks. -/
def lineFeeds : List Char → List Char
  | '\r' :: '\n' :: s => '\n' :: lineFeeds s
  | '\r' :: s => '\n' :: lineFeeds s
  | c :: s => c :: lineFeeds s
  | [] => []

/-- The value in a text: JSON if it is, YAML otherwise. -/
def valueOf (name : String) (text : List Char) : Except SettingsFault (Option Value) :=
  match Json.read (String.ofList text) with
  | .ok j => .ok (some (Value.ofJson j))
  | .error (.integerTooLong digits) => .error (.integerTooLong digits)
  | .error .tooDeep => .error .tooDeep
  | .error (.malformed _) =>
      match Yaml.read text with
      | .ok v => .ok v
      | .error .malformed => .error (.configuration (.settingsUnparsable name))
      | .error .tooDeep => .error .tooDeep
      | .error f => .error (.content f)

/-- The entries of the mapping in a file. -/
def entriesOf (file : SourceFile) : Except SettingsFault (List (Value × Value)) :=
  match file.content with
  | .missing => .error (.configuration (.settingsMissing file.name))
  | .unreachable => .error .unreachable
  | .directory => .error (.configuration (.settingsUnreadable file.name))
  | .bytes content =>
      match decodeUtf8 content with
      | none => .error .undecodable
      | some text => do
          match ← valueOf file.name (lineFeeds text.toList) with
          | none | some .null => return []
          | some (.mapping entries) => return entries
          | some v => .error (.configuration (.settingsNotMapping file.name v.kind))

/-! ## Loading -/

def isTextKey (e : Value × Value) : Bool :=
  match e.1 with
  | .text _ => true
  | _ => false

/-- Loads the settings from the file that is named, if there is one, and from the environment. -/
def load (named : Option SourceFile) (env : Environment) : Except SettingsFault Settings := do
  let entries ← match fileOf named env with
    | some f => entriesOf f
    | none => pure []
  if !entries.all isTextKey then .error .keyNotText
  (ofEntries (entries ++ overrides env)).mapError fun fields => .configuration (.settingsInvalid fields)

end Settings

end EntityModel
