import EntityModel.Json.Encoding
import EntityModel.Json.Reader
import EntityModel.Service.Target
import EntityModel.Settings.Loading

/-!
# Requests

A request names a method and a target and may bring headers and a body. Names of headers are read in any case,
and the first header with a name counts.

A body is read as JSON if its content type says so.

A request can be sent if its target is an address and its headers are in ASCII.
-/

namespace EntityModel.Service

/-- A request together with what surrounds the program while it is answered. -/
structure Request where
  method : String
  /-- What the request is for. -/
  target : String
  headers : List (String × String) := []
  /-- The bytes of the body; no body is an empty one. -/
  body : List UInt8 := []
  environment : Environment := {}

/-- A text with small ASCII letters. -/
def lowered (s : String) : String := String.ofList (s.toList.map Char.toLower)

namespace Request

def path (r : Request) : List Char := Target.path r.target

/-- The path under which the request is counted. -/
def shownPath (r : Request) : String := Target.shown r.path

/-- The value of the first header with a name, which is given in small letters. -/
def header? (r : Request) (name : String) : Option String :=
  (r.headers.find? fun h => lowered h.1 = name).map (·.2)

/-- The header by which a request and its response are identified. -/
def idHeader : String := "x-request-id"

/-- The identity that the request gives itself, if any. -/
def id? (r : Request) : Option String := (r.header? idHeader).filter (· ≠ "")

/-! ## Sending -/

/-- The headers can be sent. -/
def hasPlainHeaders (r : Request) : Bool :=
  r.headers.all fun h => (h.1.toList ++ h.2.toList).all (·.toNat < 0x80)

/-- Why the request cannot be sent. -/
def fault? (r : Request) : Option AddressFault :=
  match Address.fault? r.target.toList with
  | some f => some f
  | none => if r.hasPlainHeaders then none else some .unencodable

/-! ## Bodies -/

/-- A content type, without its parameters, says that the content is JSON. -/
def isJsonType (type : String) : Bool :=
  match Text.segments '/' (lowered (Text.trim type)) with
  | ["application", kind] => kind = "json" || kind.endsWith "+json"
  | _ => false

/-- The content is said to be JSON. -/
def claimsJson (r : Request) : Bool :=
  match r.header? "content-type" with
  | none => false
  | some type => isJsonType (String.ofList (type.toList.takeWhile (· ≠ ';')))

/-- What the body of a request holds. -/
inductive Body where
  /-- Nothing. -/
  | none
  | json (value : Json)
  /-- Something else. -/
  | other
  /-- A text that should be JSON and is not, from a position on. -/
  | malformed (position : Nat)
  /-- Bytes that are no text, or JSON with a number too long or with too many levels to be read. -/
  | unreadable

/-- Reads the body. -/
def content (r : Request) : Body :=
  if r.body.isEmpty then .none
  else if !r.claimsJson then .other
  else
    match Json.decode? r.body with
    | none => .unreadable
    | some text =>
        match Json.read text with
        | .ok v => .json v
        | .error (.malformed position) => .malformed position
        | .error (.integerTooLong _) | .error .tooDeep => .unreadable

end Request

end EntityModel.Service
