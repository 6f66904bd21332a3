import EntityModel.Counters.Basic
import EntityModel.Json.Value
import EntityModel.Service.Submission

/-!
# Answers

What comes of a request, whatever it was. The kind of an answer decides its status and its body. A failure of
the installation or of the metadata, and a fault that nobody foresaw, are *trouble*: these bypass the counting
of requests, and their body shows the identity of the request.
-/

namespace EntityModel.Service

/-- What comes of a request. -/
inductive Answer where
  /-- The condition of the service, in a word. -/
  | condition (word : String)
  | counters (values : Counters)
  /-- The counters in the format of a collector, which is not modelled. -/
  | exposition
  /-- A page that describes the service to its users, which is not modelled. -/
  | page
  /-- The description of a compiled service. -/
  | description (value : Json)
  /-- Something is under the path without the slashes at its end. -/
  | moved
  /-- There is nothing under the path. -/
  | notFound
  /-- The path does not take the method. -/
  | methodNotAllowed
  /-- The body cannot be read. -/
  | unreadableBody
  /-- The body does not hold what it should. -/
  | invalid (faults : List PlacedFault)
  | failed (failure : Failure)
  /-- A fault that nobody foresaw. -/
  | broken

namespace Answer

/-- The status of the response. -/
def status : Answer → Nat
  | condition _ | counters _ | exposition | page | description _ => 200
  | moved => 307
  | notFound => 404
  | methodNotAllowed => 405
  | unreadableBody => 400
  | invalid _ => 422
  | failed f => f.report.kind.status
  | broken => 500

def isTrouble : Answer → Bool
  | failed _ | broken => true
  | _ => false

/-- The event that trouble is counted as. -/
def troubleName : Answer → String
  | failed f => "errors_" ++ f.report.code
  | _ => "errors_unhandled"

/-! ## Bodies -/

/-- A table of counters as JSON. -/
def tableJson (t : Table String Int) : Json := .object (t.map fun e => (e.1, .int e.2))

/-- All counters as JSON: those of requests in a member of their own, the named ones beside it, and the number of
all requests once more. -/
def countersJson (c : Counters) : Json :=
  let members : Table String Json :=
    c.named.foldl (fun t e => Table.put e.1 (Json.int e.2) t) [("requests", tableJson c.requests)]
  match c.requests.lookup Counters.totalKey with
  | some n => .object (Table.put Counters.totalKey (.int n) members)
  | none => .object members

/-- A body that says what is wrong. -/
def detail (value : Json) : Json := .object [("detail", value)]

/-- A body that says what is wrong with a request of some identity. -/
def trouble (value : Json) (id : String) : Json := .object [("detail", value), ("request_id", .text id)]

/-- The body of the response to a request of some identity. -/
def body (id : String) : Answer → Option Json
  | condition word => some (.object [("status", .text word)])
  | counters values => some (countersJson values)
  | exposition | page | moved => none
  | description value => some value
  | notFound => some (detail (.text "Not Found"))
  | methodNotAllowed => some (detail (.text "Method Not Allowed"))
  | unreadableBody => some (detail (.text "There was an error parsing the body"))
  | invalid faults =>
      some (detail (.list (faults.map fun f =>
        .list [.text (".".intercalate f.place), .text f.fault.text])))
  | failed f =>
      some (trouble (.object [("error_code", .text f.report.code), ("message", .text f.report.message)]) id)
  | broken => some (trouble (.text "Internal Server Error") id)

end Answer

end EntityModel.Service
