import EntityModel.Compilation.Attempt
import EntityModel.Service.Answer
import EntityModel.Surface.Format

/-!
# Answering requests

A path leads to a *route*, and each route takes one method; pages that describe the service can also be asked for
without their body. A path with slashes at its end leads to the path without them. `respond` answers a request and counts it. Its state is the counters alone: settings are loaded
anew for every compilation, and every compilation has a store of its own.

The counters are shown as they were before the request that asks for them.
-/

namespace EntityModel.Service

/-! ## Routes -/

/-- Where a path leads. -/
inductive Route where
  /-- The condition of the service. -/
  | health
  /-- The service is up. -/
  | live
  /-- The service can compile. -/
  | ready
  /-- The counters. -/
  | snapshot
  /-- The counters in the format of a collector. -/
  | exposition
  /-- A compilation. -/
  | compile
  /-- A page that describes the service to its users. -/
  | page
  deriving DecidableEq, Repr

/-- The method that asks for no body. -/
def bareMethod : String := "HEAD"

namespace Route

/-- All routes by their paths. -/
def table : List (String × Route) :=
  [("/health", health), ("/api/v1/health/live", live), ("/api/v1/health/ready", ready),
   ("/api/v1/metrics/snapshot", snapshot), ("/metrics", exposition),
   ("/api/v1/compiler/compile", compile), ("/openapi.json", page), ("/docs", page),
   ("/docs/oauth2-redirect", page), ("/redoc", page)]

/-- The route of a path. A line feed at its end does not count. -/
def ofPath? (path : List Char) : Option Route :=
  table.lookup (String.ofList (if path.getLast? = some '\n' then path.dropLast else path))

/-- A path without the slashes at its end. -/
def withoutSlashes (path : List Char) : List Char := (path.reverse.dropWhile (· = '/')).reverse

/-- A path leads to a route once the slashes at its end are left out. -/
def isNear (path : List Char) : Bool :=
  path.getLast? = some '/' && (ofPath? (withoutSlashes path)).isSome

/-- The methods that a route takes. -/
def methods : Route → List String
  | compile => ["POST"]
  | page => ["GET", bareMethod]
  | _ => ["GET"]

end Route

/-! ## Compilations -/

/-- The settings of a submission: those of the environment, unless it says itself what is refused. -/
def Submission.settings (s : Submission) (loaded : Settings) : Settings :=
  { loaded with strictContainer := s.strict.getD loaded.strictContainer }

def answerAttempt : Compilation.Attempt → Answer
  | .refused f | .failed f => .failed f
  | .broken _ => .broken
  | .compiled c =>
      match c.model.describe c.store with
      | .error f => .failed f
      | .ok value => .description value

def compileSubmission (c : Counters) (env : Environment) (s : Submission) : Answer × Counters :=
  match Settings.load none env with
  | .error (.configuration f) => (.failed (.configuration f), c)
  | .error _ => (.broken, c)
  | .ok loaded =>
      let a := Compilation.compile (s.settings loaded) none (some s.documents) {}
      (answerAttempt a, a.count c)

/-- The answer to a body with faults. One that cannot be told is a fault that nobody foresaw. -/
def answerFaults (faults : List PlacedFault) : Answer :=
  if faults.all (·.isTellable) then .invalid faults else .broken

/-- Compiles what the body of a request submits. -/
def compileBody (c : Counters) (r : Request) : Answer × Counters :=
  match r.content with
  | .none => (.invalid [⟨[Submission.bodyStep], .missing, .null⟩], c)
  | .malformed position => (.invalid [⟨[Submission.bodyStep, toString position], .invalidJson, .null⟩], c)
  | .unreadable => (.unreadableBody, c)
  | .other => (answerFaults [⟨[Submission.bodyStep], .notObject, .bytes r.body⟩], c)
  | .json j =>
      match Submission.ofValue (.ofJson j) with
      | .error faults => (answerFaults faults, c)
      | .ok s => compileSubmission c r.environment s

/-! ## Responses -/

/-- The answer of a route, with the counters of events after it. -/
def Route.answer (c : Counters) (r : Request) : Route → Answer × Counters
  | health => (.condition "healthy", c)
  | live => (.condition "alive", c.countNamed "health_live" 1)
  | ready => (.condition "ready", c.countNamed "health_ready" 1)
  | snapshot => (.counters c, c)
  | exposition => (.exposition, c)
  | compile => compileBody c r
  | page => (.page, c)

/-- The answer to a request, with the counters of events after it. -/
def answer (c : Counters) (r : Request) : Answer × Counters :=
  match Route.ofPath? r.path with
  | none => (if Route.isNear r.path then .moved else .notFound, c)
  | some route =>
      if Text.upper r.method ∈ route.methods then route.answer c r else (.methodNotAllowed, c)

/-- Counts a request by its answer. The status of an answer can always be written. -/
def countAnswer (r : Request) (a : Answer) (c : Counters) : Counters :=
  if a.isTrouble then c.countNamed a.troubleName 1
  else (c.countRequest r.method r.shownPath (some (a.status : Int))).toOption.getD c

/-- A response. -/
structure Response where
  /-- The answer that it brings. -/
  answer : Answer
  /-- The identity of the request, if it gave itself one; otherwise a new one is made. -/
  id : Option String
  /-- It is sent without its body. -/
  bare : Bool := false

/-- The body that is sent with a response, where a new identity is given if one is needed. -/
def Response.body (x : Response) (fresh : String) : Option Json :=
  if x.bare then none else x.answer.body (x.id.getD fresh)

/-- Answers a request and counts it. -/
def respond (c : Counters) (r : Request) : Response × Counters :=
  let (a, c) := answer c r
  ({ answer := a, id := r.id?, bare := Text.upper r.method = bareMethod }, countAnswer r a c)

end EntityModel.Service
