import EntityModel.CodeModel.Registry

/-!
# Models

A model is a registry together with what is known about the service as a whole. Its *root* is its service
class. If there are several, the first one is the root, unless the model is strict: then there is none.
-/

namespace EntityModel.CodeModel

/-- The two generations of the protocol. -/
inductive ServiceType where
  /-- The older one. -/
  | v3
  /-- The newer one. -/
  | v4
  deriving DecidableEq, Repr

/-- The word for a service type. -/
def ServiceType.text : ServiceType → String
  | v3 => "v3"
  | v4 => "v4"

def ServiceType.ofText? (word : String) : Option ServiceType :=
  if word = "v3" then some v3 else if word = "v4" then some v4 else none

/-- A model of a service. -/
structure Model where
  /-- The documents that the model was made from, by key. -/
  metadata : Table String String := []
  /-- The generation of the protocol. -/
  serviceType : ServiceType := .v4
  /-- Several service classes are refused. -/
  strict : Bool := false
  /-- The types. -/
  registry : Registry := {}
  deriving DecidableEq, Repr, Inhabited

namespace Model

/-- A type that is the root of a service. -/
def isService (s : Store) (t : TypeId) : Bool := (s.class? t).any fun d => d.kind = .service

/-- The service classes, namespace by namespace. -/
def services (m : Model) (s : Store) : List TypeId :=
  m.registry.namespaces.flatMap fun n => n.types.filter (isService s)

/-- The root of the service. -/
def root? (m : Model) (s : Store) : Except Failure (Option TypeId) :=
  match m.services s with
  | t :: u :: more =>
      if m.strict then .error (.duplicateServiceRoot ((t :: u :: more).map s.fullName))
      else .ok (some t)
  | ts => .ok ts.head?

end Model

end EntityModel.CodeModel
