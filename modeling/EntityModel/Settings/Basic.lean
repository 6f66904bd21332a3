import EntityModel.CodeModel.Model

/-!
# Settings

Three settings decide how a service is compiled.
-/

namespace EntityModel

/-- The settings of a compilation. -/
structure Settings where
  /-- The key under which the metadata document is found. -/
  metadataKey : String := "$metadata"
  /-- Several service classes are refused. -/
  strictContainer : Bool := false
  /-- The service type of a document that does not tell its own. -/
  defaultServiceType : CodeModel.ServiceType := .v4
  deriving DecidableEq, Repr

end EntityModel
