import EntityModel.Service.Request

/-!
# Submissions

A submission is what the body of a request for a compilation says: the documents of a service by their keys, and
whether several service classes are refused, which may be left to the settings. All that is wrong with it is
told at once, each fault with its place and with the value that is at fault.
-/

namespace EntityModel.Service

/-- Documents to be compiled. -/
structure Submission where
  /-- The documents by their keys. -/
  documents : Table String String := []
  /-- Whether several service classes are refused, if the submission says so. -/
  strict : Option Bool := none
  deriving DecidableEq, Repr

/-- A fault in the body of a request. -/
structure PlacedFault where
  /-- The steps that lead to its place, without halves of surrogate pairs. -/
  place : List String
  fault : ValueFault
  /-- The value at the place. -/
  given : Value := .null

namespace PlacedFault

/-- A fault can be told: the value holds nothing that cannot be sent back. -/
def isTellable (f : PlacedFault) : Bool := f.given.isTellable

end PlacedFault

namespace Submission

def bodyStep : String := "body"

/-- The name of the member with the documents. -/
def documentsName : String := "service_metadata"

/-- The documents, and the faults of the values that are no texts. -/
def documentsOf (v : Value) : Except (List PlacedFault) (Table String String) :=
  match v with
  | .mapping entries =>
      let faults : List PlacedFault := entries.filterMap fun e =>
        match e with
        | (.text key, v) =>
            match v.asText with
            | .ok _ => none
            | .error f => some ⟨[bodyStep, documentsName, Text.withoutHalves key], f, v⟩
        | _ => none
      if faults.isEmpty then
        .ok (Table.ofList (entries.filterMap fun e =>
          match e with
          | (.text key, .text document) => some (key, document)
          | _ => none))
      else .error faults
  | v => .error [⟨[bodyStep, documentsName], .notMapping, v⟩]

/-- Whether several service classes are refused. -/
def strictOf (v : Value) : Except (List PlacedFault) (Option Bool) :=
  match v with
  | .null => .ok none
  | v =>
      (v.asTruth.map some).mapError fun f => [⟨[bodyStep, SettingName.strictEntityContainer.text], f, v⟩]

/-- A part of the submission that may be left out. -/
def part {α : Type} (entries : List (Value × Value)) (name : String) (fallback : α)
    (read : Value → Except (List PlacedFault) α) : Except (List PlacedFault) α :=
  match Value.find? name entries with
  | some v => read v
  | none => .ok fallback

/-- The faults of a part. -/
def faultsOf {α : Type} (x : Except (List PlacedFault) α) : List PlacedFault :=
  match x with
  | .ok _ => []
  | .error fs => fs

def ofValue (v : Value) : Except (List PlacedFault) Submission :=
  match v with
  | .mapping entries =>
      match part entries documentsName [] documentsOf,
        part entries SettingName.strictEntityContainer.text none strictOf with
      | .ok documents, .ok strict => .ok { documents, strict }
      | documents, strict => .error (faultsOf documents ++ faultsOf strict)
  | v => .error [⟨[bodyStep], .notObject, v⟩]

end Submission

end EntityModel.Service
