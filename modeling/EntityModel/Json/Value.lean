import EntityModel.Numeral.Binary64
import EntityModel.Table

/-!
# JSON values

A JSON value. The members of an object form a table, in the order in which their names first appeared.
-/

namespace EntityModel

open Numeral (Binary64)

/-- A JSON value. -/
inductive Json where
  /-- `null`. -/
  | null
  /-- `true` or `false`. -/
  | bool (value : Bool)
  /-- A number written without point and exponent. -/
  | int (value : Int)
  /-- A number written with a point or an exponent. -/
  | float (value : Binary64)
  | text (value : String)
  /-- An array. -/
  | list (items : List Json)
  /-- An object: a table of its members. -/
  | object (fields : List (String × Json))
  deriving Inhabited

namespace Json

/-- The member of an object with a given name. -/
def get? (name : String) : Json → Option Json
  | .object fields => fields.lookup name
  | _ => none

/-- A text that may be missing. -/
def ofText? : Option String → Json
  | some s => .text s
  | none => .null

/-- An array of texts. -/
def texts (ss : List String) : Json := .list (ss.map .text)

end Json

end EntityModel
