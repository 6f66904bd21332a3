import EntityModel.Json.Value
import EntityModel.Moment
import EntityModel.Text.Half

/-!
# Values

What a settings file or the body of a request may hold. JSON values are among these; there are also bytes,
moments, sets, and mappings whose keys are no texts.
-/

namespace EntityModel

open Numeral (Binary64)

/-- A value. Of the entries of a mapping with one key, the last one counts. -/
inductive Value where
  /-- No value. -/
  | null
  /-- A truth value. -/
  | bool (value : Bool)
  | int (value : Int)
  | float (value : Binary64)
  | text (value : String)
  | bytes (content : List UInt8)
  /-- A date or a time. -/
  | moment (value : Moment)
  | list (items : List Value)
  | set (items : List Value)
  | mapping (entries : List (Value × Value))
  deriving Inhabited

namespace Value

/-- The word for the kind of a value. -/
def kind : Value → String
  | null => "NoneType"
  | bool _ => "bool"
  | int _ => "int"
  | float _ => "float"
  | text _ => "str"
  | bytes _ => "bytes"
  | moment m => if m.clock.isSome then "datetime" else "date"
  | list _ => "list"
  | set _ => "set"
  | mapping _ => "dict"

mutual

def ofJson : Json → Value
  | .null => .null
  | .bool b => .bool b
  | .int n => .int n
  | .float x => .float x
  | .text s => .text s
  | .list items => .list (ofItems items)
  | .object fields => .mapping (ofFields fields)

/-- The items of an array as values. -/
def ofItems : List Json → List Value
  | [] => []
  | j :: js => ofJson j :: ofItems js

/-- The members of an object as entries. -/
def ofFields : List (String × Json) → List (Value × Value)
  | [] => []
  | (name, j) :: fs => (.text name, ofJson j) :: ofFields fs

end

mutual

/-- The value can be sent as JSON in UTF-8: its floats are finite, and its texts hold no halves of surrogate
pairs. -/
def isTellable : Value → Bool
  | null | bool _ | int _ | moment _ => true
  | bytes b => (String.fromUTF8? ⟨b.toArray⟩).isSome
  | float x => !x.isNaN && !x.isInfinite
  | text s => !Text.hasHalf s
  | list items | set items => allTellable items
  | mapping entries => entriesTellable entries

/-- All items can be sent. -/
def allTellable : List Value → Bool
  | [] => true
  | v :: vs => v.isTellable && allTellable vs

/-- All entries can be sent. -/
def entriesTellable : List (Value × Value) → Bool
  | [] => true
  | (k, v) :: es => k.isTellable && v.isTellable && entriesTellable es

end

/-- The value of a key in the entries of a mapping: the last one. -/
def find? (name : String) (entries : List (Value × Value)) : Option Value :=
  match entries with
  | [] => none
  | (k, v) :: rest =>
      match find? name rest with
      | some w => some w
      | none =>
          match k with
          | .text s => if s = name then some v else none
          | _ => none

end Value

end EntityModel
