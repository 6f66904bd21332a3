import EntityModel.Failure.Basic
import EntityModel.Settings.Basic
import EntityModel.Text.Bytes
import EntityModel.Value

/-!
# Checking settings

Settings are given by a mapping from their names to values. A name that is not there leaves a setting as it is by
default, and other names do not matter. Every setting is checked, so that all faults are told at once, in
the order of `Settings`.

A truth value may also be given as one of the integers or floats zero and one, or by a word. Bytes stand
for the text that they encode. A text with a half of a surrogate pair is taken where any text will do, and
nowhere else. An integer of more than 64 bits is of another kind than the others.
-/

namespace EntityModel

open CodeModel (ServiceType)
open Numeral (Binary64)

/-- The text of bytes, if they are one. -/
def decodeUtf8 (bytes : List UInt8) : Option String := (Text.ofUtf8? bytes).map String.ofList

namespace Value

/-! ## Texts and truth values -/

/-- The text that is given. -/
def asText : Value → Except ValueFault String
  | .text s => .ok s
  | .bytes b =>
      match decodeUtf8 b with
      | some s => .ok s
      | none => .error .notUnicode
  | _ => .error .notText

def trueWords : List String := ["1", "t", "true", "y", "yes", "on"]

def falseWords : List String := ["0", "f", "false", "n", "no", "off"]

/-- The truth value of a word in any case of its ASCII letters. -/
def truthOfWord (s : String) : Except ValueFault Bool :=
  let word := String.ofList (s.toList.map Char.toLower)
  if trueWords.contains word then .ok true
  else if falseWords.contains word then .ok false
  else .error .noTruthWord

/-- An integer fits into 64 bits, one of them for the sign. -/
def isWord (n : Int) : Bool := -0x8000000000000000 ≤ n && n < 0x8000000000000000

/-- The truth value that is given. -/
def asTruth : Value → Except ValueFault Bool
  | .bool b => .ok b
  | .text s => if Text.hasHalf s then .error .notUnicode else truthOfWord s
  | .bytes b =>
      match decodeUtf8 b with
      | some s => truthOfWord s
      | none => .error .noTruthWord
  | .int n =>
      if n = 0 then .ok false
      else if n = 1 then .ok true
      else .error (if isWord n then .noTruthWord else .notTruth)
  | .float x =>
      if x.magnitude = 0 then .ok false
      else if x = Binary64.ofDecimal false 1 0 then .ok true
      else .error .notTruth
  | _ => .error .notTruth

/-- The service type that is given. -/
def asServiceType : Value → Except ValueFault ServiceType
  | .text s =>
      if Text.hasHalf s then .error .notUnicode
      else
        match ServiceType.ofText? s with
        | some t => .ok t
        | none => .error .notAllowed
  | _ => .error .notAllowed

end Value

/-! ## Settings -/

namespace Settings

/-- A setting by its name: what is given, or else its default. -/
def setting {α : Type} (entries : List (Value × Value)) (name : SettingName) (fallback : α)
    (read : Value → Except ValueFault α) : Except ValueFault α :=
  match Value.find? name.text entries with
  | some v => read v
  | none => .ok fallback

/-- The fault of a setting, if it has one. -/
def faultOf {α : Type} (name : SettingName) (x : Except ValueFault α) : List (SettingName × ValueFault) :=
  match x with
  | .ok _ => []
  | .error f => [(name, f)]

/-- The settings that the entries of a mapping give. -/
def ofEntries (entries : List (Value × Value)) : Except (List (SettingName × ValueFault)) Settings :=
  let fallback : Settings := {}
  let key := setting entries .metadataKey fallback.metadataKey Value.asText
  let strict := setting entries .strictEntityContainer fallback.strictContainer Value.asTruth
  let type := setting entries .defaultServiceType fallback.defaultServiceType Value.asServiceType
  match key, strict, type with
  | .ok metadataKey, .ok strictContainer, .ok defaultServiceType =>
      .ok { metadataKey, strictContainer, defaultServiceType }
  | key, strict, type =>
      .error (faultOf .metadataKey key ++ faultOf .strictEntityContainer strict ++
        faultOf .defaultServiceType type)

end Settings

end EntityModel
