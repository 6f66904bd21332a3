import EntityModel.Text.Bytes

/-!
# JSON in bytes

The first characters of a JSON text are in ASCII, so the zeros among the first bytes tell the size and the
order of its units. Without zeros the text is in UTF-8, perhaps behind a mark that says so.
-/

namespace EntityModel.Json

/-- The encodings of JSON texts. -/
inductive Encoding where
  /-- One to four bytes for a character. -/
  | utf8
  /-- UTF-8 behind its mark. -/
  | marked
  /-- Units of two bytes, the high byte first or last. -/
  | pairs (highFirst : Bool)
  /-- Units of four bytes, the high byte first or last. -/
  | quads (highFirst : Bool)
  deriving DecidableEq, Repr

namespace Encoding

/-- The encoding that the first bytes tell. -/
def ofBytes : List UInt8 → Encoding
  | 0xEF :: 0xBB :: 0xBF :: _ => marked
  | [0, _] => pairs true
  | [_, 0] => pairs false
  | 0 :: 0 :: _ :: _ :: _ => quads true
  | 0 :: _ :: _ :: _ :: _ => pairs true
  | _ :: 0 :: 0 :: 0 :: _ => quads false
  | _ :: 0 :: _ :: _ :: _ => pairs false
  | _ => utf8

/-- The characters of bytes in an encoding. -/
def decode? (e : Encoding) (bytes : List UInt8) : Option (List Char) :=
  match e with
  | utf8 => Text.ofUtf8? bytes
  | marked => Text.ofUtf8? (bytes.drop 3)
  | pairs highFirst => (Text.units highFirst bytes).map fun us => Text.ofCodes (Text.ofUnits us)
  | quads highFirst => ((Text.quads highFirst bytes).bind Text.ofQuads?).map Text.ofCodes

end Encoding

/-- The text of bytes, if they are one. -/
def decode? (bytes : List UInt8) : Option String :=
  ((Encoding.ofBytes bytes).decode? bytes).map String.ofList

end EntityModel.Json
