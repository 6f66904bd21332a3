import EntityModel.Charset.Name
import EntityModel.Xml.Head

/-!
# Encodings of documents

A document comes as bytes. A byte order mark, or the first bytes of a declaration, settles an encoding whose
units have a fixed number of bytes, or UTF-8; then the name in the declaration does not count. Otherwise the
declaration is read byte by byte up to the name of an encoding, and the bytes behind the name are read by the charset
of that name. A document that names no encoding is read as UTF-8.
-/

namespace EntityModel.Xml.Encoding

/-- What the first bytes settle: a charset, and how many bytes belong to the mark that settles it. -/
def detect? : List UInt8 → Option (Charset.Reading × Nat)
  | 0xFF :: 0xFE :: 0x00 :: 0x00 :: _ => some (Charset.Unicode.utf32? false, 4)
  | 0x00 :: 0x00 :: 0xFE :: 0xFF :: _ => some (Charset.Unicode.utf32? true, 4)
  | 0x3C :: 0x00 :: 0x00 :: 0x00 :: _ => some (Charset.Unicode.utf32? false, 0)
  | 0x00 :: 0x00 :: 0x00 :: 0x3C :: _ => some (Charset.Unicode.utf32? true, 0)
  | 0x3C :: 0x00 :: 0x3F :: 0x00 :: _ => some (Charset.Unicode.utf16? false, 0)
  | 0x00 :: 0x3C :: 0x00 :: 0x3F :: _ => some (Charset.Unicode.utf16? true, 0)
  | 0xEF :: 0xBB :: 0xBF :: _ => some (Charset.Unicode.utf8?, 3)
  | 0xFE :: 0xFF :: _ => some (Charset.Unicode.utf16? true, 2)
  | 0xFF :: 0xFE :: _ => some (Charset.Unicode.utf16? false, 2)
  | _ => none

/-- The characters of a document, if its encoding is known and its bytes follow it. -/
def read? (bytes : List UInt8) : Option (List Char) :=
  match detect? bytes with
  | some (reading, mark) => reading (bytes.drop mark)
  | none =>
      let plain := bytes.map fun b => Char.ofNat b.toNat
      match Scan.headEncoding plain with
      | none => Charset.Unicode.utf8? bytes
      | some (name, rest) =>
          let head := bytes.length - rest.length
          (Charset.ofName? name).bind fun reading => (reading (bytes.drop head)).map (plain.take head ++ ·)

end EntityModel.Xml.Encoding
