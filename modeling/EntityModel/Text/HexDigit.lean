/-!
# Hexadecimal digits

Escapes give a byte or a code point by hexadecimal digits of ASCII, with letters of either case.
-/

namespace EntityModel.Text

/-- What a hexadecimal digit is worth. -/
def hexDigit? (c : Char) : Option Nat :=
  if '0' ≤ c && c ≤ '9' then some (c.toNat - 0x30)
  else if 'a' ≤ c && c ≤ 'f' then some (c.toNat - 0x57)
  else if 'A' ≤ c && c ≤ 'F' then some (c.toNat - 0x37)
  else none

/-- The byte that two hexadecimal digits denote. -/
def hexByte? (a b : Char) : Option UInt8 :=
  match hexDigit? a, hexDigit? b with
  | some x, some y => some (16 * x + y).toUInt8
  | _, _ => none

/-- The bytes that hexadecimal digits denote, two for each; what denotes none counts as zero. -/
def hexBytes : List Char → List UInt8
  | a :: b :: s => (hexByte? a b).getD 0 :: hexBytes s
  | _ => []

end EntityModel.Text
