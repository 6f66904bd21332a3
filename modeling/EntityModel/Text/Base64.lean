/-!
# Base 64

Bytes are written with six bits to a character, and equals signs fill up the last group of four. Characters
outside the alphabet are passed over. Reading ends at the sign that completes a group; a text that ends within a
group is refused.
-/

namespace EntityModel.Text.Base64

/-- The six bits of a character of the alphabet. -/
def bits? (c : Char) : Option Nat :=
  if 'A' ≤ c && c ≤ 'Z' then some (c.toNat - 0x41)
  else if 'a' ≤ c && c ≤ 'z' then some (c.toNat - 0x61 + 26)
  else if c.isDigit then some (c.toNat - 0x30 + 52)
  else if c = '+' then some 62
  else if c = '/' then some 63
  else none

/-- The whole bytes of a group, given by its six-bit parts. Bits that make no whole byte do not count. -/
def bytesOfGroup : List Nat → List UInt8
  | [a, b] => [(4 * a + b / 16).toUInt8]
  | [a, b, c] => [(4 * a + b / 16).toUInt8, (16 * (b % 16) + c / 4).toUInt8]
  | [a, b, c, d] =>
      [(4 * a + b / 16).toUInt8, (16 * (b % 16) + c / 4).toUInt8, (64 * (c % 4) + d).toUInt8]
  | _ => []

/-- Reads characters behind a part of a group and a number of signs that fill it up. -/
def readFrom (group : List Nat) (signs : Nat) : List Char → Option (List UInt8)
  | [] => if group.isEmpty then some [] else none
  | c :: cs =>
      if c = '=' then
        if group.length < 2 then readFrom group signs cs
        else if 4 ≤ group.length + signs + 1 then some (bytesOfGroup group)
        else readFrom group (signs + 1) cs
      else
        match bits? c with
        | none => readFrom group signs cs
        | some b =>
            let group := group ++ [b]
            if group.length = 4 then (readFrom [] 0 cs).map (bytesOfGroup group ++ ·)
            else readFrom group 0 cs

/-- The bytes that a text denotes. -/
def read (s : List Char) : Option (List UInt8) := readFrom [] 0 s

end EntityModel.Text.Base64
