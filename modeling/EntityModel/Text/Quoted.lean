import EntityModel.Text.Half
import EntityModel.Text.Printable

/-!
# Quoted texts

A message that complains about a literal shows it between quotes. The quote is the apostrophe, unless the
text holds an apostrophe and no double quote. A backslash, a line feed, a carriage return, a tab and the
chosen quote stand behind a backslash. A character that does not show is written as its code point in two,
four or eight hexadecimal digits behind `x`, `u` or `U`, and a half of a surrogate pair as its code unit.
-/

namespace EntityModel.Text.Quoted

/-- The apostrophe, unless that alone would have to be escaped. -/
def quoteFor (s : List Char) : Char :=
  if s.contains (Char.ofNat 0x27) && !s.contains (Char.ofNat 0x22) then Char.ofNat 0x22
  else Char.ofNat 0x27

/-- The lower-case hexadecimal digits of `n`, padded with zeros to `width`. -/
def hex (width n : Nat) : List Char :=
  let digits := Nat.toDigits 16 n
  List.replicate (width - digits.length) '0' ++ digits

/-- The letter that stands for a character behind a backslash. -/
def letter? (quote c : Char) : Option Char :=
  if c = quote || c = '\\' then some c
  else if c = '\n' then some 'n'
  else if c = '\r' then some 'r'
  else if c = '\t' then some 't'
  else none

/-- One code point as it stands between the quotes. -/
def escape (quote : Char) (n : Nat) : List Char :=
  match letter? quote (Char.ofNat n) with
  | some l => ['\\', l]
  | none =>
      if !isHalfUnit n && isPrintable (Char.ofNat n) then ofCode n
      else if n < 0x100 then '\\' :: 'x' :: hex 2 n
      else if n < 0x10000 then '\\' :: 'u' :: hex 4 n
      else '\\' :: 'U' :: hex 8 n

/-- The characters of a text between quotes. -/
def encode (s : List Char) : List Char :=
  let quote := quoteFor s
  quote :: ((codes s).flatMap (escape quote) ++ [quote])

end EntityModel.Text.Quoted

namespace EntityModel.Text

/-- A text between quotes, as a message shows it. -/
def quoted (s : String) : String := String.ofList (Quoted.encode s.toList)

end EntityModel.Text
