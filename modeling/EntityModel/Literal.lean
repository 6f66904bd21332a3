import EntityModel.Numeral.Binary64
import EntityModel.Numeral.Integer
import EntityModel.Text.Blank
import EntityModel.Text.Quoted

/-!
# Literals in a document

Flags, enumeration values and constant annotation values are written as texts. A truth value is one of four
words in any case; an integer and a float follow the grammars of `Numeral`. Blanks around a literal never
count. A text outside its grammar is a `LiteralFault`, which shows the text between quotes. The names of elements
are held to a grammar too, and a name outside it is a fault of the same kind.
-/

namespace EntityModel

open Numeral (Binary64 IntegerFault)

/-- Why a text is not the literal that is expected. -/
inductive LiteralFault where
  /-- The text is not a truth value. -/
  | boolean (text : String)
  /-- The text is not an integer. -/
  | integer (text : String)
  /-- The text starts with more digits than an integer may have. -/
  | integerTooLong (digits : Nat)
  /-- The text is not a float. -/
  | float (text : String)
  /-- The text is not the local part of the name of an element. -/
  | elementName (text : String)
  deriving DecidableEq, Repr

/-- How many characters of a quoted text are shown at most where an integer was expected. -/
def shownWidth : Nat := 200

/-- The wording where an integer in some base was expected. -/
def notInteger (base : Nat) (text : String) : String :=
  "invalid literal for int() with base " ++ toString base ++ ": " ++
    String.ofList ((Text.quoted text).toList.take shownWidth)

/-- The wording where a float was expected. -/
def notFloat (text : String) : String := "could not convert string to float: " ++ Text.quoted text

/-- The wording of a fault. -/
def LiteralFault.message : LiteralFault → String
  | .boolean text => "invalid boolean literal " ++ Text.quoted text
  | .integer text => notInteger 10 text
  | .integerTooLong digits =>
      "Exceeds the limit (4300 digits) for integer string conversion: value has " ++ toString digits ++
        " digits; use sys.set_int_max_str_digits() to increase the limit"
  | .float text => notFloat text
  | .elementName text => "Invalid tag name " ++ Text.quoted text

def LiteralFault.ofInteger (text : String) : IntegerFault → LiteralFault
  | .malformed => .integer text
  | .tooLong digits => .integerTooLong digits

namespace Literal

/-- The truth value of a word. -/
def truth? (word : String) : Option Bool :=
  if word = "true" || word = "1" then some true
  else if word = "false" || word = "0" then some false
  else none

/-- Reads a truth value. Only ASCII letters have the letters of the four words as their small form, so
the ASCII case map decides. -/
def bool (text : String) : Except LiteralFault Bool :=
  match truth? (String.ofList ((Text.trim text).toList.map Char.toLower)) with
  | some b => .ok b
  | none => .error (.boolean text)

/-- Reads a truth value that may be left out. -/
def boolD (fallback : Bool) : Option String → Except LiteralFault Bool
  | none => .ok fallback
  | some text => bool text

/-- Reads an integer. -/
def int (text : String) : Except LiteralFault Int :=
  (Numeral.readInteger (Text.trim text).toList).mapError (.ofInteger text)

/-- Reads an integer that may be left out or blank. -/
def int? : Option String → Except LiteralFault (Option Int)
  | none => .ok none
  | some text =>
      if Text.isBlankText text then .ok none
      else (int (Text.trim text)).map some

/-- Reads a float. -/
def float (text : String) : Except LiteralFault Binary64 :=
  match Binary64.read (Text.trim text).toList with
  | some x => .ok x
  | none => .error (.float text)

end Literal

end EntityModel
