import EntityModel.SourceFile
import EntityModel.Text.Half

/-!
# What surrounds the program

The program is surrounded by variables and by files. A variable is a string of bytes without a zero, and its name
is not empty and has no equals sign. A text is given to a variable in UTF-8, where the second halves of surrogate
pairs from U+DC80 to U+DCFF stand for single bytes and other halves for nothing.
-/

namespace EntityModel

/-- What surrounds the program. -/
structure Environment where
  /-- The variables. -/
  bindings : List (String × String) := []
  /-- What is found under a path. -/
  file : String → FileContent := fun _ => .missing

/-- Why a variable cannot be set. -/
inductive BindingFault where
  /-- Its name or its text has no bytes. -/
  | unencodable
  /-- Its name or its text has a zero. -/
  | holdsZero
  /-- Its name has an equals sign. -/
  | misnamed
  /-- Its name is empty. -/
  | nameless
  deriving DecidableEq, Repr

namespace Environment

/-- A code point has bytes, or stands for a byte. -/
def isSettable (n : Nat) : Bool := !Text.isHalfUnit n || (0xDC80 ≤ n && n ≤ 0xDCFF)

/-- The fault of a variable, if it has one. -/
def bindingFault? (b : String × String) : Option BindingFault :=
  let hasZero (s : String) : Bool := s.toList.contains (Char.ofNat 0)
  if !(Text.codes b.1.toList ++ Text.codes b.2.toList).all isSettable then some .unencodable
  else if hasZero b.1 || hasZero b.2 then some .holdsZero
  else if b.1.toList.contains '=' then some .misnamed
  else if b.1 = "" then some .nameless
  else none

/-- The fault of the first variable that cannot be set. -/
def fault? (env : Environment) : Option BindingFault := env.bindings.findSome? bindingFault?

end Environment

end EntityModel
