import EntityModel.Text.Blank
import EntityModel.Text.Split

/-!
# Names of types

A name is qualified by a namespace, which may itself contain dots; so a full name is cut at its last dot. A
reference to a type may ask for a collection of it. The parts of a service document are listed under
their *dotted* name, which has the dot even where the namespace is empty.
-/

namespace EntityModel

/-- A name in a namespace. -/
structure QualifiedName where
  /-- The namespace, dots included. -/
  space : String
  /-- The name within it. -/
  name : String
  deriving DecidableEq, Repr, Inhabited

namespace QualifiedName

/-- Cuts a full name at its last dot. A name without a dot has the empty namespace. -/
def ofText (full : String) : QualifiedName :=
  match Text.cutLast '.' full.toList with
  | some (space, name) => ⟨String.ofList space, String.ofList name⟩
  | none => ⟨"", full⟩

/-- The namespace, a dot and the name. -/
def dotted (n : QualifiedName) : String := n.space ++ "." ++ n.name

/-- The full name: without a dot if the namespace is empty. -/
def full (n : QualifiedName) : String := if n.space = "" then n.name else n.dotted

theorem full_of_space_ne {n : QualifiedName} (h : n.space ≠ "") : n.full = n.dotted := by
  simp [full, h]

/-- A text is the full name of what it is cut into, or it has a dot in front of a name without a namespace. -/
theorem full_ofText (text : String) :
    (ofText text).full = text ∨ (ofText text).space = "" ∧ (ofText text).dotted = text := by
  rw [ofText]
  split
  · next space name hcut =>
      have hdotted : (⟨String.ofList space, String.ofList name⟩ : QualifiedName).dotted = text := by
        rw [← String.toList_inj, dotted, String.toList_append, String.toList_append, String.toList_ofList,
          String.toList_ofList, ← Text.append_of_cutLast hcut]
        simp
      by_cases hspace : String.ofList space = ""
      · exact .inr ⟨hspace, hdotted⟩
      · exact .inl ((full_of_space_ne hspace).trans hdotted)
  · exact .inl rfl

/-- A dotted name is cut into what it was made of, if the name has no dot of its own. -/
theorem ofText_dotted {n : QualifiedName} (h : '.' ∉ n.name.toList) : ofText n.dotted = n := by
  have hdotted : n.dotted.toList = n.space.toList ++ '.' :: n.name.toList := by
    rw [dotted, String.toList_append, String.toList_append, List.append_assoc]
    rfl
  rw [ofText, hdotted, Text.cutLast_append_of_notMem h]
  simp

end QualifiedName

/-! ## References to types -/

/-- What a reference to a type says: the type, and whether it asks for a collection. -/
structure TypeReference where
  /-- The name of the type, or of the elements of the collection. -/
  element : String
  /-- A collection is meant. -/
  collection : Bool
  deriving DecidableEq, Repr

namespace TypeReference

/-- The opening of a reference to a collection. -/
def opening : List Char := "Collection(".toList

/-- What stands between the brackets of a reference to a collection. -/
def inner? (s : List Char) : Option (List Char) :=
  if opening.isPrefixOf s && s.getLast? == some ')' then some (s.drop opening.length).dropLast
  else none

/-- Reads a reference, blanks around it and inside its brackets left out. -/
def ofText (text : String) : TypeReference :=
  let s := Text.trim text
  match inner? s.toList with
  | some t => ⟨Text.trim (String.ofList t), true⟩
  | none => ⟨s, false⟩

/-- Writes a reference. -/
def text (r : TypeReference) : String :=
  if r.collection then "Collection(" ++ r.element ++ ")" else r.element

end TypeReference

end EntityModel
