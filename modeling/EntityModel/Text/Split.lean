/-!
# Cutting texts at a character

Names in a service document are put together with a separator: segments with `/` or `.`, a namespace and
a name with the last `.`, an alias and a name with the first `.`. This module has the three cuts and the
way back.

`pieces` cuts at every occurrence and always yields one piece more than there are separators.
`cutFirst` and `cutLast` cut at one occurrence, if there is one.
-/

namespace EntityModel.Text

/-! ## Every occurrence -/

/-- The pieces between the occurrences of `sep`, empty ones included. -/
def pieces (sep : Char) : List Char → List (List Char)
  | [] => [[]]
  | c :: cs =>
      if c = sep then [] :: pieces sep cs
      else
        match pieces sep cs with
        | [] => [[c]]
        | p :: ps => (c :: p) :: ps

theorem pieces_ne_nil (sep : Char) (s : List Char) : pieces sep s ≠ [] := by
  cases s with
  | nil => simp [pieces]
  | cons c cs =>
      unfold pieces
      split
      · simp
      · split <;> simp

/-- The pieces of a text between the occurrences of `sep`. -/
def segments (sep : Char) (s : String) : List String := (pieces sep s.toList).map String.ofList

/-! ## One occurrence -/

/-- What stands before and after the first `sep`, if it occurs. -/
def cutFirst (sep : Char) : List Char → Option (List Char × List Char)
  | [] => none
  | c :: cs =>
      if c = sep then some ([], cs)
      else (cutFirst sep cs).map fun p => (c :: p.1, p.2)

/-- What stands before and after the last `sep`, if it occurs. -/
def cutLast (sep : Char) : List Char → Option (List Char × List Char)
  | [] => none
  | c :: cs =>
      match cutLast sep cs with
      | some p => some (c :: p.1, p.2)
      | none => if c = sep then some ([], cs) else none

/-- A cut loses the separator and nothing else. -/
theorem append_of_cutFirst {sep : Char} {s a b : List Char} (h : cutFirst sep s = some (a, b)) :
    a ++ sep :: b = s := by
  induction s generalizing a b with
  | nil => simp [cutFirst] at h
  | cons c cs ih =>
      unfold cutFirst at h
      split at h
      · next hc => simp at h; simp [← h.1, ← h.2, hc]
      · obtain ⟨p, hp, he⟩ := Option.map_eq_some_iff.1 h
        simp at he
        simp [← he.1, ← he.2, ih hp]

/-- A cut loses the separator and nothing else. -/
theorem append_of_cutLast {sep : Char} {s a b : List Char} (h : cutLast sep s = some (a, b)) :
    a ++ sep :: b = s := by
  induction s generalizing a b with
  | nil => simp [cutLast] at h
  | cons c cs ih =>
      unfold cutLast at h
      split at h
      · next p hp => simp at h; simp [← h.1, ← h.2, ih hp]
      · split at h
        · next hc => simp at h; simp [← h.1, ← h.2, hc]
        · simp at h

/-- A text without the separator is not cut. -/
theorem cutLast_eq_none_of_notMem {sep : Char} {s : List Char} (h : sep ∉ s) : cutLast sep s = none := by
  induction s with
  | nil => rfl
  | cons c cs ih =>
      simp only [List.mem_cons, not_or] at h
      rw [cutLast, ih h.2]
      exact if_neg (Ne.symm h.1)

/-- A text is cut in front of a tail without the separator. -/
theorem cutLast_append_of_notMem {sep : Char} {a b : List Char} (h : sep ∉ b) :
    cutLast sep (a ++ sep :: b) = some (a, b) := by
  induction a with
  | nil =>
      rw [List.nil_append, cutLast, cutLast_eq_none_of_notMem h]
      exact if_pos rfl
  | cons c cs ih => rw [List.cons_append, cutLast, ih]

end EntityModel.Text
