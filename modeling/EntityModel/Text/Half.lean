/-!
# Halves of surrogate pairs

A text that comes from escapes may hold one half of a surrogate pair without the other. A half is a code unit
and no character, so such a text has no bytes in UTF-8. Here a private character, at a fixed distance, stands
for each half. A private character that could be taken for a half, or for the mark, stands behind a mark.

So every sequence of code points, halves among them, is a text of its own: `codes_ofCodes`. What has to look at
the code points of a text looks at its `codes`.
-/

namespace EntityModel.Text

/-- A code unit of the first half of a surrogate pair. -/
def isFirstHalf (n : Nat) : Bool := 0xD800 ≤ n && n ≤ 0xDBFF

/-- A code unit of the second half of a surrogate pair. -/
def isSecondHalf (n : Nat) : Bool := 0xDC00 ≤ n && n ≤ 0xDFFF

/-- A code unit of a half. -/
def isHalfUnit (n : Nat) : Bool := 0xD800 ≤ n && n ≤ 0xDFFF

/-- The code point of a pair of code units. -/
def ofPair (first second : Nat) : Nat := 0x10000 + (first - 0xD800) * 0x400 + (second - 0xDC00)

/-! ## Code points in a text -/

/-- How far the characters that stand for halves are from the halves. -/
def halfDistance : Nat := 0x100000

/-- The code point of the mark behind which a private character stands for itself. -/
def markCode : Nat := 0x10E000

/-- A code point that needs the mark. -/
def isReserved (n : Nat) : Bool := (halfDistance ≤ n && isHalfUnit (n - halfDistance)) || n == markCode

/-- A code point as it stands in a text. -/
def ofCode (n : Nat) : List Char :=
  if isHalfUnit n then [Char.ofNat (halfDistance + n)]
  else if isReserved n then [Char.ofNat markCode, Char.ofNat n]
  else [Char.ofNat n]

/-- The text of a sequence of code points. -/
def ofCodes (ns : List Nat) : List Char := ns.flatMap ofCode

/-- The code points of a text; `marked` if a mark comes before. -/
def codesFrom (marked : Bool) : List Char → List Nat
  | [] => []
  | c :: s =>
      let n := c.toNat
      if marked then n :: codesFrom false s
      else if n == markCode then codesFrom true s
      else (if isReserved n then n - halfDistance else n) :: codesFrom false s

/-- The code points of a text. -/
def codes (s : List Char) : List Nat := codesFrom false s

/-- Characters that stand for themselves, as a text. -/
def ofPlain (s : List Char) : List Char := ofCodes (s.map Char.toNat)

/-- The text holds a half, so it has no bytes. -/
def hasHalf (s : String) : Bool := (codes s.toList).any isHalfUnit

theorem toNat_ofNat {n : Nat} (h : n.isValidChar) : (Char.ofNat n).toNat = n := by
  rw [Char.ofNat, dif_pos h]
  rfl

theorem codesFrom_ofCode {n : Nat} (h : n < 0x110000) (s : List Char) :
    codesFrom false (ofCode n ++ s) = n :: codesFrom false s := by
  have hmark : (Char.ofNat markCode).toNat = markCode := toNat_ofNat (by decide)
  by_cases hh : isHalfUnit n = true
  · have hn : 0xD800 ≤ n ∧ n ≤ 0xDFFF := by simpa [isHalfUnit] using hh
    have ht : (Char.ofNat (halfDistance + n)).toNat = halfDistance + n :=
      toNat_ofNat (by right; simp only [halfDistance]; omega)
    have hm : (halfDistance + n == markCode) = false := by
      simp only [halfDistance, markCode, beq_eq_false_iff_ne]; omega
    simp [ofCode, hh, codesFrom, ht, hm, isReserved]
  · have hv : n.isValidChar := by
      have : ¬(0xD800 ≤ n ∧ n ≤ 0xDFFF) := by simpa [isHalfUnit] using hh
      simp only [Nat.isValidChar]
      omega
    have ht : (Char.ofNat n).toNat = n := toNat_ofNat hv
    by_cases hr : isReserved n = true
    · simp [ofCode, hh, hr, codesFrom, hmark, ht]
    · have hm : (n == markCode) = false := by
        simp only [isReserved, Bool.or_eq_true, not_or] at hr
        simpa using hr.2
      simp [ofCode, hh, hr, codesFrom, ht, hm]

/-- The code points of a text are those that it was made of. -/
theorem codes_ofCodes {ns : List Nat} (h : ∀ n ∈ ns, n < 0x110000) : codes (ofCodes ns) = ns := by
  induction ns with
  | nil => rfl
  | cons n ns ih =>
    have hn : n < 0x110000 := h n (by simp)
    have ih : codesFrom false (ns.flatMap ofCode) = ns := ih fun m hm => h m (by simp [hm])
    simp only [codes, ofCodes, List.flatMap_cons]
    rw [codesFrom_ofCode hn, ih]

end EntityModel.Text
