import EntityModel.Json.Printer
import EntityModel.Json.Reader
import Mathlib.Data.List.Chain

/-!
# Texts between quotes

What is written between quotes is read back code point by code point. Each is written in one of three ways: as itself, as
a letter behind a backslash, or as one or two code units of four hexadecimal digits (`escape_cases`). The reader takes
the halves of a surrogate pair together. A first half that stands directly before a second one without being a pair with
it is written as their pair is, and so it is read as the pair (`readText_quote`). Texts without such halves are read back
as they are (`joined_eq_self_iff`).
-/

namespace EntityModel

namespace Text

/-! ## Halves next to each other -/

/-- Code points with the halves of pairs taken together. -/
def joinPairs : List Nat → List Nat
  | [] => []
  | [n] => [n]
  | m :: n :: ns =>
      if isFirstHalf m && isSecondHalf n then ofPair m n :: joinPairs ns else m :: joinPairs (n :: ns)

/-- A text with the halves of pairs taken together. -/
def joined (s : String) : String := String.ofList (ofCodes (joinPairs (codes s.toList)))

/-- No two code points that follow each other are halves of a pair. -/
def IsApart (ns : List Nat) : Prop := ns.IsChain fun m n => ¬ (isFirstHalf m = true ∧ isSecondHalf n = true)

instance : DecidablePred IsApart := fun _ => inferInstanceAs (Decidable (List.IsChain _ _))

/-- A text of code points in which no two halves are next to each other that would be a pair. -/
def IsUnicode (s : String) : Prop := ofCodes (codes s.toList) = s.toList ∧ IsApart (codes s.toList)

instance : DecidablePred IsUnicode := fun _ => inferInstanceAs (Decidable (_ ∧ _))

section Halves

variable {m n : Nat} {ns : List Nat} {s : String}

theorem isSecondHalf_of_isFirstHalf (h : isFirstHalf n = true) : isSecondHalf n = false := by
  simp only [isFirstHalf, Bool.and_eq_true, decide_eq_true_eq] at h
  simp [isSecondHalf]
  omega

theorem lt_of_isFirstHalf (h : isFirstHalf n = true) : n < 0x10000 := by
  simp only [isFirstHalf, Bool.and_eq_true, decide_eq_true_eq] at h
  omega

theorem lt_of_isSecondHalf (h : isSecondHalf n = true) : n < 0x10000 := by
  simp only [isSecondHalf, Bool.and_eq_true, decide_eq_true_eq] at h
  omega

theorem isSecondHalf_of_le (h : 0x10000 ≤ n) : isSecondHalf n = false := by
  simp [isSecondHalf]
  omega

theorem ofPair_lt (hm : isFirstHalf m = true) (hn : isSecondHalf n = true) : ofPair m n < 0x110000 := by
  simp only [isFirstHalf, isSecondHalf, Bool.and_eq_true, decide_eq_true_eq] at hm hn
  unfold ofPair
  omega

theorem le_ofPair : 0x10000 ≤ ofPair m n := by
  unfold ofPair
  omega

theorem toNat_lt (c : Char) : c.toNat < 0x110000 := by
  have hvalid : c.toNat < 0xD800 ∨ 0xDFFF < c.toNat ∧ c.toNat < 0x110000 := c.valid
  omega

theorem lt_of_mem_codesFrom {marked : Bool} {cs : List Char} (h : n ∈ codesFrom marked cs) : n < 0x110000 := by
  induction cs generalizing marked with
  | nil => cases h
  | cons c cs ih =>
      have hc := toNat_lt c
      rw [codesFrom] at h
      split at h
      · rcases List.mem_cons.1 h with rfl | h
        · exact hc
        · exact ih h
      · split at h
        · exact ih h
        · rcases List.mem_cons.1 h with rfl | h
          · split <;> omega
          · exact ih h

theorem lt_of_mem_codes {cs : List Char} (h : n ∈ codes cs) : n < 0x110000 := lt_of_mem_codesFrom h

theorem joinPairs_lt (h : ∀ n ∈ ns, n < 0x110000) : ∀ n ∈ joinPairs ns, n < 0x110000 := by
  fun_induction joinPairs ns with
  | case1 => exact h
  | case2 n => exact h
  | case3 m n ns hpair ih =>
      rw [Bool.and_eq_true] at hpair
      simp only [List.forall_mem_cons] at h ⊢
      exact ⟨ofPair_lt hpair.1 hpair.2, ih h.2.2⟩
  | case4 m n ns hpair ih =>
      rw [List.forall_mem_cons] at h ⊢
      exact ⟨h.1, ih h.2⟩

/-- What comes first is left alone, or is taken together with what follows. -/
theorem head?_joinPairs (n : Nat) (ns : List Nat) : ∀ k ∈ (joinPairs (n :: ns)).head?, k = n ∨ 0x10000 ≤ k := by
  cases ns with
  | nil => simp [joinPairs]
  | cons n' ns =>
      rw [joinPairs]
      split
      · simp [le_ofPair]
      · simp

/-- No halves of a pair are left next to each other. -/
theorem isApart_joinPairs (ns : List Nat) : IsApart (joinPairs ns) := by
  fun_induction joinPairs ns with
  | case1 => exact .nil
  | case2 n => exact .singleton n
  | case3 m n ns hpair ih =>
      -- A pair is no half, so it is not taken for the first one of another pair.
      refine List.isChain_cons.2 ⟨fun k _ h => ?_, ih⟩
      have hle : 0x10000 ≤ ofPair m n := le_ofPair
      have hlt := lt_of_isFirstHalf h.1
      omega
  | case4 m n ns hpair ih =>
      refine List.isChain_cons.2 ⟨fun k hk h => ?_, ih⟩
      rcases head?_joinPairs n ns k hk with rfl | hle
      · exact hpair (Bool.and_eq_true_iff.2 h)
      · rw [isSecondHalf_of_le hle] at h
        cases h.2

theorem joinPairs_of_isApart (h : IsApart ns) : joinPairs ns = ns := by
  fun_induction joinPairs ns with
  | case1 => rfl
  | case2 n => rfl
  | case3 m n ns hpair ih => exact absurd (Bool.and_eq_true_iff.1 hpair) (List.isChain_cons_cons.1 h).1
  | case4 m n ns hpair ih => rw [ih (List.isChain_cons_cons.1 h).2]

theorem codes_joined (s : String) : codes (joined s).toList = joinPairs (codes s.toList) := by
  rw [joined, String.toList_ofList, codes_ofCodes (joinPairs_lt fun _ => lt_of_mem_codes)]

/-- Taking pairs together changes exactly the texts that have halves of one next to each other. -/
theorem joined_eq_self_iff : joined s = s ↔ IsUnicode s := by
  constructor
  · intro h
    have hcodes := codes_joined s
    rw [h] at hcodes
    refine ⟨?_, hcodes ▸ isApart_joinPairs _⟩
    have hlist := congrArg String.toList h
    rwa [joined, String.toList_ofList, ← hcodes] at hlist
  · rintro ⟨hcodes, hapart⟩
    rw [joined, joinPairs_of_isApart hapart, hcodes, String.ofList_toList]

/-- Characters that stand for themselves are such a text: none of them is a half. -/
theorem isUnicode_ofPlain (s : List Char) : IsUnicode (String.ofList (ofPlain s)) := by
  have hlt : ∀ n ∈ s.map Char.toNat, n < 0x110000 := List.forall_mem_map.2 fun c _ => toNat_lt c
  have hnone : ∀ c : Char, isFirstHalf c.toNat = false := fun c => by
    have hvalid : c.toNat < 0xD800 ∨ 0xDFFF < c.toNat ∧ c.toNat < 0x110000 := c.valid
    simp only [isFirstHalf, Bool.and_eq_false_iff, decide_eq_false_iff_not]
    omega
  rw [IsUnicode, String.toList_ofList, ofPlain, codes_ofCodes hlt]
  refine ⟨rfl, List.Pairwise.isChain ?_⟩
  exact List.pairwise_map.2 (List.pairwise_of_forall fun c d h => by simp [hnone] at h)

end Halves

end Text

namespace Json

open Text (isFirstHalf isSecondHalf isHalfUnit isReserved ofPair ofCode ofCodes codes joinPairs IsApart lt_of_isFirstHalf
  lt_of_isSecondHalf isSecondHalf_of_isFirstHalf)
open Reader (hex4? letter? followingUnit before readText)

variable {n m : Nat} {start acc r : List Char} {c l next : Char}

/-! ## Code units -/

theorem hexDigit?_digitChar : ∀ d < 16, Text.hexDigit? (Nat.digitChar d) = some d := by decide

theorem toDigits_step (h : 16 ≤ n) : Nat.toDigits 16 n = Nat.toDigits 16 (n / 16) ++ [(n % 16).digitChar] :=
  Nat.toDigits_of_base_le (by decide) h

/-- A code unit has four hexadecimal digits. -/
theorem hex_four (h : n < 0x10000) :
    Text.Quoted.hex 4 n =
      [(n / 4096).digitChar, (n / 256 % 16).digitChar, (n / 16 % 16).digitChar, (n % 16).digitChar] := by
  have hdigit : ∀ k < 16, Nat.toDigits 16 k = [k.digitChar] := fun k hk => Nat.toDigits_of_lt_base hk
  rw [Text.Quoted.hex]
  rcases Nat.lt_or_ge n 16 with h₁ | h₁
  · have hzero : n / 4096 = 0 ∧ n / 256 % 16 = 0 ∧ n / 16 % 16 = 0 ∧ n % 16 = n := by omega
    rw [hdigit n h₁, hzero.1, hzero.2.1, hzero.2.2.1, hzero.2.2.2]
    rfl
  · rw [toDigits_step h₁]
    rcases Nat.lt_or_ge (n / 16) 16 with h₂ | h₂
    · have hzero : n / 4096 = 0 ∧ n / 256 % 16 = 0 ∧ n / 16 % 16 = n / 16 := by omega
      rw [hdigit _ h₂, hzero.1, hzero.2.1, hzero.2.2]
      rfl
    · rw [toDigits_step h₂]
      rcases Nat.lt_or_ge (n / 16 / 16) 16 with h₃ | h₃
      · have hzero : n / 4096 = 0 ∧ n / 256 % 16 = n / 16 / 16 := by omega
        rw [hdigit _ h₃, hzero.1, hzero.2]
        rfl
      · have hlast : n / 16 / 16 / 16 < 16 := by omega
        have hdivs : n / 4096 = n / 16 / 16 / 16 ∧ n / 256 = n / 16 / 16 := by omega
        rw [toDigits_step h₃, hdigit _ hlast, hdivs.1, hdivs.2]
        rfl

theorem hex4?_four (h : n < 0x10000) :
    hex4? (n / 4096).digitChar (n / 256 % 16).digitChar (n / 16 % 16).digitChar (n % 16).digitChar = some n := by
  have hvalue : ((n / 4096 * 16 + n / 256 % 16) * 16 + n / 16 % 16) * 16 + n % 16 = n := by omega
  simp only [hex4?, hexDigit?_digitChar (n / 4096) (by omega), hexDigit?_digitChar (n / 256 % 16) (by omega),
    hexDigit?_digitChar (n / 16 % 16) (by omega), hexDigit?_digitChar (n % 16) (by omega), hvalue]

/-- A code unit as an escape: a backslash, the letter and four digits that denote it. -/
theorem exists_unitEscape (h : n < 0x10000) :
    ∃ a b c d, unitEscape n = ['\\', 'u', a, b, c, d] ∧ hex4? a b c d = some n := by
  refine ⟨_, _, _, _, ?_, hex4?_four h⟩
  rw [unitEscape, hex_four h]

/-! ## Code points -/

theorem eq_toNat_of_ofNat (h : Char.ofNat n = c) (hc : c ≠ '\x00') : n = c.toNat := by
  by_cases hn : n.isValidChar
  · rw [← h, Text.toNat_ofNat hn]
  · rw [Char.ofNat, dif_neg hn] at h
    exact absurd h.symm hc

/-- A visible character of ASCII stands for itself. -/
theorem ofCode_of_visible (hn : n = (Char.ofNat n).toNat) (hlow : ' ' ≤ Char.ofNat n) (hhigh : Char.ofNat n ≤ '~') :
    ofCode n = [Char.ofNat n] := by
  have hlow : 0x20 ≤ (Char.ofNat n).toNat := hlow
  have hhigh : (Char.ofNat n).toNat ≤ 0x7E := hhigh
  rw [← hn] at hlow hhigh
  have hhalf : isHalfUnit n = false := by
    simp [isHalfUnit]
    omega
  have hreserved : isReserved n = false := by
    have hdistance : ¬ Text.halfDistance ≤ n := by
      unfold Text.halfDistance
      omega
    have hmark : n ≠ Text.markCode := by
      unfold Text.markCode
      omega
    simp [isReserved, hdistance, hmark]
  rw [ofCode, hhalf, hreserved]
  rfl

/-- A code point is written as a letter behind a backslash, as itself, or in code units. -/
theorem escape_cases (n : Nat) :
    (∃ l c, escape n = ['\\', l] ∧ l ≠ 'u' ∧ letter? l = some c ∧ ofCode n = [c]) ∨
      (∃ c, escape n = [c] ∧ c ≠ '"' ∧ c ≠ '\\' ∧ 0x1F < c.toNat ∧ ofCode n = [c]) ∨
        escape n = (codeUnits n).flatMap unitEscape := by
  unfold escape
  split
  case h_8 hquote hslash _ _ _ _ _ =>
    split
    · next hvisible =>
        obtain ⟨hlow, hhigh⟩ : ' ' ≤ Char.ofNat n ∧ Char.ofNat n ≤ '~' := by simpa using hvisible
        have hn : n = (Char.ofNat n).toNat := eq_toNat_of_ofNat rfl fun h => by
          rw [h] at hlow
          exact absurd hlow (by decide)
        exact .inr (.inl ⟨_, rfl, hquote, hslash, Nat.lt_of_lt_of_le (by decide) hlow, ofCode_of_visible hn hlow hhigh⟩)
    · exact .inr (.inr rfl)
  all_goals
    next h =>
      obtain rfl := eq_toNat_of_ofNat h (by decide)
      exact .inl ⟨_, _, rfl, by decide, rfl, by decide⟩

/-- The code units of a code point: itself, or the two halves that make it. -/
theorem codeUnits_cases (h : n < 0x110000) :
    (n < 0x10000 ∧ codeUnits n = [n]) ∨
      ∃ first second, codeUnits n = [first, second] ∧ isFirstHalf first = true ∧ isSecondHalf second = true ∧
        ofPair first second = n := by
  rw [codeUnits]
  split
  · next hlow => exact .inl ⟨hlow, rfl⟩
  · refine .inr ⟨_, _, rfl, ?_, ?_, ?_⟩
    · simp only [isFirstHalf, Bool.and_eq_true, decide_eq_true_eq]
      omega
    · simp only [isSecondHalf, Bool.and_eq_true, decide_eq_true_eq]
      omega
    · unfold ofPair
      omega

/-- A code point beyond the visible ones of ASCII is written in code units. -/
theorem escape_of_large (h : 0x7E < n) : escape n = (codeUnits n).flatMap unitEscape := by
  unfold escape
  split
  case h_8 =>
    refine if_neg fun hvisible => ?_
    obtain ⟨hlow, hhigh⟩ : ' ' ≤ Char.ofNat n ∧ Char.ofNat n ≤ '~' := by simpa using hvisible
    have hn : n = (Char.ofNat n).toNat := eq_toNat_of_ofNat rfl fun hzero => by
      rw [hzero] at hlow
      exact absurd hlow (by decide)
    have hhigh : (Char.ofNat n).toNat ≤ 0x7E := hhigh
    omega
  all_goals
    next hchar =>
      obtain rfl := eq_toNat_of_ofNat hchar (by decide)
      exact absurd h (by decide)

/-- Two halves are written as their pair is. -/
theorem escape_ofPair (hm : isFirstHalf m = true) (hn : isSecondHalf n = true) :
    escape (ofPair m n) = escape m ++ escape n := by
  simp only [isFirstHalf, isSecondHalf, Bool.and_eq_true, decide_eq_true_eq] at hm hn
  have hunits : codeUnits (ofPair m n) = [m, n] := by
    have hfirst : 0xD800 + (ofPair m n - 0x10000) / 0x400 = m := by
      unfold ofPair
      omega
    have hsecond : 0xDC00 + (ofPair m n - 0x10000) % 0x400 = n := by
      unfold ofPair
      omega
    rw [codeUnits, if_neg (Nat.not_lt.2 Text.le_ofPair), hfirst, hsecond]
  have hunit : ∀ k < 0x10000, codeUnits k = [k] := fun k hk => if_pos hk
  rw [escape_of_large (Nat.lt_of_lt_of_le (by decide) Text.le_ofPair), escape_of_large (by omega),
    escape_of_large (by omega), hunits, hunit m (by omega), hunit n (by omega), List.flatMap_cons,
    List.flatMap_singleton, List.flatMap_singleton]

theorem flatMap_escape_joinPairs (ns : List Nat) : (joinPairs ns).flatMap escape = ns.flatMap escape := by
  fun_induction joinPairs ns with
  | case1 => rfl
  | case2 n => rfl
  | case3 m n ns hpair ih =>
      rw [Bool.and_eq_true] at hpair
      rw [List.flatMap_cons, List.flatMap_cons, List.flatMap_cons, ih, escape_ofPair hpair.1 hpair.2, List.append_assoc]
  | case4 m n ns hpair ih => rw [List.flatMap_cons (x := m), ih, List.flatMap_cons (x := m)]

/-- A text is written as if the halves of pairs in it were pairs. -/
theorem quote_joined (s : String) : quote (Text.joined s) = quote s := by
  rw [quote, Text.codes_joined, flatMap_escape_joinPairs, quote]

/-! ## Steps of the reader -/

section Steps

variable {a b d a' b' c' d' : Char}

theorem readText_letter (hl : l ≠ 'u') (h : letter? l = some c) :
    readText start acc ('\\' :: l :: r) = readText start (c :: acc) r := by
  rw [readText]
  · rw [h]
  · exact fun _ _ _ _ _ _ hu => absurd hu hl
  · exact fun hu => absurd hu hl

theorem readText_plain (hquote : c ≠ '"') (hslash : c ≠ '\\') (h : 0x1F < c.toNat) :
    readText start acc (c :: r) = readText start (c :: acc) r := by
  rw [readText]
  · rw [if_neg (Nat.not_le.2 h)]
  · exact fun hc => absurd hc hquote
  · exact fun _ _ _ _ _ _ hc => absurd hc hslash
  · exact fun _ hc => absurd hc hslash
  · exact fun _ _ hc => absurd hc hslash
  · exact fun hc => absurd hc hslash

theorem readText_unit (h : hex4? a b c d = some n) (hn : isFirstHalf n = false) :
    readText start acc ('\\' :: 'u' :: a :: b :: c :: d :: next :: r) = readText start (before acc n) (next :: r) := by
  rw [readText, h]
  simp only [hn, Bool.false_eq_true, if_false]

/-- A first half stands for itself if no second one follows. -/
theorem readText_lone (h : hex4? a b c d = some n)
    (hfollowing : followingUnit next r = none ∨ ∃ m, followingUnit next r = some (some m) ∧ isSecondHalf m = false) :
    readText start acc ('\\' :: 'u' :: a :: b :: c :: d :: next :: r) = readText start (before acc n) (next :: r) := by
  cases hn : isFirstHalf n with
  | false => exact readText_unit h hn
  | true =>
      rw [readText, h]
      rcases hfollowing with hnone | ⟨m, hm, hsecond⟩
      · simp only [hn, if_true, hnone]
      · simp only [hn, if_true, hm, hsecond, Bool.false_eq_true, if_false]

theorem readText_pair (h : hex4? a b c d = some n) (hn : isFirstHalf n = true) (h' : hex4? a' b' c' d' = some m)
    (hm : isSecondHalf m = true) :
    readText start acc ('\\' :: 'u' :: a :: b :: c :: d :: '\\' :: 'u' :: a' :: b' :: c' :: d' :: next :: r) =
      readText start (before acc (ofPair n m)) (next :: r) := by
  rw [readText, h]
  simp only [hn, if_true, followingUnit, h', hm, List.drop_succ_cons, List.drop_zero]

theorem followingUnit_of_ne (h : next ≠ '\\') : followingUnit next r = none := by
  unfold followingUnit
  split
  · rw [if_neg h]
  · rfl

end Steps

/-! ## Texts that are read back -/

section Texts

variable {ns : List Nat} {s : String} {rest : List Char}

/-- Something is left of a text while its closing quote has not been read. -/
theorem exists_escapes_append (ns : List Nat) (rest : List Char) :
    ∃ next r, ns.flatMap escape ++ '"' :: rest = next :: r := by
  cases ns.flatMap escape with
  | nil => exact ⟨_, _, rfl⟩
  | cons next r => exact ⟨_, _, rfl⟩

/-- Behind a first half nothing is taken for the second one unless it is. -/
theorem followingUnit_escapes (hns : ∀ n ∈ ns, n < 0x110000) (hhead : ∀ n ∈ ns.head?, isSecondHalf n = false)
    (h : ns.flatMap escape ++ '"' :: rest = next :: r) :
    followingUnit next r = none ∨ ∃ m, followingUnit next r = some (some m) ∧ isSecondHalf m = false := by
  cases ns with
  | nil =>
      obtain ⟨rfl, rfl⟩ := List.cons.inj h
      exact .inl (followingUnit_of_ne (by decide))
  | cons n ns =>
      obtain ⟨x, t, htail⟩ := exists_escapes_append ns rest
      rw [List.flatMap_cons, List.append_assoc, htail] at h
      rcases escape_cases n with ⟨l, c, hescape, hl, -, -⟩ | ⟨c, hescape, -, hslash, -, -⟩ | hescape
      · rw [hescape] at h
        obtain ⟨rfl, rfl⟩ := List.cons.inj h
        refine .inl ?_
        unfold followingUnit
        split
        · next hu => exact absurd (List.cons.inj hu).1 hl
        · rfl
      · rw [hescape] at h
        obtain ⟨rfl, rfl⟩ := List.cons.inj h
        exact .inl (followingUnit_of_ne hslash)
      · rw [hescape] at h
        rcases codeUnits_cases (hns n List.mem_cons_self) with
          ⟨hlow, hunits⟩ | ⟨first, second, hunits, hfirst, hsecond, -⟩
        · obtain ⟨a, b, c, d, hunit, hvalue⟩ := exists_unitEscape hlow
          rw [hunits, List.flatMap_singleton, hunit] at h
          obtain ⟨rfl, rfl⟩ := List.cons.inj h
          exact .inr ⟨n, by simp [followingUnit, hvalue], hhead n rfl⟩
        · obtain ⟨a, b, c, d, hunit, hvalue⟩ := exists_unitEscape (lt_of_isFirstHalf hfirst)
          obtain ⟨_, _, _, _, hunit', -⟩ := exists_unitEscape (lt_of_isSecondHalf hsecond)
          rw [hunits, List.flatMap_cons, List.flatMap_singleton, hunit, hunit'] at h
          obtain ⟨rfl, rfl⟩ := List.cons.inj h
          exact .inr ⟨first, by simp [followingUnit, hvalue], isSecondHalf_of_isFirstHalf hfirst⟩

theorem reverse_before : (before acc n).reverse = acc.reverse ++ ofCode n := by
  rw [before, List.reverse_append, List.reverse_reverse]

/-- Code points that are escaped are read back. The induction is on the code points; in front of each the reader may look
at the next one. -/
theorem readText_escapes (hns : ∀ n ∈ ns, n < 0x110000) (hchain : IsApart ns) :
    readText start acc (ns.flatMap escape ++ '"' :: rest) = .ok (String.ofList (acc.reverse ++ ofCodes ns), rest) := by
  induction ns generalizing acc with
  | nil =>
      rw [List.flatMap_nil, List.nil_append, readText, ofCodes, List.flatMap_nil, List.append_nil]
  | cons n ns ih =>
      have hn := hns n List.mem_cons_self
      have hrest : ∀ acc, readText start acc (ns.flatMap escape ++ '"' :: rest) =
          .ok (String.ofList (acc.reverse ++ ofCodes ns), rest) :=
        fun acc => ih (fun m hm => hns m (List.mem_cons_of_mem n hm)) hchain.tail
      have hbefore : (before acc n).reverse ++ ofCodes ns = acc.reverse ++ ofCodes (n :: ns) := by
        rw [reverse_before, List.append_assoc]
        rfl
      obtain ⟨next, r, htail⟩ := exists_escapes_append ns rest
      rw [List.flatMap_cons, List.append_assoc]
      rcases escape_cases n with ⟨l, c, hescape, hl, hletter, hcode⟩ | ⟨c, hescape, hquote, hslash, hlow, hcode⟩ | hescape
      · rw [hescape, List.cons_append, List.singleton_append, readText_letter hl hletter, hrest, ← hbefore,
          reverse_before, hcode, List.reverse_cons]
      · rw [hescape, List.singleton_append, readText_plain hquote hslash hlow, hrest, ← hbefore, reverse_before, hcode,
          List.reverse_cons]
      · rw [hescape]
        rcases codeUnits_cases hn with ⟨hunit, hunits⟩ | ⟨first, second, hunits, hfirst, hsecond, hpair⟩
        · obtain ⟨a, b, c, d, hunit, hvalue⟩ := exists_unitEscape hunit
          rw [hunits, List.flatMap_singleton, hunit, htail]
          simp only [List.cons_append, List.nil_append]
          cases hfirst : isFirstHalf n with
          | false => rw [readText_unit hvalue hfirst, ← htail, hrest, hbefore]
          | true =>
              -- What follows is no second half, so it is not taken together with this one.
              have hhead : ∀ m ∈ ns.head?, isSecondHalf m = false := fun m hm => by
                simpa [hfirst] using hchain.rel_head? hm
              have hfollowing := followingUnit_escapes (fun m hm => hns m (List.mem_cons_of_mem n hm)) hhead htail
              rw [readText_lone hvalue hfollowing, ← htail, hrest, hbefore]
        · obtain ⟨a, b, c, d, hunit, hvalue⟩ := exists_unitEscape (lt_of_isFirstHalf hfirst)
          obtain ⟨a', b', c', d', hunit', hvalue'⟩ := exists_unitEscape (lt_of_isSecondHalf hsecond)
          rw [hunits, List.flatMap_cons, List.flatMap_singleton, hunit, hunit', htail]
          simp only [List.cons_append, List.nil_append]
          rw [readText_pair hvalue hfirst hvalue' hsecond, hpair, ← htail, hrest, hbefore]

/-- A text between quotes is read back, with the halves of pairs taken together. -/
theorem readText_quote (s : String) (rest : List Char) :
    ∃ r, quote s ++ rest = '"' :: r ∧ readText ('"' :: r) [] r = .ok (Text.joined s, rest) := by
  have hns : ∀ n ∈ joinPairs (codes s.toList), n < 0x110000 := Text.joinPairs_lt fun _ => Text.lt_of_mem_codes
  refine ⟨(joinPairs (codes s.toList)).flatMap escape ++ '"' :: rest, ?_, ?_⟩
  · rw [flatMap_escape_joinPairs, quote, List.cons_append, List.append_assoc, List.singleton_append]
  · rw [readText_escapes hns (Text.isApart_joinPairs _), List.reverse_nil, List.nil_append, Text.joined]

/-- Two halves that would be a pair are written as the character that they make. -/
example : quote (String.ofList (ofCodes [0xD83D, 0xDE00])) = quote "😀" := by decide

end Texts

end Json

end EntityModel
