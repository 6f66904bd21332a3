import EntityModel.Csdl.Value
import EntityModel.Proofs.Alignment
import EntityModel.Proofs.Csdl.Alias
import EntityModel.Proofs.Outcome
import EntityModel.Proofs.Text.Split
import EntityModel.Text.Lower
import Mathlib.Data.Nat.Digits.Defs

/-!
# Literals

A truth value is read from its words (`Literal.bool_eq_ok_iff`), and an integer from the texts that denote it: digits of
any script behind a sign, with underscores between them (`Numeral.Denotes`, `Literal.int_eq_ok_iff`). A literal that is
written plainly is read back: the word in small letters, the decimal digits behind a sign where there is one, and the
segments of a path with slashes between them. An integer must not have more digits than are read, and a path must be told
by its text: no segment is empty or has a slash in it, and no blank stands at an end.
-/

namespace EntityModel

/-! ## Blanks -/

namespace Text

variable {before after s : List Char}

/-- A text without blanks is left as it is. -/
theorem trim_ofList {s : List Char} (h : ∀ c ∈ s, isBlank c = false) :
    trim (String.ofList s) = String.ofList s := by
  refine trim_eq_self ?_ ?_
  · intro c hc
    exact h c (List.mem_of_mem_head? (by simpa using hc))
  · intro c hc
    exact h c (List.mem_of_mem_getLast? (by simpa using hc))

/-- What is left of a text without the blanks around it does not end with a blank. -/
theorem getLast?_trim {t : String} : ∀ c ∈ (trim t).toList.getLast?, isBlank c = false := by
  intro c hc
  rw [trim, String.toList_ofList, trimWhile, List.getLast?_reverse] at hc
  have hfirst := List.head?_dropWhile_not isBlank (t.toList.dropWhile isBlank).reverse
  rw [hc] at hfirst
  exact hfirst

theorem trim_trim (t : String) : trim (trim t) = trim t := trim_eq_self (beginsPlain_trim t) getLast?_trim

theorem trim_of_isBlankText {t : String} (h : isBlankText t = true) : trim t = "" := by
  have hdrop : t.toList.dropWhile isBlank = [] := List.dropWhile_eq_nil_iff.2 (List.all_eq_true.1 h)
  rw [trim, trimWhile, hdrop]
  rfl

/-- Blanks around a text do not count. -/
theorem trim_padded (hbefore : ∀ c ∈ before, isBlank c = true) (hafter : ∀ c ∈ after, isBlank c = true) :
    trim (String.ofList (before ++ s ++ after)) = trim (String.ofList s) := by
  have hblanks : after.dropWhile isBlank = [] := List.dropWhile_eq_nil_iff.2 hafter
  have hrev : ∀ c ∈ after.reverse, isBlank c = true := fun c hc => hafter c (List.mem_reverse.1 hc)
  rw [trim, trim, String.toList_ofList, String.toList_ofList, trimWhile, trimWhile, List.append_assoc,
    List.dropWhile_append_of_pos hbefore, List.dropWhile_append, hblanks]
  split
  · next hempty => rw [List.isEmpty_iff.1 hempty]
  · rw [List.reverse_append, List.dropWhile_append_of_pos hrev]

/-! ## Small letters -/

/-- The letters and digits of the words for truth values. -/
def truthLetters : List Char := "truefals10".toList

variable {c d : Char}

theorem lt_of_mem_truthLetters (h : c ∈ truthLetters) : c.toNat < 0x80 := by
  have hascii : (truthLetters.all fun c => decide (c.toNat < 0x80)) = true := by decide
  exact of_decide_eq_true (List.all_eq_true.1 hascii c h)

theorem toLower_of_le (h : 0x80 ≤ c.toNat) : c.toLower = c := by
  unfold Char.toLower
  split
  · next hupper =>
      have hsmall : c.toNat ≤ 90 := hupper.2
      omega
  · rfl

theorem smallRuns_spare_truthLetters :
    ∀ r ∈ smallRuns, 0x80 ≤ r.first + r.shift ∨ r.first = 0x212A ∧ r.last = 0x212A ∧ r.shift = -8383 := by decide +kernel

/-- A letter beyond ASCII has no small form that stands in a word for a truth value. -/
theorem exists_notMem_of_smalls (h : 0x80 ≤ c.toNat) : ∃ d ∈ smalls c, d ∉ truthLetters := by
  have hofNat : ∀ n : Nat, 0x80 ≤ n → Char.ofNat n ∉ truthLetters := by
    intro n hn hmem
    have hlt := lt_of_mem_truthLetters hmem
    by_cases hvalid : n.isValidChar
    · rw [toNat_ofNat hvalid] at hlt
      omega
    · rw [Char.ofNat, dif_neg hvalid] at hmem
      exact absurd hmem (by decide)
  unfold smalls
  rw [if_neg (Nat.not_lt.2 h)]
  split
  · exact ⟨'i', List.mem_cons_self, by decide⟩
  · split
    · next r hr =>
        refine ⟨_, List.mem_singleton_self _, ?_⟩
        have hcovers : (r.first ≤ c.toNat ∧ c.toNat ≤ r.last) ∧ (c.toNat - r.first) % r.step = 0 := by
          simpa [CaseRun.covers] using List.find?_some hr
        rcases smallRuns_spare_truthLetters r (List.mem_of_find?_eq_some hr) with hspare | ⟨hfirst, hlast, hshift⟩
        · exact hofNat _ (by omega)
        · have hcode : c.toNat = 0x212A := by omega
          rw [hcode, hshift]
          decide
    · exact ⟨c, List.mem_singleton_self c, fun hmem => absurd (lt_of_mem_truthLetters hmem) (Nat.not_lt.2 h)⟩

/-- In a text of ASCII each letter has its small form for itself. -/
theorem lowerFrom_of_ascii (h : ∀ c ∈ s, c.toNat < 0x80) : lowerFrom before s = s.map Char.toLower := by
  induction s generalizing before with
  | nil => rfl
  | cons c s ih =>
      have hc := h c List.mem_cons_self
      rw [lowerFrom, if_neg (by omega), smalls, if_pos hc, ih fun x hx => h x (List.mem_cons_of_mem _ hx)]
      rfl

theorem ascii_of_lowerFrom (h : ∀ d ∈ lowerFrom before s, d ∈ truthLetters) : ∀ c ∈ s, c.toNat < 0x80 := by
  induction s generalizing before with
  | nil => exact fun c hc => absurd hc List.not_mem_nil
  | cons c s ih =>
      rw [lowerFrom] at h
      refine List.forall_mem_cons.2 ⟨?_, ih fun d hd => h d (List.mem_append_right _ hd)⟩
      by_contra hlarge
      rw [Nat.not_lt] at hlarge
      by_cases hsigma : c.toNat = 0x3A3
      · rw [if_pos hsigma] at h
        have hmem := h _ (List.mem_append_left _ (List.mem_singleton_self _))
        split at hmem
        · exact absurd hmem (by decide)
        · exact absurd hmem (by decide)
      · rw [if_neg hsigma] at h
        obtain ⟨d, hd, hnot⟩ := exists_notMem_of_smalls hlarge
        exact hnot (h d (List.mem_append_left _ hd))

/-- A text has a word for a truth value as its small form exactly if it has this by the letters of ASCII alone. -/
theorem lower_eq_iff {word : List Char} (hword : ∀ c ∈ word, c ∈ truthLetters) :
    lower s = word ↔ s.map Char.toLower = word := by
  constructor
  · rintro rfl
    rw [lower, lowerFrom_of_ascii (ascii_of_lowerFrom hword)]
  · rintro rfl
    refine lowerFrom_of_ascii fun c hc => ?_
    by_contra hlarge
    rw [Nat.not_lt] at hlarge
    have hmem := hword _ (List.mem_map_of_mem hc)
    rw [toLower_of_le hlarge] at hmem
    exact absurd (lt_of_mem_truthLetters hmem) (Nat.not_lt.2 hlarge)

end Text

/-! ## Truth values -/

theorem Text.trim_toString_bool (b : Bool) : Text.trim (toString b) = toString b := by
  cases b with
  | true => decide
  | false => decide

namespace Literal

theorem bool_toString (b : Bool) : bool (toString b) = .ok b := by
  cases b with
  | true => decide
  | false => decide

/-- The words for a truth value. -/
def words : Bool → List String
  | true => ["true", "1"]
  | false => ["false", "0"]

theorem truth?_eq_some_iff {word : String} {b : Bool} : truth? word = some b ↔ word ∈ words b := by
  unfold truth?
  constructor
  · intro h
    split at h
    · next hword =>
        obtain rfl := Option.some.inj h
        simpa [words] using hword
    · split at h
      · next hword =>
          obtain rfl := Option.some.inj h
          simpa [words] using hword
      · cases h
  · intro h
    revert word
    cases b <;> decide

theorem mem_truthLetters_of_mem_words {b : Bool} : ∀ word ∈ words b, ∀ c ∈ word.toList, c ∈ Text.truthLetters := by
  have hletters : ((words b).all fun word => word.toList.all fun c => decide (c ∈ Text.truthLetters)) = true := by
    cases b <;> decide
  intro word hword c hc
  exact of_decide_eq_true (List.all_eq_true.1 (List.all_eq_true.1 hletters word hword) c hc)

/-- A truth value is read exactly from its words, written in small letters or in capitals. -/
theorem bool_eq_ok_iff {text : String} {b : Bool} :
    bool text = .ok b ↔ String.ofList (Text.lower (Text.trim text).toList) ∈ words b := by
  have hword : ∀ s : List Char, String.ofList (s.map Char.toLower) ∈ words b ↔ String.ofList (Text.lower s) ∈ words b := by
    intro s
    constructor
    · intro h
      have hletters := mem_truthLetters_of_mem_words _ h
      rw [String.toList_ofList] at hletters
      rwa [(Text.lower_eq_iff hletters).2 rfl]
    · intro h
      have hletters := mem_truthLetters_of_mem_words _ h
      rw [String.toList_ofList] at hletters
      rwa [(Text.lower_eq_iff hletters).1 rfl]
  rw [← hword, ← truth?_eq_some_iff, bool]
  cases truth? (String.ofList ((Text.trim text).toList.map Char.toLower)) <;> simp

end Literal

/-! ## Integers -/

namespace Numeral

open Text (decimalDigit?)

/-- Characters are written one after another, with single underscores between some of them. -/
inductive Grouped : List Char → List Char → Prop where
  | single (c : Char) : Grouped [c] [c]
  | next (c : Char) {cs s : List Char} (h : Grouped cs s) : Grouped (c :: cs) (c :: s)
  | group (c : Char) {cs s : List Char} (h : Grouped cs s) : Grouped (c :: cs) (c :: '_' :: s)

/-- Characters are decimal digits, of whatever scripts, and each is worth so much. -/
abbrev AreDigits : List Char → List Nat → Prop := List.Forall₂ fun c d => decimalDigit? c = some d

/-- A text is made of decimal digits, no more than are read, and these denote a number. -/
def DenotesNatural (s : List Char) (n : Nat) : Prop :=
  ∃ cs ds, Grouped cs s ∧ AreDigits cs ds ∧ ds.length ≤ digitLimit ∧ Nat.ofDigits 10 ds.reverse = n

/-- A text is an integer as it is written: digits behind a sign, which may be left out. -/
inductive Denotes : List Char → Int → Prop where
  | unsigned {s : List Char} {n : Nat} (h : DenotesNatural s n) : Denotes s n
  | plus {s : List Char} {n : Nat} (h : DenotesNatural s n) : Denotes ('+' :: s) n
  | minus {s : List Char} {n : Nat} (h : DenotesNatural s n) : Denotes ('-' :: s) (-n)

variable {c : Char} {cs s : List Char} {ds : List Nat} {n : Nat} {i : Int}

theorem ofDigits_eq : ofDigits ds = Nat.ofDigits 10 ds.reverse := by
  rw [Nat.ofDigits_eq_foldr, List.foldr_reverse, ofDigits]
  congr 1
  funext n d
  rw [Nat.add_comm]
  rfl

theorem decimalDigit?_underscore : decimalDigit? '_' = none := by decide

theorem Grouped.exists_cons (h : Grouped cs s) : ∃ c cs' s', cs = c :: cs' ∧ s = c :: s' := by
  cases h with
  | single c => exact ⟨c, [], [], rfl, rfl⟩
  | next c h => exact ⟨c, _, _, rfl, rfl⟩
  | group c h => exact ⟨c, _, _, rfl, rfl⟩

/-- Only what is written before underscores stands in a text beside these. -/
theorem Grouped.mem (h : Grouped cs s) : ∀ c ∈ s, c = '_' ∨ c ∈ cs := by
  induction h with
  | single c => exact fun x hx => .inr hx
  | next c h ih =>
      intro x hx
      rcases List.mem_cons.1 hx with rfl | hx
      · exact .inr List.mem_cons_self
      · exact (ih x hx).imp_right (List.mem_cons_of_mem _)
  | group c h ih =>
      intro x hx
      rcases List.mem_cons.1 hx with rfl | hx
      · exact .inr List.mem_cons_self
      · rcases List.mem_cons.1 hx with rfl | hx
        · exact .inl rfl
        · exact (ih x hx).imp_right (List.mem_cons_of_mem _)

/-- The digits of a run are told exactly if the run is made of them. -/
theorem groupedDigits_eq_some_iff : groupedDigits s = some ds ↔ ∃ cs, Grouped cs s ∧ AreDigits cs ds := by
  constructor
  · intro h
    induction s using groupedDigits.induct generalizing ds with
    | case1 => cases h
    | case2 c =>
        rw [groupedDigits] at h
        obtain ⟨d, hd, rfl⟩ := Option.map_eq_some_iff.1 h
        exact ⟨[c], .single c, .cons hd .nil⟩
    | case3 c s d rest hrest hd ih =>
        rw [groupedDigits, hd, hrest] at h
        obtain rfl := Option.some.inj h
        obtain ⟨cs, hcs, hds⟩ := ih hrest
        exact ⟨c :: cs, .group c hcs, .cons hd hds⟩
    | case4 c s hnone ih =>
        rw [groupedDigits] at h
        split at h
        · next d rest hd hrest => exact (hnone d rest hd hrest).elim
        · cases h
    | case5 c s hne hother d rest hrest hd ih =>
        rw [groupedDigits.eq_4 c s hne hother, hd, hrest] at h
        obtain rfl := Option.some.inj h
        obtain ⟨cs, hcs, hds⟩ := ih hrest
        exact ⟨c :: cs, .next c hcs, .cons hd hds⟩
    | case6 c s hne hother hnone ih =>
        rw [groupedDigits.eq_4 c s hne hother] at h
        split at h
        · next d rest hd hrest => exact (hnone d rest hd hrest).elim
        · cases h
  · rintro ⟨cs, hcs, hds⟩
    induction hcs generalizing ds with
    | single c =>
        cases hds with
        | cons hd hnil =>
            cases hnil
            rw [groupedDigits, hd]
            rfl
    | next c hcs ih =>
        cases hds with
        | cons hd hrest =>
            obtain ⟨c', cs', s', rfl, rfl⟩ := hcs.exists_cons
            have hother : c' ≠ '_' := by
              rintro rfl
              cases hrest with
              | cons hd' _ => cases decimalDigit?_underscore.symm.trans hd'
            rw [groupedDigits.eq_4 _ _ (by simp) (by simpa using hother), hd, ih hrest]
    | group c hcs ih =>
        cases hds with
        | cons hd hrest => rw [groupedDigits, hd, ih hrest]

/-- All characters of a run of digits may belong to one. -/
theorem Grouped.isDigitOrUnderscore (h : Grouped cs s) (hds : AreDigits cs ds) :
    ∀ c ∈ s, isDigitOrUnderscore c = true := by
  intro c hc
  rcases h.mem c hc with rfl | hc
  · decide
  · obtain ⟨d, -, hd⟩ := Alignment.exists_of_mem_left hds hc
    simp [Numeral.isDigitOrUnderscore, Text.isDecimalDigit, hd]

theorem readNatural_eq_ok_iff : readNatural s = .ok n ↔ DenotesNatural s n := by
  constructor
  · intro h
    unfold readNatural at h
    split at h
    · cases h
    · next ds hds =>
        split at h
        · cases h
        · next hlimit =>
            split at h
            · next hempty =>
                have hall : s.takeWhile isDigitOrUnderscore = s :=
                  List.takeWhile_eq_self_iff.2 (List.dropWhile_eq_nil_iff.1 (List.isEmpty_iff.1 hempty))
                rw [hall] at hds
                obtain ⟨cs, hcs, hdigits⟩ := groupedDigits_eq_some_iff.1 hds
                exact ⟨cs, ds, hcs, hdigits, Nat.le_of_not_lt hlimit, ofDigits_eq.symm.trans (Except.ok.inj h)⟩
            · cases h
  · rintro ⟨cs, ds, hcs, hdigits, hlimit, rfl⟩
    have hall := hcs.isDigitOrUnderscore hdigits
    rw [readNatural, List.takeWhile_eq_self_iff.2 hall, List.dropWhile_eq_nil_iff.2 hall,
      groupedDigits_eq_some_iff.2 ⟨cs, hcs, hdigits⟩]
    simp only [Nat.not_lt.2 hlimit, if_false, List.isEmpty_nil, if_true, ofDigits_eq]

/-- A run of digits has no sign in front. -/
theorem not_denotesNatural_cons (h : isDigitOrUnderscore c = false) : ¬ DenotesNatural (c :: s) n := by
  rintro ⟨cs, ds, hcs, hdigits, -⟩
  rw [hcs.isDigitOrUnderscore hdigits c List.mem_cons_self] at h
  cases h

/-- What is made of a natural number that is read. -/
theorem map_readNatural_eq_ok_iff {f : Int → Int} :
    (do let n ← readNatural s; pure (n : Int)).map f = .ok i ↔ ∃ n : Nat, DenotesNatural s n ∧ f n = i := by
  simp only [map_eq_ok_iff, bind_eq_ok_iff, readNatural_eq_ok_iff]
  constructor
  · rintro ⟨_, ⟨n, hn, h⟩, hf⟩
    obtain rfl := Except.ok.inj h
    exact ⟨n, hn, hf⟩
  · rintro ⟨n, hn, hf⟩
    exact ⟨n, ⟨n, hn, rfl⟩, hf⟩

/-- An integer is read exactly from the texts that denote it. -/
theorem readInteger_eq_ok_iff : readInteger s = .ok i ↔ Denotes s i := by
  unfold readInteger
  split
  · next s =>
      rw [map_readNatural_eq_ok_iff]
      constructor
      · rintro ⟨n, hn, rfl⟩
        exact .minus hn
      · intro h
        cases h with
        | unsigned h => exact absurd h (not_denotesNatural_cons (by decide))
        | minus h => exact ⟨_, h, rfl⟩
  · next s =>
      rw [map_readNatural_eq_ok_iff]
      constructor
      · rintro ⟨n, hn, rfl⟩
        exact .plus hn
      · intro h
        cases h with
        | unsigned h => exact absurd h (not_denotesNatural_cons (by decide))
        | plus h => exact ⟨_, h, rfl⟩
  · next hminus hplus =>
      rw [map_readNatural_eq_ok_iff]
      constructor
      · rintro ⟨n, hn, rfl⟩
        exact .unsigned hn
      · intro h
        cases h with
        | unsigned h => exact ⟨_, h, rfl⟩
        | plus h => exact absurd rfl (hplus _)
        | minus h => exact absurd rfl (hminus _)

/-! ### Decimal digits -/

theorem isBlank_of_isDigit (h : c.isDigit = true) : Text.isBlank c = false := by
  simp only [Char.isDigit, Bool.and_eq_true, decide_eq_true_eq] at h
  have hlow : 48 ≤ c.toNat := h.1
  have hhigh : c.toNat ≤ 57 := h.2
  simp [Text.isBlank, Text.inRanges, Text.blankRanges]
  omega

/-- The digits of ASCII come first among the decimal digits. -/
theorem decimalDigit?_of_isDigit (h : c.isDigit = true) : decimalDigit? c = some (c.toNat - 48) := by
  simp only [Char.isDigit, Bool.and_eq_true, decide_eq_true_eq] at h
  have hlow : 48 ≤ c.toNat := h.1
  have hhigh : c.toNat ≤ 57 := h.2
  rw [decimalDigit?, Text.decimalZeros, List.find?_cons_of_pos]
  · rfl
  · simp only [Bool.and_eq_true, decide_eq_true_eq]
    omega

theorem isDigit_of_mem_toDigits (h : c ∈ Nat.toDigits 10 n) : c.isDigit = true :=
  Nat.isDigit_of_mem_toDigits (by decide) (by decide) h

theorem ofDigits_map : ofDigits (s.map fun c => c.toNat - 48) = Nat.ofDigitChars 10 s 0 := by
  rw [ofDigits, List.foldl_map]
  rfl

/-- A run of characters without underscores is made of these characters. -/
theorem grouped_self (hne : s ≠ []) : Grouped s s := by
  induction s with
  | nil => exact absurd rfl hne
  | cons c s ih =>
      cases s with
      | nil => exact .single c
      | cons c' s => exact .next c (ih (List.cons_ne_nil c' s))

/-- Digits of ASCII denote the number that they are the decimal form of. -/
theorem denotesNatural_of_isDigit (hs : Grouped cs s) (h : ∀ c ∈ cs, c.isDigit = true)
    (hlimit : cs.length ≤ digitLimit) : DenotesNatural s (Nat.ofDigitChars 10 cs 0) := by
  have hdigits : AreDigits cs (cs.map fun c => c.toNat - 48) :=
    List.forall₂_map_right_iff.2 (List.forall₂_same.2 fun c hc => decimalDigit?_of_isDigit (h c hc))
  refine ⟨cs, _, hs, hdigits, ?_, ?_⟩
  · rwa [List.length_map]
  · rw [← ofDigits_eq, ofDigits_map]

/-- The digits of an integer as it is written, with more zeros in front. -/
def paddedDigits (zeros : Nat) (i : Int) : List Char := List.replicate zeros '0' ++ Nat.toDigits 10 i.natAbs

/-- What stands in front of the digits of an integer as it is written. -/
def signOf (i : Int) : List Char := if i < 0 then ['-'] else []

theorem isDigit_of_mem_paddedDigits {zeros : Nat} (h : c ∈ paddedDigits zeros i) : c.isDigit = true := by
  rcases List.mem_append.1 h with h | h
  · rw [(List.mem_replicate.1 h).2]
    decide
  · exact isDigit_of_mem_toDigits h

end Numeral

namespace Numeral

variable {i : Int} {s : List Char} {zeros : Nat}

/-- The decimal form of an integer denotes it, whatever zeros are put in front of its digits and underscores between
them, as long as there are not too many. -/
theorem denotes_paddedDigits (hs : Grouped (paddedDigits zeros i) s) (hlimit : zeros + digitCount i ≤ digitLimit) :
    Denotes (signOf i ++ s) i := by
  have hlength : (paddedDigits zeros i).length = zeros + digitCount i := by simp [paddedDigits, digitCount]
  have hvalue : Nat.ofDigitChars 10 (paddedDigits zeros i) 0 = i.natAbs := by
    rw [paddedDigits, Nat.ofDigitChars_append, Nat.ofDigitChars_replicate_zero, Nat.mul_zero,
      Nat.ofDigitChars_ten_toDigits]
  have hnatural := denotesNatural_of_isDigit hs (fun c => isDigit_of_mem_paddedDigits) (by omega)
  rw [hvalue] at hnatural
  rw [signOf]
  split
  · next hneg =>
      have hminus := Denotes.minus hnatural
      rwa [show -(i.natAbs : Int) = i by omega] at hminus
  · next hpos =>
      have hplain := Denotes.unsigned hnatural
      rwa [show (i.natAbs : Int) = i by omega] at hplain

/-- No blank stands in the decimal form of an integer. -/
theorem isBlank_of_mem_paddedDigits (hs : Grouped (paddedDigits zeros i) s) :
    ∀ c ∈ signOf i ++ s, Text.isBlank c = false := by
  refine List.forall_mem_append.2 ⟨?_, ?_⟩
  · rw [signOf]
    split
    · exact List.forall_mem_singleton.2 (by decide)
    · exact List.forall_mem_nil _
  · intro c hc
    rcases hs.mem c hc with rfl | hc
    · decide
    · exact isBlank_of_isDigit (isDigit_of_mem_paddedDigits hc)

end Numeral

/-- The text of an integer: its digits, behind a minus if it is negative. -/
theorem toList_toString (i : Int) : (toString i).toList = Numeral.signOf i ++ Nat.toDigits 10 i.natAbs := by
  cases i with
  | ofNat n =>
      change n.repr.toList = _
      rw [Nat.toList_repr, Numeral.signOf, if_neg (by simp)]
      rfl
  | negSucc n =>
      change ("-" ++ (n + 1).repr).toList = _
      rw [String.toList_append, Nat.toList_repr, Numeral.signOf, if_pos (Int.negSucc_lt_zero n)]
      rfl

theorem grouped_toDigits (i : Int) : Numeral.Grouped (Numeral.paddedDigits 0 i) (Nat.toDigits 10 i.natAbs) :=
  Numeral.grouped_self (by simp [Numeral.paddedDigits])

theorem Text.trim_toString (i : Int) : Text.trim (toString i) = toString i := by
  have htrim := trim_ofList (Numeral.isBlank_of_mem_paddedDigits (grouped_toDigits i))
  rwa [← toList_toString, String.ofList_toList] at htrim

namespace Literal

variable {text : String} {i : Int}

/-- An integer is read exactly from the texts that denote it between blanks. -/
theorem int_eq_ok_iff : int text = .ok i ↔ Numeral.Denotes (Text.trim text).toList i := by
  rw [int, mapError_eq_ok_iff, Numeral.readInteger_eq_ok_iff]

theorem int_toString (h : digitCount i ≤ Numeral.digitLimit) : int (toString i) = .ok i := by
  rw [int_eq_ok_iff, Text.trim_toString, toList_toString]
  exact Numeral.denotes_paddedDigits (grouped_toDigits i) (by omega)

theorem not_denotes_nil : ¬ Numeral.Denotes [] i := by
  intro h
  cases h with
  | unsigned h =>
      obtain ⟨cs, ds, hs, -⟩ := h
      cases hs

/-- An integer that may be left out is none exactly if it is left out or blank. -/
theorem int?_eq_none_iff {value : Option String} :
    int? value = .ok none ↔ ∀ text ∈ value, Text.isBlankText text = true := by
  cases value with
  | none => simp [int?]
  | some text =>
      simp only [Option.mem_some_iff, forall_eq', int?]
      cases Text.isBlankText text with
      | true => simp
      | false => cases int (Text.trim text) <;> simp [Except.map]

/-- Otherwise it is read as any integer. -/
theorem int?_eq_some_iff {value : Option String} :
    int? value = .ok (some i) ↔ ∃ text ∈ value, Numeral.Denotes (Text.trim text).toList i := by
  cases value with
  | none => simp [int?]
  | some text =>
      simp only [Option.mem_some_iff, exists_eq_left', int?]
      cases hblank : Text.isBlankText text with
      | true => simp [Text.trim_of_isBlankText hblank, not_denotes_nil]
      | false => simp [map_eq_ok_iff, int_eq_ok_iff, Text.trim_trim]

/-- The decimal form of an integer is read back, whatever blanks are put around it, zeros in front of its digits and
underscores between them, as long as there are not too many digits. -/
theorem int?_padded {zeros : Nat} {before s after : List Char} (hbefore : ∀ c ∈ before, Text.isBlank c = true)
    (hs : Numeral.Grouped (Numeral.paddedDigits zeros i) s) (hafter : ∀ c ∈ after, Text.isBlank c = true)
    (hlimit : zeros + digitCount i ≤ Numeral.digitLimit) :
    int? (some (String.ofList (before ++ (Numeral.signOf i ++ s) ++ after))) = .ok (some i) := by
  refine int?_eq_some_iff.2 ⟨_, rfl, ?_⟩
  rw [Text.trim_padded hbefore hafter, Text.trim_ofList (Numeral.isBlank_of_mem_paddedDigits hs), String.toList_ofList]
  exact Numeral.denotes_paddedDigits hs hlimit

end Literal

/-! ## Paths -/

/-- A path is read back if its text does not begin or end with a blank and no segment is empty or has a slash. -/
theorem Csdl.pathSegments_intercalate {segments : List String} (hne : ∀ s ∈ segments, s ≠ "")
    (hslash : ∀ s ∈ segments, '/' ∉ s.toList)
    (htrim : Text.trim ("/".intercalate segments) = "/".intercalate segments) :
    pathSegments ("/".intercalate segments) = segments := by
  rw [pathSegments, htrim]
  cases segments with
  | nil => decide
  | cons s more =>
      have hcut : Text.segments '/' ("/".intercalate (s :: more)) = s :: more :=
        Text.segments_intercalate (List.cons_ne_nil _ _) hslash
      rw [hcut]
      exact List.filter_eq_self.2 fun x hx => by simpa using hne x hx

end EntityModel
