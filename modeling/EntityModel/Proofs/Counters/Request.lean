import EntityModel.Counters.Basic
import EntityModel.Text.Half

/-!
# Counters of requests

A request counts once in the total, once under its method and once under its path and status. The three keys never
meet: no method is counted under the total, since a text in capitals has no small letter of ASCII, and a status has no
bar, so that a path and a status can be read off their key (`pathKey_eq_iff`). So each request adds one to the total,
and one to the counter of its path and status alone (`count_addRequest`).
-/

namespace EntityModel

/-! ## Tables of counters -/

section Tables

variable {t : Table String Int} {key other : String} {amount : Int}

theorem Table.count_bump_self : Table.count (Table.bump key amount t) key = Table.count t key + amount := by
  rw [count, bump, lookup_put_self, Option.getD_some]

theorem Table.count_bump_of_ne (h : other ≠ key) : Table.count (Table.bump key amount t) other = Table.count t other := by
  rw [count, bump, lookup_put_of_ne h, count]

end Tables

/-! ## Capital letters -/

namespace Text

theorem isLower_eq_false_iff {c : Char} : c.isLower = false ↔ c.toNat < 0x61 ∨ 0x7A < c.toNat := by
  have hcode : c.isLower = (decide (0x61 ≤ c.toNat) && decide (c.toNat ≤ 0x7A)) := rfl
  rw [hcode, Bool.and_eq_false_iff, decide_eq_false_iff_not, decide_eq_false_iff_not, Nat.not_le, Nat.not_le]

theorem isLower_ofNat {n : Nat} (h : n < 0x61 ∨ 0x7A < n) : (Char.ofNat n).isLower = false := by
  rw [isLower_eq_false_iff]
  by_cases hvalid : n.isValidChar
  · rwa [toNat_ofNat hvalid]
  · rw [Char.ofNat, dif_neg hvalid]
    decide

theorem isLower_toUpper (c : Char) : c.toUpper.isLower = false := by
  rw [isLower_eq_false_iff]
  unfold Char.toUpper
  split
  · next h =>
      have hsmall : 0x61 ≤ c.val.toNat ∧ c.val.toNat ≤ 0x7A := h
      have hshift : ('A'.val - 'a'.val).toNat = 2 ^ 32 - 0x20 := by decide
      change (c.val + ('A'.val - 'a'.val)).toNat < 0x61 ∨ 0x7A < (c.val + ('A'.val - 'a'.val)).toNat
      rw [UInt32.toNat_add, hshift]
      omega
  · next h =>
      have hother : ¬ (0x61 ≤ c.toNat ∧ c.toNat ≤ 0x7A) := h
      omega

theorem caseRuns_spare_small :
    ∀ r ∈ caseRuns, r.last < 0x80 ∨ 0x7A < r.first + r.shift ∨ r.last + r.shift < 0x61 := by decide +kernel

theorem wideCapitals_spare_small : ∀ e ∈ wideCapitals, ∀ n ∈ e.2, n < 0x61 ∨ 0x7A < n := by decide +kernel

/-- No capital is a small letter of ASCII. -/
theorem isLower_of_mem_capitals {c d : Char} (h : d ∈ capitals c) : d.isLower = false := by
  unfold capitals at h
  split at h
  · obtain rfl := List.mem_singleton.1 h
    exact isLower_toUpper c
  · next hlarge =>
      split at h
      · next ns hwide =>
          obtain ⟨n, hn, rfl⟩ := List.mem_map.1 h
          obtain ⟨before, after, hsplit, -⟩ := List.lookup_eq_some_iff.1 hwide
          exact isLower_ofNat (wideCapitals_spare_small (c.toNat, ns) (by simp [hsplit]) n hn)
      · split at h
        · next r hr =>
            obtain rfl := List.mem_singleton.1 h
            have hcovers : (r.first ≤ c.toNat ∧ c.toNat ≤ r.last) ∧ (c.toNat - r.first) % r.step = 0 := by
              simpa [CaseRun.covers] using List.find?_some hr
            have hspare := caseRuns_spare_small r (List.mem_of_find?_eq_some hr)
            exact isLower_ofNat (by omega)
        · obtain rfl := List.mem_singleton.1 h
          have hcode : d.isLower = (decide (0x61 ≤ d.toNat) && decide (d.toNat ≤ 0x7A)) := rfl
          rw [hcode, Bool.and_eq_false_iff, decide_eq_false_iff_not, decide_eq_false_iff_not]
          omega

theorem isLower_of_mem_upper {s : String} {d : Char} (h : d ∈ (upper s).toList) : d.isLower = false := by
  rw [upper, String.toList_ofList] at h
  obtain ⟨c, -, hd⟩ := List.mem_flatMap.1 h
  exact isLower_of_mem_capitals hd

end Text

namespace Counters

/-! ## Keys -/

section Keys

variable {method path path' : String} {status status' : Option Int}

theorem methodLabel_ne {label : String} (hsmall : ∃ c ∈ label.toList, c.isLower = true)
    (hnone : label ≠ "UNKNOWN") : methodLabel method ≠ label := by
  rintro rfl
  unfold methodLabel at hsmall hnone
  split at hsmall
  · next h => exact hnone (if_pos h)
  · obtain ⟨c, hc, hlower⟩ := hsmall
    rw [Text.isLower_of_mem_upper hc] at hlower
    cases hlower

/-- No method is counted under the total. -/
theorem methodKey_ne_totalKey : methodKey method ≠ totalKey := by
  have htotal : totalKey = "requests_" ++ "total" := rfl
  rw [methodKey, htotal, Ne, String.append_right_inj]
  exact methodLabel_ne ⟨'t', by decide, by decide⟩ (by decide)

theorem head?_pathKey : (pathKey path status).toList.head? = some 'p' := by
  simp [pathKey, String.toList_append]

theorem head?_methodKey : (methodKey method).toList.head? = some 'r' := by
  simp [methodKey, String.toList_append]

/-- Nothing of a path is counted under the total or under a method. -/
theorem pathKey_ne {key : String} (h : key.toList.head? = some 'r') : pathKey path status ≠ key := by
  rintro rfl
  rw [head?_pathKey] at h
  cases h

theorem natRepr_inj {n n' : Nat} (h : n.repr = n'.repr) : n = n' := by
  rw [Nat.repr_eq_ofList_toDigits, Nat.repr_eq_ofList_toDigits, String.ofList_inj] at h
  rw [← Nat.ofDigitChars_ten_toDigits (n := n), h, Nat.ofDigitChars_ten_toDigits]

theorem not_mem_natRepr {n : Nat} {c : Char} (h : c.isDigit = false) : c ∉ n.repr.toList := by
  intro hmem
  rw [Nat.repr_eq_ofList_toDigits, String.toList_ofList] at hmem
  rw [Nat.isDigit_of_mem_toDigits (by decide) (by decide) hmem] at h
  cases h

/-- There is no bar in a status. -/
theorem not_mem_statusLabel : '|' ∉ (statusLabel status).toList := by
  cases status with
  | none => decide
  | some n =>
      cases n with
      | ofNat n => exact not_mem_natRepr (by decide)
      | negSucc n =>
          change '|' ∉ ("-" ++ (n + 1).repr).toList
          rw [String.toList_append, List.mem_append, not_or]
          exact ⟨by decide, not_mem_natRepr (by decide)⟩

theorem statusLabel_eq_iff {n n' : Nat} :
    statusLabel (some (n : Int)) = statusLabel (some (n' : Int)) ↔ n = n' :=
  ⟨natRepr_inj, fun h => by rw [h]⟩

/-- What stands before and behind the last bar. -/
theorem eq_of_append_bar {a a' b b' : List Char} (hb : '|' ∉ b) (hb' : '|' ∉ b')
    (h : a ++ '|' :: b = a' ++ '|' :: b') : a = a' ∧ b = b' := by
  rcases List.append_eq_append_iff.1 h with ⟨more, rfl, hmore⟩ | ⟨more, rfl, hmore⟩
  · cases more with
    | nil => simpa using hmore
    | cons c more =>
        obtain ⟨-, rfl⟩ := List.cons.inj hmore
        simp at hb
  · cases more with
    | nil => simpa [eq_comm] using hmore
    | cons c more =>
        obtain ⟨-, rfl⟩ := List.cons.inj hmore
        simp at hb'

/-- A path and a status are told by their key. -/
theorem pathKey_eq_iff {n n' : Nat} :
    pathKey path (some (n : Int)) = pathKey path' (some (n' : Int)) ↔ normalizePath path = normalizePath path' ∧ n = n' := by
  constructor
  · intro h
    have hlists := congrArg String.toList h
    simp only [pathKey, String.toList_append] at hlists
    have hbar : "|".toList = ['|'] := rfl
    rw [hbar, List.append_assoc, List.append_assoc, List.append_assoc, List.append_assoc,
      List.append_cancel_left_eq] at hlists
    obtain ⟨hpath, hstatus⟩ := eq_of_append_bar not_mem_statusLabel not_mem_statusLabel hlists
    exact ⟨String.toList_inj.1 hpath, statusLabel_eq_iff.1 (String.toList_inj.1 hstatus)⟩
  · rintro ⟨hpath, rfl⟩
    rw [pathKey, pathKey, hpath]

end Keys

/-! ## Counting -/

section Counting

variable {method path path' name : String} {status status' : Nat} {amount : Int} {c : Counters}

@[simp] theorem requests_countNamed : (c.countNamed name amount).requests = c.requests := by
  unfold countNamed
  split <;> rfl

theorem countRequest_of_isWritable {status : Option Int} (h : isWritable status = true) :
    c.countRequest method path status = .ok (c.addRequest method path status) := if_pos h

/-- A request adds one to the total. -/
theorem total_addRequest {status : Option Int} :
    Table.count (c.addRequest method path status).requests totalKey = Table.count c.requests totalKey + 1 := by
  rw [addRequest, Table.count_bump_of_ne (pathKey_ne (by decide)).symm,
    Table.count_bump_of_ne methodKey_ne_totalKey.symm, Table.count_bump_self]

/-- A request adds one to the counter of its path and status, and of no other. -/
theorem count_addRequest :
    Table.count (c.addRequest method path (some (status : Int))).requests (pathKey path' (some (status' : Int))) =
      Table.count c.requests (pathKey path' (some (status' : Int))) +
        if normalizePath path = normalizePath path' ∧ status = status' then 1 else 0 := by
  have hothers : Table.count (Table.bump (methodKey method) 1 (Table.bump totalKey 1 c.requests))
      (pathKey path' (some (status' : Int))) = Table.count c.requests (pathKey path' (some (status' : Int))) := by
    rw [Table.count_bump_of_ne (pathKey_ne head?_methodKey), Table.count_bump_of_ne (pathKey_ne (by decide))]
  rw [addRequest]
  split
  · next hsame =>
      rw [pathKey_eq_iff.2 hsame, Table.count_bump_self, hothers]
  · next hother =>
      rw [Table.count_bump_of_ne fun h => hother (pathKey_eq_iff.1 h.symm), hothers, Int.add_zero]

end Counting

end Counters

end EntityModel
