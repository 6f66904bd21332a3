import EntityModel.Text.Split
import Mathlib.Data.List.Basic

/-!
# Texts that are cut into pieces

A text is its pieces with separators between them, and no piece has a separator in it (`exists_joined`); from such
pieces a text is put together that is cut into them again (`pieces_joined`). At a separator a text is cut into the pieces
before it and the pieces behind it (`pieces_append`).
-/

namespace EntityModel.Text

variable {sep : Char} {first s : List Char} {ps : List (List Char)}

theorem pieces_of_notMem (h : sep ∉ s) : pieces sep s = [s] := by
  induction s with
  | nil => rfl
  | cons c s ih =>
      rw [List.mem_cons, not_or] at h
      rw [pieces, if_neg (Ne.symm h.1), ih h.2]

/-- A text is cut at a separator, whatever stands around it. -/
theorem pieces_append (before after : List Char) :
    pieces sep (before ++ sep :: after) = pieces sep before ++ pieces sep after := by
  induction before with
  | nil => simp only [List.nil_append, pieces, if_true, List.singleton_append]
  | cons c before ih =>
      rw [List.cons_append, pieces, pieces, ih]
      split
      · rfl
      · cases hps : pieces sep before with
        | nil => exact absurd hps (pieces_ne_nil sep before)
        | cons p ps => rfl

theorem pieces_append_of_notMem {rest : List Char} (h : sep ∉ s) :
    pieces sep (s ++ sep :: rest) = s :: pieces sep rest := by
  rw [pieces_append, pieces_of_notMem h, List.singleton_append]

/-- Pieces with separators between them are cut at these again. -/
theorem pieces_intercalate (hne : ps ≠ []) (h : ∀ p ∈ ps, sep ∉ p) : pieces sep ([sep].intercalate ps) = ps := by
  induction ps with
  | nil => exact absurd rfl hne
  | cons p ps ih =>
      have hp := h p List.mem_cons_self
      cases ps with
      | nil => rw [List.intercalate_singleton, pieces_of_notMem hp]
      | cons q ps =>
          have hrest := ih (List.cons_ne_nil _ _) fun x hx => h x (List.mem_cons_of_mem _ hx)
          rw [List.intercalate_cons_cons, List.append_assoc, List.singleton_append, pieces_append_of_notMem hp, hrest]

/-- What stands in a text that is put together stands in a piece or between two. -/
theorem mem_intercalate {c : Char} (h : c ∈ [sep].intercalate ps) : c = sep ∨ ∃ p ∈ ps, c ∈ p := by
  induction ps with
  | nil => cases h
  | cons p ps ih =>
      cases ps with
      | nil => exact .inr ⟨p, List.mem_cons_self, by simpa using h⟩
      | cons q ps =>
          rw [List.intercalate_cons_cons, List.append_assoc, List.singleton_append, List.mem_append, List.mem_cons] at h
          rcases h with h | h | h
          · exact .inr ⟨p, List.mem_cons_self, h⟩
          · exact .inl h
          · obtain h | ⟨x, hx, hc⟩ := ih h
            · exact .inl h
            · exact .inr ⟨x, List.mem_cons_of_mem _ hx, hc⟩

/-! ## Segments -/

section Segments

variable {segments : List String}

/-- Segments are found again in the text of their path. -/
theorem segments_intercalate (hne : segments ≠ []) (h : ∀ s ∈ segments, sep ∉ s.toList) :
    Text.segments sep ((String.singleton sep).intercalate segments) = segments := by
  have hmap : segments.map String.toList ≠ [] := by simpa using hne
  rw [Text.segments, String.toList_intercalate, String.toList_singleton, pieces_intercalate hmap]
  · simp
  · intro p hp
    obtain ⟨s, hs, rfl⟩ := List.mem_map.1 hp
    exact h s hs

theorem segments_ne_nil (sep : Char) (path : String) : Text.segments sep path ≠ [] := by
  rw [Text.segments, Ne, List.map_eq_nil_iff]
  exact pieces_ne_nil sep path.toList

/-- Of two paths with a separator between them the segments are those of the first and then those of the second. -/
theorem segments_append (q r : String) :
    Text.segments sep (q ++ String.singleton sep ++ r) = Text.segments sep q ++ Text.segments sep r := by
  have hlist : (q ++ String.singleton sep ++ r).toList = q.toList ++ sep :: r.toList := by
    rw [String.toList_append, String.toList_append, String.toList_singleton, List.append_assoc, List.singleton_append]
  rw [Text.segments, hlist, pieces_append, List.map_append, Text.segments, Text.segments]

end Segments

/-! ## The first piece and the ones behind separators -/

theorem pieces_joined (hfirst : sep ∉ first) (h : ∀ p ∈ ps, sep ∉ p) :
    pieces sep (first ++ ps.flatMap (sep :: ·)) = first :: ps := by
  induction ps generalizing first with
  | nil => rw [List.flatMap_nil, List.append_nil, pieces_of_notMem hfirst]
  | cons p ps ih =>
      rw [List.forall_mem_cons] at h
      rw [List.flatMap_cons, List.cons_append, pieces_append_of_notMem hfirst, ih h.1 h.2]

/-- Every text is a piece and further pieces behind a separator each, and no piece has a separator in it. -/
theorem exists_joined (sep : Char) (s : List Char) :
    ∃ (first : List Char) (ps : List (List Char)),
      sep ∉ first ∧ (∀ p ∈ ps, sep ∉ p) ∧ s = first ++ ps.flatMap (sep :: ·) := by
  induction s with
  | nil => exact ⟨[], [], by simp⟩
  | cons c s ih =>
      obtain ⟨first, ps, hfirst, hps, rfl⟩ := ih
      by_cases hc : c = sep
      · subst hc
        exact ⟨[], first :: ps, List.not_mem_nil, List.forall_mem_cons.2 ⟨hfirst, hps⟩, rfl⟩
      · refine ⟨c :: first, ps, ?_, hps, rfl⟩
        rw [List.mem_cons, not_or]
        exact ⟨Ne.symm hc, hfirst⟩

/-- A text is known by its pieces. -/
theorem pieces_inj {t : List Char} : pieces sep s = pieces sep t ↔ s = t := by
  refine ⟨fun h => ?_, fun h => by rw [h]⟩
  obtain ⟨first, ps, hfirst, hps, rfl⟩ := exists_joined sep s
  obtain ⟨first', ps', hfirst', hps', rfl⟩ := exists_joined sep t
  rw [pieces_joined hfirst hps, pieces_joined hfirst' hps'] at h
  obtain ⟨rfl, rfl⟩ := List.cons.inj h
  rfl

/-- What begins a text and has no separator in it begins its first piece. -/
theorem isPrefix_of_notMem (hs : sep ∉ s) (h : s <+: first ++ ps.flatMap (sep :: ·)) : s <+: first := by
  rcases List.prefix_or_prefix_of_prefix h (List.prefix_append first _) with hs' | ⟨t, rfl⟩
  · exact hs'
  · have ht := (List.prefix_append_right_inj first).1 h
    cases t with
    | nil => exact (List.append_nil first).symm ▸ List.prefix_rfl
    | cons c t =>
        cases ps with
        | nil => simp at ht
        | cons p ps =>
            obtain ⟨rfl, -⟩ := List.cons_prefix_cons.1 ht
            exact absurd (List.mem_append_right _ List.mem_cons_self) hs

end EntityModel.Text
