import EntityModel.Counters.Path
import EntityModel.Proofs.Alignment
import EntityModel.Proofs.Text.Split

/-!
# Normal paths

Both replacements in a path happen behind a slash and stay in front of the next one. So a path is normalised segment by
segment: what stands before the first slash is left alone, and each segment behind a slash is `relabelled`
(`toList_normalizePath`). A segment that has been relabelled begins with no digit and with no UUID. That is why a second
run finds nothing to do, and why it does not matter which UUID a segment begins with (`normalizePath_settled`).
-/

namespace EntityModel.Counters

/-! ## UUIDs -/

/-- Groups of hexadecimal digits with hyphens between them, of the lengths that a UUID has. -/
def IsUuid (u : List Char) : Prop :=
  ∃ groups : List (List Char),
    List.Forall₂ (fun n g => g.length = n ∧ ∀ c ∈ g, isHexDigit c = true) uuidGroups groups ∧
      u = ['-'].intercalate groups

section Uuids

variable {n : Nat} {ns : List Nat} {s r u : List Char}

theorem afterHexDigits_eq_some_iff :
    afterHexDigits n s = some r ↔ ∃ g, (g.length = n ∧ ∀ c ∈ g, isHexDigit c = true) ∧ s = g ++ r := by
  induction n generalizing s with
  | zero => simp [afterHexDigits]
  | succ n ih =>
      cases s with
      | nil => simp [afterHexDigits]
      | cons c s =>
          rw [afterHexDigits]
          constructor
          · intro h
            split at h
            · next hc =>
                obtain ⟨g, ⟨hlength, hg⟩, rfl⟩ := ih.1 h
                exact ⟨c :: g, ⟨congrArg Nat.succ hlength, List.forall_mem_cons.2 ⟨hc, hg⟩⟩, rfl⟩
            · cases h
          · rintro ⟨g, ⟨hlength, hg⟩, hs⟩
            obtain ⟨d, g, rfl⟩ := List.exists_cons_of_length_eq_add_one hlength
            obtain ⟨rfl, rfl⟩ := List.cons.inj hs
            obtain ⟨hc, hg⟩ := List.forall_mem_cons.1 hg
            rw [if_pos hc]
            exact ih.2 ⟨g, ⟨Nat.succ.inj hlength, hg⟩, rfl⟩

theorem afterGroups_eq_some_iff :
    afterGroups ns s = some r ↔
      ∃ groups, List.Forall₂ (fun n g => g.length = n ∧ ∀ c ∈ g, isHexDigit c = true) ns groups ∧
        s = ['-'].intercalate groups ++ r := by
  induction ns generalizing s with
  | nil => simp [afterGroups]
  | cons n ns ih =>
      cases ns with
      | nil => simp [afterGroups, afterHexDigits_eq_some_iff, List.forall₂_cons_left_iff]
      | cons m ns =>
          rw [afterGroups]
          · constructor
            · intro h
              split at h
              · next rest hfirst =>
                  obtain ⟨g, hg, rfl⟩ := afterHexDigits_eq_some_iff.1 hfirst
                  obtain ⟨groups, hgroups, rfl⟩ := ih.1 h
                  obtain ⟨g', groups, -, -, rfl⟩ := List.forall₂_cons_left_iff.1 hgroups
                  refine ⟨g :: g' :: groups, .cons hg hgroups, ?_⟩
                  rw [List.intercalate_cons_cons]
                  simp
              · cases h
            · rintro ⟨groups, hgroups, rfl⟩
              obtain ⟨g, more, hg, hmore, rfl⟩ := List.forall₂_cons_left_iff.1 hgroups
              obtain ⟨g', groups, -, -, rfl⟩ := List.forall₂_cons_left_iff.1 hmore
              have hfirst : afterHexDigits n (['-'].intercalate (g :: g' :: groups) ++ r) =
                  some ('-' :: (['-'].intercalate (g' :: groups) ++ r)) :=
                afterHexDigits_eq_some_iff.2 ⟨g, hg, by rw [List.intercalate_cons_cons]; simp⟩
              rw [hfirst]
              exact ih.2 ⟨_, hmore, rfl⟩
          · simp

theorem isUuid_iff : IsUuid u ↔ afterGroups uuidGroups u = some [] := by
  simp only [IsUuid, afterGroups_eq_some_iff, List.append_nil]

instance : DecidablePred IsUuid := fun _ => decidable_of_iff _ isUuid_iff.symm

theorem startsWithUuid_iff : startsWithUuid s = true ↔ ∃ u, IsUuid u ∧ u <+: s := by
  rw [startsWithUuid, Option.isSome_iff_exists]
  constructor
  · rintro ⟨r, h⟩
    obtain ⟨groups, hgroups, rfl⟩ := afterGroups_eq_some_iff.1 h
    exact ⟨_, ⟨groups, hgroups, rfl⟩, r, rfl⟩
  · rintro ⟨_, ⟨groups, hgroups, rfl⟩, r, rfl⟩
    exact ⟨r, afterGroups_eq_some_iff.2 ⟨groups, hgroups, rfl⟩⟩

theorem length_of_isUuid (h : IsUuid u) : u.length = uuidLength := by
  obtain ⟨groups, h, rfl⟩ := h
  obtain ⟨a, _, ⟨ha, -⟩, h₁, rfl⟩ := List.forall₂_cons_left_iff.1 h
  obtain ⟨b, _, ⟨hb, -⟩, h₂, rfl⟩ := List.forall₂_cons_left_iff.1 h₁
  obtain ⟨c, _, ⟨hc, -⟩, h₃, rfl⟩ := List.forall₂_cons_left_iff.1 h₂
  obtain ⟨d, _, ⟨hd, -⟩, h₄, rfl⟩ := List.forall₂_cons_left_iff.1 h₃
  obtain ⟨e, _, ⟨he, -⟩, h₅, rfl⟩ := List.forall₂_cons_left_iff.1 h₄
  obtain rfl := List.forall₂_nil_left_iff.1 h₅
  simp only [List.intercalate_cons_cons, List.intercalate_singleton, List.length_append, List.length_singleton, ha, hb,
    hc, hd, he, uuidLength]

theorem slash_notMem_of_isUuid (h : IsUuid u) : '/' ∉ u := by
  obtain ⟨groups, hgroups, rfl⟩ := h
  intro hslash
  obtain hhyphen | ⟨g, hg, hslash⟩ := Text.mem_intercalate hslash
  · exact absurd hhyphen (by decide)
  · obtain ⟨n, -, -, hhex⟩ := Alignment.exists_of_mem_right hgroups hg
    exact absurd (hhex '/' hslash) (by decide)

end Uuids

/-! ## Segments -/

/-- A segment with the UUID that it begins with replaced. -/
def withoutUuid (segment : List Char) : List Char :=
  if startsWithUuid segment then ":uuid".toList ++ segment.drop uuidLength else segment

/-- A segment with the number that it begins with replaced. -/
def withoutNumber (segment : List Char) : List Char :=
  if startsWithDigit segment then ":id".toList ++ segment.dropWhile Text.isDecimalDigit else segment

/-- What a segment behind a slash becomes. -/
def relabelled (segment : List Char) : List Char := withoutNumber (withoutUuid segment)

/-- The segments behind slashes, each with its slash. -/
def trail (segments : List (List Char)) : List Char := segments.flatMap ('/' :: ·)

section Segments

variable {segment first : List Char} {segments : List (List Char)}

/-- A UUID in front of further segments ends before their slashes. -/
theorem startsWithUuid_append_trail : startsWithUuid (segment ++ trail segments) = startsWithUuid segment := by
  rw [Bool.eq_iff_iff, startsWithUuid_iff, startsWithUuid_iff]
  constructor
  · rintro ⟨u, hu, hprefix⟩
    exact ⟨u, hu, Text.isPrefix_of_notMem (slash_notMem_of_isUuid hu) hprefix⟩
  · rintro ⟨u, hu, hprefix⟩
    exact ⟨u, hu, hprefix.trans (List.prefix_append _ _)⟩

theorem startsWithDigit_append_trail : startsWithDigit (segment ++ trail segments) = startsWithDigit segment := by
  cases segment with
  | cons c segment => rfl
  | nil =>
      cases segments with
      | nil => rfl
      | cons next segments => exact (by decide : Text.isDecimalDigit '/' = false)

/-! ### The first replacement -/

theorem replaceUuids_append_of_notMem {rest : List Char} (h : '/' ∉ first) :
    replaceUuids 0 (first ++ rest) = first ++ replaceUuids 0 rest := by
  induction first with
  | nil => rfl
  | cons c first ih =>
      rw [List.mem_cons, not_or] at h
      rw [List.cons_append, replaceUuids, ih h.2]
      simp [Ne.symm h.1]

/-- The rest of a UUID is dropped. -/
theorem replaceUuids_append (dropped rest : List Char) :
    replaceUuids dropped.length (dropped ++ rest) = replaceUuids 0 rest := by
  induction dropped with
  | nil => rfl
  | cons c dropped ih => rw [List.length_cons, List.cons_append, replaceUuids, ih]

theorem replaceUuids_trail (h : ∀ segment ∈ segments, '/' ∉ segment) :
    replaceUuids 0 (trail segments) = trail (segments.map withoutUuid) := by
  induction segments with
  | nil => rfl
  | cons segment segments ih =>
      obtain ⟨hsegment, hsegments⟩ := List.forall_mem_cons.1 h
      have hcons : trail (segment :: segments) = '/' :: (segment ++ trail segments) := rfl
      rw [hcons, replaceUuids, startsWithUuid_append_trail, List.map_cons, withoutUuid]
      cases huuid : startsWithUuid segment with
      | false =>
          rw [replaceUuids_append_of_notMem hsegment, ih hsegments]
          simp [trail]
      | true =>
          obtain ⟨u, hu, rest, rfl⟩ := startsWithUuid_iff.1 huuid
          have hrest : '/' ∉ rest := fun hmem => hsegment (List.mem_append_right _ hmem)
          have hdrop : replaceUuids uuidLength (u ++ rest ++ trail segments) = replaceUuids 0 (rest ++ trail segments) := by
            rw [← length_of_isUuid hu, List.append_assoc, replaceUuids_append]
          rw [hdrop, replaceUuids_append_of_notMem hrest, ih hsegments]
          simp [trail, ← length_of_isUuid hu]

/-! ### The second replacement -/

theorem replaceNumbers_append_of_notMem {rest : List Char} (h : '/' ∉ first) :
    replaceNumbers false (first ++ rest) = first ++ replaceNumbers false rest := by
  induction first with
  | nil => rfl
  | cons c first ih =>
      rw [List.mem_cons, not_or] at h
      rw [List.cons_append, replaceNumbers, ih h.2]
      simp [Ne.symm h.1]

/-- The rest of a number is dropped. -/
theorem replaceNumbers_within (h : '/' ∉ segment) :
    replaceNumbers true (segment ++ trail segments) =
      segment.dropWhile Text.isDecimalDigit ++ replaceNumbers false (trail segments) := by
  induction segment with
  | nil =>
      cases segments with
      | nil => rfl
      | cons next segments =>
          have hcons : trail (next :: segments) = '/' :: (next ++ trail segments) := rfl
          have hslash : Text.isDecimalDigit '/' = false := by decide
          rw [hcons, List.nil_append, replaceNumbers, replaceNumbers, hslash]
          simp
  | cons c segment ih =>
      rw [List.mem_cons, not_or] at h
      rw [List.cons_append, replaceNumbers, List.dropWhile_cons]
      cases hdigit : Text.isDecimalDigit c with
      | true => simp [ih h.2]
      | false => simp [Ne.symm h.1, replaceNumbers_append_of_notMem h.2]

theorem replaceNumbers_trail (h : ∀ segment ∈ segments, '/' ∉ segment) :
    replaceNumbers false (trail segments) = trail (segments.map withoutNumber) := by
  induction segments with
  | nil => rfl
  | cons segment segments ih =>
      obtain ⟨hsegment, hsegments⟩ := List.forall_mem_cons.1 h
      have hcons : trail (segment :: segments) = '/' :: (segment ++ trail segments) := rfl
      rw [hcons, replaceNumbers, startsWithDigit_append_trail, List.map_cons, withoutNumber]
      cases startsWithDigit segment with
      | false =>
          rw [replaceNumbers_append_of_notMem hsegment, ih hsegments]
          simp [trail]
      | true =>
          rw [replaceNumbers_within hsegment, ih hsegments]
          simp [trail]

/-! ### Both replacements -/

theorem slash_notMem_withoutUuid (h : '/' ∉ segment) : '/' ∉ withoutUuid segment := by
  rw [withoutUuid]
  split
  · rw [List.mem_append, not_or]
    exact ⟨by decide, fun hmem => h (List.mem_of_mem_drop hmem)⟩
  · exact h

theorem slash_notMem_relabelled (h : '/' ∉ segment) : '/' ∉ relabelled segment := by
  rw [relabelled, withoutNumber]
  split
  · rw [List.mem_append, not_or]
    exact ⟨by decide, fun hmem => slash_notMem_withoutUuid h ((List.dropWhile_suffix _).mem hmem)⟩
  · exact slash_notMem_withoutUuid h

theorem startsWithUuid_relabelled (segment : List Char) : startsWithUuid (relabelled segment) = false := by
  have hfirst : startsWithUuid (withoutUuid segment) = false := by
    rw [withoutUuid]
    split
    · rfl
    · next huuid => exact Bool.eq_false_iff.2 huuid
  rw [relabelled, withoutNumber]
  split
  · rfl
  · exact hfirst

theorem startsWithDigit_relabelled (segment : List Char) : startsWithDigit (relabelled segment) = false := by
  rw [relabelled, withoutNumber]
  split
  · exact (by decide : Text.isDecimalDigit ':' = false)
  · next hdigit => exact Bool.eq_false_iff.2 hdigit

/-- A segment that begins with no digit and no UUID is left alone. -/
theorem relabelled_relabelled (segment : List Char) : relabelled (relabelled segment) = relabelled segment := by
  rw [relabelled, withoutUuid, startsWithUuid_relabelled, if_neg Bool.false_ne_true, withoutNumber,
    startsWithDigit_relabelled, if_neg Bool.false_ne_true]

/-- It counts that a segment begins with a UUID, not with which one. -/
theorem relabelled_append {u rest : List Char} (hu : IsUuid u) : relabelled (u ++ rest) = ":uuid".toList ++ rest := by
  have hstarts : startsWithUuid (u ++ rest) = true := startsWithUuid_iff.2 ⟨u, hu, List.prefix_append _ _⟩
  have hcolon : ¬ startsWithDigit (":uuid".toList ++ rest) = true := (by decide : ¬ Text.isDecimalDigit ':' = true)
  rw [relabelled, withoutUuid, if_pos hstarts, ← length_of_isUuid hu, List.drop_left, withoutNumber, if_neg hcolon]

/-- Segments are replaced one by one. -/
theorem replaced_joined (hfirst : '/' ∉ first) (h : ∀ segment ∈ segments, '/' ∉ segment) :
    replaceNumbers false (replaceUuids 0 (first ++ trail segments)) = first ++ trail (segments.map relabelled) := by
  rw [replaceUuids_append_of_notMem hfirst, replaceUuids_trail h, replaceNumbers_append_of_notMem hfirst,
    replaceNumbers_trail, List.map_map]
  · rfl
  · intro label hlabel
    obtain ⟨segment, hsegment, rfl⟩ := List.mem_map.1 hlabel
    exact slash_notMem_withoutUuid (h segment hsegment)

end Segments

/-! ## Paths -/

section Paths

variable {path : String} {first before after u u' : List Char} {segments : List (List Char)}

theorem toList_normalizePath (hne : path ≠ "") (hpath : path.toList = first ++ trail segments) (hfirst : '/' ∉ first)
    (h : ∀ segment ∈ segments, '/' ∉ segment) :
    (normalizePath path).toList = first ++ trail (segments.map relabelled) := by
  rw [normalizePath, if_neg hne, hpath, String.toList_ofList, replaced_joined hfirst h]

/-- A path that is not empty is normalised segment by segment. -/
theorem pieces_normalizePath (hne : path ≠ "") (hpath : Text.pieces '/' path.toList = first :: segments) :
    Text.pieces '/' (normalizePath path).toList = first :: segments.map relabelled := by
  obtain ⟨first', segments', hfirst, hsegments, hjoined⟩ := Text.exists_joined '/' path.toList
  rw [hjoined, Text.pieces_joined hfirst hsegments] at hpath
  obtain ⟨rfl, rfl⟩ := List.cons.inj hpath
  rw [toList_normalizePath hne hjoined hfirst hsegments]
  refine Text.pieces_joined hfirst fun label hlabel => ?_
  obtain ⟨segment, hsegment, rfl⟩ := List.mem_map.1 hlabel
  exact slash_notMem_relabelled (hsegments segment hsegment)

/-- A normal path is not empty, and each of its segments behind a slash has been relabelled. -/
theorem exists_relabelled (path : String) :
    ∃ (first : List Char) (segments : List (List Char)), normalizePath path ≠ "" ∧
      Text.pieces '/' (normalizePath path).toList = first :: segments.map relabelled := by
  by_cases hne : path = ""
  · subst hne
    exact ⟨[], [[]], by decide, by decide⟩
  · obtain ⟨first, segments, hfirst, hsegments, hjoined⟩ := Text.exists_joined '/' path.toList
    have hpieces : Text.pieces '/' path.toList = first :: segments := by
      rw [hjoined, Text.pieces_joined hfirst hsegments]
    refine ⟨first, segments, fun hempty => hne ?_, pieces_normalizePath hne hpieces⟩
    have hlist := toList_normalizePath hne hjoined hfirst hsegments
    rw [hempty] at hlist
    cases first with
    | cons c first => cases hlist
    | nil =>
        cases segments with
        | cons segment segments => cases hlist
        | nil => exact String.toList_eq_nil_iff.1 hjoined

theorem eq_of_pieces_eq {path path' : String} (h : Text.pieces '/' path.toList = Text.pieces '/' path'.toList) :
    path = path' :=
  String.toList_inj.1 (Text.pieces_inj.1 h)

theorem normalizePath_normalizePath (path : String) : normalizePath (normalizePath path) = normalizePath path := by
  obtain ⟨first, segments, hne, hpieces⟩ := exists_relabelled path
  refine eq_of_pieces_eq ?_
  rw [pieces_normalizePath hne hpieces, hpieces, List.map_map]
  exact congrArg (first :: ·) (List.map_congr_left fun segment _ => relabelled_relabelled segment)

/-- What stands behind a slash of a normal path begins with a segment that has been relabelled. -/
theorem exists_behind_slash (h : (normalizePath path).toList = before ++ '/' :: after) :
    ∃ segment more, after = relabelled segment ++ trail more := by
  obtain ⟨first, segments, -, hpieces⟩ := exists_relabelled path
  obtain ⟨label, more, hlabel, hmore, rfl⟩ := Text.exists_joined '/' after
  rw [h, Text.pieces_append, Text.pieces_joined hlabel hmore] at hpieces
  have hmem : label ∈ segments.map relabelled := by
    cases hbefore : Text.pieces '/' before with
    | nil => exact absurd hbefore (Text.pieces_ne_nil '/' before)
    | cons b bs =>
        rw [hbefore, List.cons_append] at hpieces
        rw [← (List.cons.inj hpieces).2]
        exact List.mem_append_right _ List.mem_cons_self
  obtain ⟨segment, -, rfl⟩ := List.mem_map.1 hmem
  exact ⟨segment, more, rfl⟩

/-- Of the UUID that a segment begins with nothing is left in the normal path. -/
theorem normalizePath_of_isUuid (hu : IsUuid u) (hu' : IsUuid u') :
    normalizePath (String.ofList (before ++ '/' :: (u ++ after))) =
      normalizePath (String.ofList (before ++ '/' :: (u' ++ after))) := by
  obtain ⟨b, bs, hb⟩ := List.exists_cons_of_ne_nil (Text.pieces_ne_nil '/' before)
  obtain ⟨first, ps, hfirst, hps, rfl⟩ := Text.exists_joined '/' after
  have hpieces : ∀ v, IsUuid v →
      Text.pieces '/' (normalizePath (String.ofList (before ++ '/' :: (v ++ (first ++ ps.flatMap ('/' :: ·)))))).toList =
        b :: (bs.map relabelled ++ (":uuid".toList ++ first) :: ps.map relabelled) := by
    intro v hv
    have hsegment : '/' ∉ v ++ first := by
      rw [List.mem_append, not_or]
      exact ⟨slash_notMem_of_isUuid hv, hfirst⟩
    have hcut : Text.pieces '/' (String.ofList (before ++ '/' :: (v ++ (first ++ ps.flatMap ('/' :: ·))))).toList =
        b :: (bs ++ (v ++ first) :: ps) := by
      rw [String.toList_ofList, Text.pieces_append, ← List.append_assoc, Text.pieces_joined hsegment hps, hb]
      rfl
    rw [pieces_normalizePath (by simp [← String.toList_inj]) hcut, List.map_append, List.map_cons, relabelled_append hv]
  exact eq_of_pieces_eq ((hpieces u hu).trans (hpieces u' hu').symm)

/-- Normalising a path is settled by one run: a second one changes nothing, since behind no slash of a normal path there
is a digit or a UUID. Of a path that is not empty each segment behind a slash is relabelled, and which UUID a segment
begins with does not matter. -/
theorem normalizePath_settled (path : String) :
    normalizePath (normalizePath path) = normalizePath path ∧
      (∀ before after, (normalizePath path).toList = before ++ '/' :: after →
        (∀ c ∈ after.head?, Text.isDecimalDigit c = false) ∧ ¬ ∃ u, IsUuid u ∧ u <+: after) ∧
      (∀ before u u' after, IsUuid u → IsUuid u' → path = String.ofList (before ++ '/' :: (u ++ after)) →
        normalizePath (String.ofList (before ++ '/' :: (u' ++ after))) = normalizePath path) ∧
      ∀ first segments, path ≠ "" → Text.pieces '/' path.toList = first :: segments →
        Text.pieces '/' (normalizePath path).toList = first :: segments.map relabelled := by
  refine ⟨normalizePath_normalizePath path, ?_, ?_, fun _ _ => pieces_normalizePath⟩
  · intro before after h
    obtain ⟨segment, more, rfl⟩ := exists_behind_slash h
    constructor
    · have hdigit : startsWithDigit (relabelled segment ++ trail more) = false := by
        rw [startsWithDigit_append_trail, startsWithDigit_relabelled]
      intro c hc
      rwa [startsWithDigit, Option.mem_def.1 hc, Option.any_some] at hdigit
    · rw [← startsWithUuid_iff, startsWithUuid_append_trail, startsWithUuid_relabelled]
      exact Bool.false_ne_true
  · rintro before u u' after hu hu' rfl
    exact normalizePath_of_isUuid hu' hu

/-- In a path with a UUID between two numbers all three are replaced, and with another UUID the path becomes the same. -/
theorem normalizePath_settled_of_items :
    normalizePath "/7/123e4567-E89B-12d3-a456-426614174000/8x" = "/:id/:uuid/:idx" ∧
      normalizePath "/7/00000000-0000-0000-0000-00000000000f/8x" =
        normalizePath "/7/123e4567-E89B-12d3-a456-426614174000/8x" := by
  refine ⟨by decide, ?_⟩
  exact (normalizePath_settled "/7/123e4567-E89B-12d3-a456-426614174000/8x").2.2.1 "/7".toList
    "123e4567-E89B-12d3-a456-426614174000".toList "00000000-0000-0000-0000-00000000000f".toList "/8x".toList
    (by decide) (by decide) (by decide)

end Paths

end EntityModel.Counters
