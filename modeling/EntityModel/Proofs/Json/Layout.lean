import EntityModel.Proofs.Json.Printer
import EntityModel.Proofs.Json.Quote

/-!
# Values over several lines

A value without numbers that is written over several lines is read back as its texts are, with the halves of pairs taken
together (`joined`), if the names in each object are different and have no such halves, and not too many arrays and
objects are within each other (`Writable.readsBack`). The reader skips line breaks and indentation, and every call of it
is paid for by a character. So the text of a value is read as the value with its texts joined and its members in order
(`read_render`), and the joined value has the same text (`render_joined`).
-/

namespace EntityModel.Json

open Reader (isSpace skip readText readValue readItems readFields)

/-! ## Joined texts -/

mutual

/-- The value with the halves of pairs taken together in every text. The names of members stay as they are. -/
def joined : Json → Json
  | .text s => .text (Text.joined s)
  | .list items => .list (joinedItems items)
  | .object fields => .object (joinedFields fields)
  | v => v

/-- Every item joined. -/
def joinedItems : List Json → List Json
  | [] => []
  | v :: vs => joined v :: joinedItems vs

/-- Every member joined. -/
def joinedFields : List (String × Json) → List (String × Json)
  | [] => []
  | (n, v) :: fs => (n, joined v) :: joinedFields fs

end

theorem joinedItems_eq_map (vs : List Json) : joinedItems vs = vs.map joined := by
  induction vs with
  | nil => rfl
  | cons v vs ih => rw [joinedItems, ih, List.map_cons]

theorem joinedFields_eq_map (fs : List (String × Json)) : joinedFields fs = fs.map fun f => (f.1, joined f.2) := by
  induction fs with
  | nil => rfl
  | cons f fs ih => rw [joinedFields, ih, List.map_cons]

theorem joinedFields_insertSorted (f : String × Json) (fs : List (String × Json)) :
    joinedFields (insertSorted f fs) = insertSorted (f.1, joined f.2) (joinedFields fs) := by
  induction fs with
  | nil => rfl
  | cons g fs ih =>
      rw [insertSorted, joinedFields, insertSorted]
      split
      · rw [joinedFields, ih]
      · rw [joinedFields, joinedFields]

mutual

/-- Texts may be joined before or after the members are put in order. -/
theorem joined_sorted : ∀ v : Json, joined (sorted v) = sorted (joined v)
  | .null => rfl
  | .bool _ => rfl
  | .int _ => rfl
  | .float _ => rfl
  | .text _ => rfl
  | .list vs => by rw [sorted, joined, joined, sorted, joinedItems_sortedItems vs]
  | .object fs => by rw [sorted, joined, joined, sorted, joinedFields_sortedFields fs]

theorem joinedItems_sortedItems : ∀ vs : List Json, joinedItems (sortedItems vs) = sortedItems (joinedItems vs)
  | [] => rfl
  | v :: vs => by rw [sortedItems, joinedItems, joinedItems, sortedItems, joined_sorted v, joinedItems_sortedItems vs]

theorem joinedFields_sortedFields :
    ∀ fs : List (String × Json), joinedFields (sortedFields fs) = sortedFields (joinedFields fs)
  | [] => rfl
  | (_, v) :: fs => by
      rw [sortedFields, joinedFields_insertSorted, joined_sorted v, joinedFields_sortedFields fs, joinedFields,
        sortedFields]

end

mutual

/-- At every level of indentation a value is written as if its texts were joined. -/
theorem indentedChars_joined (level : Nat) : ∀ v : Json, indentedChars level (joined v) = indentedChars level v
  | .null => rfl
  | .bool _ => rfl
  | .int _ => rfl
  | .float _ => rfl
  | .text s => quote_joined s
  | .list [] => rfl
  | .list (v :: vs) => by
      rw [joined, joinedItems, indentedChars, indentedChars_joined _ v, indentedItems_joined level vs, indentedChars]
  | .object [] => rfl
  | .object ((_, v) :: fs) => by
      rw [joined, joinedFields, indentedChars, indentedChars_joined _ v, indentedFields_joined level fs, indentedChars]

theorem indentedItems_joined (level : Nat) :
    ∀ vs : List Json, indentedItems level (joinedItems vs) = indentedItems level vs
  | [] => rfl
  | v :: vs => by
      rw [joinedItems, indentedItems, indentedChars_joined _ v, indentedItems_joined level vs, indentedItems]

theorem indentedFields_joined (level : Nat) :
    ∀ fs : List (String × Json), indentedFields level (joinedFields fs) = indentedFields level fs
  | [] => rfl
  | (_, v) :: fs => by
      rw [joinedFields, indentedFields, indentedChars_joined _ v, indentedFields_joined level fs, indentedFields]

end

/-- A value has the same text as with its texts joined. -/
theorem render_joined (v : Json) : (joined v).render = v.render := by
  rw [render, ← joined_sorted, indentedChars_joined, render]

/-! ## Values that can be written -/

/-- A value without numbers can be written and read back where some arrays and objects may be within each other. -/
inductive Writable : Nat → Json → Prop where
  | null {depth : Nat} : Writable depth .null
  | bool {depth : Nat} (b : Bool) : Writable depth (.bool b)
  | text {depth : Nat} (s : String) : Writable depth (.text s)
  | list {depth : Nat} {items : List Json} (h : ∀ v ∈ items, Writable depth v) : Writable (depth + 1) (.list items)
  | object {depth : Nat} {fields : List (String × Json)} (hnames : (fields.map (·.1)).Nodup)
      (htexts : ∀ f ∈ fields, Text.IsUnicode f.1) (h : ∀ f ∈ fields, Writable depth f.2) :
      Writable (depth + 1) (.object fields)

variable {depth fuel level : Nat} {v : Json} {vs : List Json} {fs : List (String × Json)} {rest : List Char}

/-- Members that are moved can be written as before. -/
theorem Writable.sorted (h : Writable depth v) : Writable depth (sorted v) := by
  induction h with
  | null => exact .null
  | bool b => exact .bool b
  | text s => exact .text s
  | list _ ih =>
      rw [Json.sorted, sortedItems_eq_map]
      exact .list (List.forall_mem_map.2 ih)
  | @object depth fields hnames htexts _ ih =>
      have hperm := sortedFields_perm fields
      rw [Json.sorted]
      refine .object ?_ ?_ ?_
      · refine (hperm.map (·.1)).nodup_iff.2 ?_
        rwa [List.map_map]
      · intro f hf
        obtain ⟨g, hg, rfl⟩ := List.mem_map.1 (hperm.mem_iff.1 hf)
        exact htexts g hg
      · intro f hf
        obtain ⟨g, hg, rfl⟩ := List.mem_map.1 (hperm.mem_iff.1 hf)
        exact ih g hg

theorem Writable.texts (ss : List String) : Writable (depth + 1) (.texts ss) :=
  .list (List.forall_mem_map.2 fun t _ => .text t)

theorem Writable.ofText? : ∀ o : Option String, Writable depth (.ofText? o)
  | none => .null
  | some t => .text t

/-- An object with some given names can be written if its values can. -/
theorem Writable.of_names {fs : List (String × Json)} (names : List String) (hnames : fs.map (·.1) = names)
    (hnodup : names.Nodup) (hunicode : ∀ n ∈ names, Text.IsUnicode n) (h : ∀ f ∈ fs, Writable depth f.2) :
    Writable (depth + 1) (.object fs) := by
  subst hnames
  exact .object hnodup (List.forall_mem_map.1 hunicode) h

/-! ## White space -/

theorem skip_of_head {c : Char} {s : List Char} (h : isSpace c = false) : skip (c :: s) = c :: s := by
  rw [skip, List.dropWhile_cons, h]
  rfl

theorem skip_newline (level : Nat) (s : List Char) : skip (newline level ++ s) = skip s := by
  have hspaces : ∀ c ∈ newline level, isSpace c = true := by
    intro c hc
    rcases List.mem_cons.1 hc with rfl | hc
    · decide
    · rw [List.eq_of_mem_replicate hc]
      decide
  rw [skip, List.dropWhile_append_of_pos hspaces, skip]

/-- A value starts with a character that is neither white space nor a bracket or brace that closes something. -/
theorem Writable.exists_head (h : Writable depth v) (level : Nat) :
    ∃ c s, indentedChars level v = c :: s ∧ isSpace c = false ∧ c ≠ ']' := by
  cases h with
  | null => exact ⟨_, _, rfl, by decide, by decide⟩
  | bool b => cases b <;> exact ⟨_, _, rfl, by decide, by decide⟩
  | text s => exact ⟨_, _, rfl, by decide, by decide⟩
  | @list _ items _ => cases items <;> exact ⟨_, _, rfl, by decide, by decide⟩
  | @object _ fields _ _ _ => cases fields <;> exact ⟨_, _, rfl, by decide, by decide⟩

/-! ## Steps of the reader -/

section Steps

variable {r r' : List Char} {c : Char} {s name : String} {acc : List Json} {members : List (String × Json)}

theorem readValue_text (h : readText ('"' :: r) [] r = .ok (s, rest)) :
    readValue depth (fuel + 1) ('"' :: r) = .ok (.text s, rest) := by
  rw [readValue, h]
  rfl

theorem readValue_emptyList : readValue (depth + 1) (fuel + 1) ('[' :: ']' :: r) = .ok (.list [], r) := by
  rw [readValue]
  rfl

theorem readValue_list (h : skip r = c :: r') (hc : c ≠ ']') :
    readValue (depth + 1) (fuel + 1) ('[' :: r) = readItems depth fuel [] (c :: r') := by
  unfold readValue
  simp only [h]
  split
  · next hdepth => cases hdepth
  · next hclose => exact absurd (List.cons.inj hclose).1 hc
  · next hdepth _ =>
      obtain rfl := Nat.succ.inj hdepth
      rfl

theorem readValue_emptyObject :
    readValue (depth + 1) (fuel + 1) ('\x7b' :: '\x7d' :: r) = .ok (.object [], r) := by
  rw [readValue]
  rfl

theorem readValue_object (h : skip r = '"' :: r') :
    readValue (depth + 1) (fuel + 1) ('\x7b' :: r) = readFields depth fuel [] ('"' :: r') := by
  unfold readValue
  simp only [h]
  rfl

theorem readItems_last (h : readValue depth fuel r = .ok (v, r')) (hclose : skip r' = ']' :: rest) :
    readItems depth (fuel + 1) acc r = .ok (.list (v :: acc).reverse, rest) := by
  rw [readItems, h]
  simp only [hclose]

theorem readItems_next (h : readValue depth fuel r = .ok (v, r')) (hnext : skip r' = ',' :: rest) :
    readItems depth (fuel + 1) acc r = readItems depth fuel (v :: acc) (skip rest) := by
  rw [readItems, h]
  simp only [hnext]

theorem readFields_last {text : List Char} (hname : readText ('"' :: text) [] text = .ok (name, ':' :: r))
    (h : readValue depth fuel (skip r) = .ok (v, r')) (hclose : skip r' = '\x7d' :: rest) :
    readFields depth (fuel + 1) members ('"' :: text) = .ok (.object (Table.put name v members), rest) := by
  rw [readFields, hname]
  simp only [skip_of_head (by decide : isSpace ':' = false), h, hclose]

theorem readFields_next {text : List Char} (hname : readText ('"' :: text) [] text = .ok (name, ':' :: r))
    (h : readValue depth fuel (skip r) = .ok (v, r')) (hnext : skip r' = ',' :: rest) :
    readFields depth (fuel + 1) members ('"' :: text) =
      readFields depth fuel (Table.put name v members) (skip rest) := by
  rw [readFields, hname]
  simp only [skip_of_head (by decide : isSpace ':' = false), h, hnext]

end Steps

/-! ## Reading back -/

/-- A value is read back with its texts joined at every level of indentation, whatever follows. -/
def ReadsBack (depth : Nat) (v : Json) : Prop :=
  ∀ level fuel rest, (indentedChars level v).length < fuel →
    readValue depth fuel (indentedChars level v ++ rest) = .ok (joined v, rest)

theorem skip_blank (s : List Char) : skip (' ' :: s) = skip s := rfl

theorem skip_close (level : Nat) {c : Char} (h : isSpace c = false) (s : List Char) :
    skip (newline level ++ c :: s) = c :: s := by
  rw [skip_newline, skip_of_head h]

theorem skip_indented (h : Writable depth v) (level : Nat) (s : List Char) :
    skip (newline level ++ (indentedChars level v ++ s)) = indentedChars level v ++ s := by
  obtain ⟨c, t, hhead, hspace, -⟩ := h.exists_head level
  rw [hhead, List.cons_append, skip_close level hspace]

theorem skip_quote (name : String) (s : List Char) : skip (quote name ++ s) = quote name ++ s :=
  skip_of_head (by decide)

theorem skip_of_writable (h : Writable depth v) (level : Nat) (s : List Char) :
    skip (indentedChars level v ++ s) = indentedChars level v ++ s := by
  obtain ⟨c, t, hhead, hspace, -⟩ := h.exists_head level
  rw [hhead, List.cons_append, skip_of_head hspace]

/-- Items are read up to the closing bracket. The induction is on the items behind the first one; each is paid for by its
own text. -/
theorem readItems_indented {acc : List Json} (hwritable : ∀ w ∈ v :: vs, Writable depth w)
    (hback : ∀ w ∈ v :: vs, ReadsBack depth w)
    (hfuel : (indentedChars (level + 1) v ++ indentedItems level vs).length < fuel) :
    readItems depth fuel acc (indentedChars (level + 1) v ++ (indentedItems level vs ++ rest)) =
      .ok (.list (acc.reverse ++ (v :: vs).map joined), rest) := by
  induction vs generalizing v acc fuel with
  | nil =>
      obtain ⟨fuel, rfl⟩ := Nat.exists_eq_add_one.2 (Nat.zero_lt_of_lt hfuel)
      simp only [indentedItems, List.length_append, List.length_singleton] at hfuel
      have hv := hback v List.mem_cons_self (level + 1) fuel (indentedItems level [] ++ rest) (by omega)
      have hclose : skip (indentedItems level [] ++ rest) = ']' :: rest := by
        rw [indentedItems, List.append_assoc, List.singleton_append, skip_close level (by decide)]
      rw [readItems_last hv hclose, List.reverse_cons, List.map_singleton]
  | cons w vs ih =>
      obtain ⟨fuel, rfl⟩ := Nat.exists_eq_add_one.2 (Nat.zero_lt_of_lt hfuel)
      simp only [indentedItems, List.length_append, List.length_cons] at hfuel
      have hv := hback v List.mem_cons_self (level + 1) fuel (indentedItems level (w :: vs) ++ rest) (by omega)
      have hnext : skip (indentedItems level (w :: vs) ++ rest) =
          ',' :: (newline (level + 1) ++ (indentedChars (level + 1) w ++ (indentedItems level vs ++ rest))) := by
        rw [indentedItems, List.append_assoc, List.append_assoc, List.cons_append, skip_of_head (by decide)]
      have hlength : (indentedChars (level + 1) w ++ indentedItems level vs).length < fuel := by
        rw [List.length_append]
        omega
      rw [List.forall_mem_cons] at hwritable hback
      rw [readItems_next hv hnext, skip_indented (hwritable.2 w List.mem_cons_self), ih hwritable.2 hback.2 hlength,
        List.reverse_cons, List.append_assoc, List.singleton_append, List.map_cons (a := v)]

/-- A member with a new name goes to the end. -/
theorem put_of_nodup {name : String} {members : List (String × Json)} {names : List String}
    (h : (members.map (·.1) ++ name :: names).Nodup) : Table.put name v members = members ++ [(name, v)] := by
  induction members with
  | nil => rfl
  | cons g members ih =>
      rw [List.map_cons, List.cons_append, List.nodup_cons, List.mem_append, not_or, List.mem_cons, not_or] at h
      rw [Table.put, if_neg h.1.2.1, ih h.2, List.cons_append]

/-- Members are read up to the closing brace, and stay in their order if their names are different. -/
theorem readFields_indented {f : String × Json} {members : List (String × Json)}
    (hnames : (members.map (·.1) ++ f.1 :: fs.map (·.1)).Nodup) (htexts : ∀ g ∈ f :: fs, Text.IsUnicode g.1)
    (hwritable : ∀ g ∈ f :: fs, Writable depth g.2) (hback : ∀ g ∈ f :: fs, ReadsBack depth g.2)
    (hfuel : (quote f.1 ++ ':' :: ' ' :: indentedChars (level + 1) f.2 ++ indentedFields level fs).length < fuel) :
    readFields depth fuel members
        (quote f.1 ++ (':' :: ' ' :: (indentedChars (level + 1) f.2 ++ (indentedFields level fs ++ rest)))) =
      .ok (.object (members ++ (f :: fs).map fun g => (g.1, joined g.2)), rest) := by
  induction fs generalizing f members fuel with
  | nil =>
      obtain ⟨fuel, rfl⟩ := Nat.exists_eq_add_one.2 (Nat.zero_lt_of_lt hfuel)
      simp only [indentedFields, List.length_append, List.length_cons] at hfuel
      rw [List.forall_mem_cons] at htexts hwritable hback
      obtain ⟨r, hquote, hname⟩ := readText_quote f.1
        (':' :: ' ' :: (indentedChars (level + 1) f.2 ++ (indentedFields level [] ++ rest)))
      rw [Text.joined_eq_self_iff.2 htexts.1] at hname
      have hv := hback.1 (level + 1) fuel (indentedFields level [] ++ rest) (by omega)
      have hclose : skip (indentedFields level [] ++ rest) = '\x7d' :: rest := by
        rw [indentedFields, List.append_assoc, List.singleton_append, skip_close level (by decide)]
      rw [hquote, readFields_last hname (by rw [skip_blank, skip_of_writable hwritable.1 (level + 1), hv]) hclose,
        put_of_nodup hnames, List.map_singleton]
  | cons g fs ih =>
      obtain ⟨fuel, rfl⟩ := Nat.exists_eq_add_one.2 (Nat.zero_lt_of_lt hfuel)
      obtain ⟨name, w⟩ := g
      simp only [indentedFields, List.length_append, List.length_cons] at hfuel
      rw [List.forall_mem_cons] at htexts hwritable hback
      obtain ⟨r, hquote, hname⟩ := readText_quote f.1
        (':' :: ' ' :: (indentedChars (level + 1) f.2 ++ (indentedFields level ((name, w) :: fs) ++ rest)))
      rw [Text.joined_eq_self_iff.2 htexts.1] at hname
      have hv := hback.1 (level + 1) fuel (indentedFields level ((name, w) :: fs) ++ rest) (by omega)
      have hnext : skip (indentedFields level ((name, w) :: fs) ++ rest) =
          ',' :: (newline (level + 1) ++ (quote name ++
            (':' :: ' ' :: (indentedChars (level + 1) w ++ (indentedFields level fs ++ rest))))) := by
        simp only [indentedFields, List.append_assoc, List.cons_append, skip_of_head (by decide : isSpace ',' = false)]
      have hlength : (quote name ++ ':' :: ' ' :: indentedChars (level + 1) w ++ indentedFields level fs).length <
          fuel := by
        simp only [List.length_append, List.length_cons]
        omega
      rw [hquote, readFields_next hname (by rw [skip_blank, skip_of_writable hwritable.1 (level + 1), hv]) hnext,
        put_of_nodup hnames, skip_newline, skip_quote]
      rw [List.map_cons] at hnames
      rw [ih (by simpa using hnames) htexts.2 hwritable.2 hback.2 hlength, List.append_assoc, List.singleton_append,
        List.map_cons (a := f)]

/-- An array is read back if its items are. -/
theorem readsBack_list (hwritable : ∀ v ∈ vs, Writable depth v) (hback : ∀ v ∈ vs, ReadsBack depth v) :
    ReadsBack (depth + 1) (.list vs) := by
  intro level fuel rest hfuel
  obtain ⟨fuel, rfl⟩ := Nat.exists_eq_add_one.2 (Nat.zero_lt_of_lt hfuel)
  cases vs with
  | nil => exact readValue_emptyList
  | cons v vs =>
      obtain ⟨c, t, hhead, -, hopen⟩ := (hwritable v List.mem_cons_self).exists_head (level + 1)
      simp only [indentedChars, List.length_append, List.length_cons] at hfuel
      have hlength : (indentedChars (level + 1) v ++ indentedItems level vs).length < fuel := by
        rw [List.length_append]
        omega
      have hskip := skip_indented (hwritable v List.mem_cons_self) (level + 1) (indentedItems level vs ++ rest)
      rw [hhead, List.cons_append] at hskip
      simp only [indentedChars, List.append_assoc, List.cons_append]
      rw [hhead, List.cons_append, readValue_list hskip hopen, ← List.cons_append, ← hhead,
        readItems_indented hwritable hback hlength, joined, joinedItems_eq_map]
      rfl

/-- An object is read back if its values are, and its names can be told apart. -/
theorem readsBack_object (hnames : (fs.map (·.1)).Nodup) (htexts : ∀ f ∈ fs, Text.IsUnicode f.1)
    (hwritable : ∀ f ∈ fs, Writable depth f.2) (hback : ∀ f ∈ fs, ReadsBack depth f.2) :
    ReadsBack (depth + 1) (.object fs) := by
  intro level fuel rest hfuel
  obtain ⟨fuel, rfl⟩ := Nat.exists_eq_add_one.2 (Nat.zero_lt_of_lt hfuel)
  cases fs with
  | nil => exact readValue_emptyObject
  | cons f fs =>
      obtain ⟨name, w⟩ := f
      simp only [indentedChars, List.length_append, List.length_cons] at hfuel
      have hlength : (quote name ++ ':' :: ' ' :: indentedChars (level + 1) w ++ indentedFields level fs).length <
          fuel := by
        simp only [List.length_append, List.length_cons]
        omega
      simp only [indentedChars, List.append_assoc, List.cons_append]
      have hfields : readFields depth fuel [] (quote name ++ (':' :: ' ' :: (indentedChars (level + 1) w ++
          (indentedFields level fs ++ rest)))) = .ok (joined (.object ((name, w) :: fs)), rest) := by
        rw [joined, joinedFields_eq_map]
        exact readFields_indented (f := (name, w)) hnames htexts hwritable hback hlength
      obtain ⟨r, hquote, -⟩ := readText_quote name
        (':' :: ' ' :: (indentedChars (level + 1) w ++ (indentedFields level fs ++ rest)))
      rw [hquote] at hfields
      rw [hquote, readValue_object ((skip_newline _ _).trans (skip_of_head (by decide)))]
      exact hfields

/-- A value that can be written is read back. The induction is on the value: items and members are within it. -/
theorem Writable.readsBack (h : Writable depth v) : ReadsBack depth v := by
  induction h with
  | null =>
      intro level fuel rest hfuel
      obtain ⟨fuel, rfl⟩ := Nat.exists_eq_add_one.2 (Nat.zero_lt_of_lt hfuel)
      simp [indentedChars, readValue, joined]
  | bool b =>
      intro level fuel rest hfuel
      obtain ⟨fuel, rfl⟩ := Nat.exists_eq_add_one.2 (Nat.zero_lt_of_lt hfuel)
      cases b <;> simp [indentedChars, readValue, joined]
  | text s =>
      intro level fuel rest hfuel
      obtain ⟨fuel, rfl⟩ := Nat.exists_eq_add_one.2 (Nat.zero_lt_of_lt hfuel)
      obtain ⟨r, hquote, htext⟩ := readText_quote s rest
      rw [indentedChars, hquote, readValue_text htext, joined]
  | list h ih => exact readsBack_list h ih
  | object hnames htexts h ih => exact readsBack_object hnames htexts h ih

/-- A rendering is read as the value with its texts joined and its members in order. -/
theorem read_render (h : Writable maxDepth v) : read v.render = .ok (sorted (joined v)) := by
  have hsorted := h.sorted
  have hskip := skip_of_writable hsorted 0 []
  have hback := hsorted.readsBack 0 ((indentedChars 0 (sorted v)).length + 1) [] (Nat.lt_succ_self _)
  rw [List.append_nil] at hskip hback
  simp only [read, render, String.toList_ofList, hskip, hback, joined_sorted]
  rfl

end EntityModel.Json
