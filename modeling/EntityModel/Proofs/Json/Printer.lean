import EntityModel.Json.Printer
import Mathlib.Data.List.Sort
import Mathlib.Data.String.Basic

/-!
# What a rendering keeps

Sorting a value moves the members of its objects and changes nothing else (`sorted_same`), and then they are in the order
of their names (`isSorted_sorted`). Whatever the characters of its texts are, the value is written in characters of ASCII
(`isAscii_render`).
-/

namespace EntityModel

namespace Text

/-- A text of characters of ASCII. -/
def IsAscii (s : List Char) : Prop := ∀ c ∈ s, c.toNat < 0x80

instance : DecidablePred IsAscii := fun s => List.decidableBAll _ s

theorem isAscii_cons {c : Char} {s : List Char} : IsAscii (c :: s) ↔ c.toNat < 0x80 ∧ IsAscii s := List.forall_mem_cons

theorem isAscii_append {s t : List Char} : IsAscii (s ++ t) ↔ IsAscii s ∧ IsAscii t := List.forall_mem_append

theorem isAscii_replicate (n : Nat) {c : Char} (h : c.toNat < 0x80) : IsAscii (List.replicate n c) := by
  intro d hd
  rwa [List.eq_of_mem_replicate hd]

theorem isAscii_digitChar (n : Nat) : n.digitChar.toNat < 0x80 := by
  have hdigit : ∀ d < 16, (Nat.digitChar d).toNat < 0x80 := by decide
  rcases Nat.lt_or_ge n 16 with h | h
  · exact hdigit n h
  · rw [Nat.digitChar_eq_star.2 h]
    decide

/-- The digits of a number, one by one from the end. -/
theorem isAscii_toDigits {b : Nat} (hb : 1 < b) (n : Nat) : IsAscii (Nat.toDigits b n) := by
  induction n using Nat.strongRecOn with
  | ind n ih =>
      rcases Nat.lt_or_ge n b with h | h
      · rw [Nat.toDigits_of_lt_base h]
        exact isAscii_cons.2 ⟨isAscii_digitChar n, nofun⟩
      · rw [Nat.toDigits_of_base_le hb h]
        have hlt : n / b < n := Nat.div_lt_self (by omega) hb
        exact isAscii_append.2 ⟨ih _ hlt, isAscii_cons.2 ⟨isAscii_digitChar _, nofun⟩⟩

end Text

namespace Json

/-! ## Values that differ in the order of members -/

mutual

/-- Two values are the same up to the order of the members of objects. -/
inductive Same : Json → Json → Prop where
  | refl (v : Json) : Same v v
  | list {items items' : List Json} : SameItems items items' → Same (.list items) (.list items')
  | object {fields fields' moved : List (String × Json)} :
      fields.Perm moved → SameFields moved fields' → Same (.object fields) (.object fields')

/-- The items of two arrays are the same up to the order of members within them. -/
inductive SameItems : List Json → List Json → Prop where
  | nil : SameItems [] []
  | cons {v v' : Json} {items items' : List Json} :
      Same v v' → SameItems items items' → SameItems (v :: items) (v' :: items')

/-- The members of two objects have the same names, and values that are the same up to the order of members. -/
inductive SameFields : List (String × Json) → List (String × Json) → Prop where
  | nil : SameFields [] []
  | cons {name : String} {v v' : Json} {fields fields' : List (String × Json)} :
      Same v v' → SameFields fields fields' → SameFields ((name, v) :: fields) ((name, v') :: fields')

end

/-- The members of all objects are in the order of their names. -/
inductive IsSorted : Json → Prop where
  | null : IsSorted .null
  | bool (b : Bool) : IsSorted (.bool b)
  | int (n : Int) : IsSorted (.int n)
  | float (x : Numeral.Binary64) : IsSorted (.float x)
  | text (s : String) : IsSorted (.text s)
  | list {items : List Json} (h : ∀ v ∈ items, IsSorted v) : IsSorted (.list items)
  | object {fields : List (String × Json)} (hnames : (fields.map (·.1)).Pairwise (· ≤ ·))
      (h : ∀ f ∈ fields, IsSorted f.2) : IsSorted (.object fields)

/-! ## Sorting -/

/-- One name does not come behind another one. -/
def NameLE (f g : String × Json) : Prop := f.1 ≤ g.1

instance : DecidableRel NameLE := fun f g => inferInstanceAs (Decidable (f.1 ≤ g.1))

instance : Std.Total NameLE := ⟨fun f g => le_total f.1 g.1⟩

instance : IsTrans (String × Json) NameLE := ⟨fun _ _ _ hfg hgh => le_trans hfg hgh⟩

theorem insertSorted_eq (f : String × Json) (fs : List (String × Json)) :
    insertSorted f fs = fs.orderedInsert NameLE f := by
  induction fs with
  | nil => rfl
  | cons g fs ih =>
      rw [insertSorted, List.orderedInsert_cons, ih]
      by_cases hlt : g.1 < f.1
      · have hle : ¬ NameLE f g := not_le.2 hlt
        rw [if_pos hlt, if_neg hle]
      · have hle : NameLE f g := not_lt.1 hlt
        rw [if_neg hlt, if_pos hle]

theorem sortedItems_eq_map (vs : List Json) : sortedItems vs = vs.map sorted := by
  induction vs with
  | nil => rfl
  | cons v vs ih => rw [sortedItems, ih, List.map_cons]

/-- Sorted members are the members, each sorted inside. -/
theorem sortedFields_perm (fs : List (String × Json)) : (sortedFields fs).Perm (fs.map fun f => (f.1, sorted f.2)) := by
  induction fs with
  | nil => exact .nil
  | cons f fs ih =>
      rw [sortedFields, insertSorted_eq, List.map_cons]
      exact (List.perm_orderedInsert _ _ _).trans (ih.cons _)

theorem pairwise_sortedFields (fs : List (String × Json)) : (sortedFields fs).Pairwise NameLE := by
  induction fs with
  | nil => exact .nil
  | cons f fs ih =>
      rw [sortedFields, insertSorted_eq]
      exact ih.orderedInsert _ _

mutual

/-- Sorting a value changes the order of members only. -/
theorem sorted_same : ∀ v : Json, Same (sorted v) v
  | .null => .refl _
  | .bool _ => .refl _
  | .int _ => .refl _
  | .float _ => .refl _
  | .text _ => .refl _
  | .list vs => by
      rw [sorted, sortedItems_eq_map]
      exact .list (sortedItems_same vs)
  | .object fs => by
      rw [sorted]
      exact .object (sortedFields_perm fs) (sortedFields_same fs)

theorem sortedItems_same : ∀ vs : List Json, SameItems (vs.map sorted) vs
  | [] => .nil
  | v :: vs => .cons (sorted_same v) (sortedItems_same vs)

theorem sortedFields_same : ∀ fs : List (String × Json), SameFields (fs.map fun f => (f.1, sorted f.2)) fs
  | [] => .nil
  | (_, v) :: fs => .cons (sorted_same v) (sortedFields_same fs)

end

mutual

/-- Once a value has been sorted, its members are in order. -/
theorem isSorted_sorted : ∀ v : Json, IsSorted (sorted v)
  | .null => .null
  | .bool b => .bool b
  | .int n => .int n
  | .float x => .float x
  | .text s => .text s
  | .list vs => by
      rw [sorted, sortedItems_eq_map]
      exact .list (List.forall_mem_map.2 (isSorted_items vs))
  | .object fs => by
      rw [sorted]
      refine .object (List.pairwise_map.2 (pairwise_sortedFields fs)) fun f hf => ?_
      obtain ⟨g, hg, rfl⟩ := List.mem_map.1 ((sortedFields_perm fs).mem_iff.1 hf)
      exact isSorted_fields fs g hg

theorem isSorted_items : ∀ vs : List Json, ∀ v ∈ vs, IsSorted (sorted v)
  | [] => nofun
  | v :: vs => List.forall_mem_cons.2 ⟨isSorted_sorted v, isSorted_items vs⟩

theorem isSorted_fields : ∀ fs : List (String × Json), ∀ f ∈ fs, IsSorted (sorted f.2)
  | [] => nofun
  | (_, v) :: fs => List.forall_mem_cons.2 ⟨isSorted_sorted v, isSorted_fields fs⟩

end

/-! ## Members by their names -/

/-- A member that is put in order hides the ones that it would hide at the front. -/
theorem lookup_insertSorted (name : String) (f : String × Json) (fs : List (String × Json)) :
    (insertSorted f fs).lookup name = (f :: fs).lookup name := by
  induction fs with
  | nil => rfl
  | cons g fs ih =>
      rw [insertSorted]
      split
      · next hlt =>
          rw [List.lookup_cons, ih, List.lookup_cons, List.lookup_cons, List.lookup_cons]
          by_cases hf : name = f.1
          · subst hf
            rw [beq_self_eq_true, beq_false_of_ne hlt.ne']
          · rw [beq_false_of_ne hf]
      · rfl

/-- What an object has under a name is sorted, and still has the name. -/
theorem lookup_sortedFields (name : String) (fs : List (String × Json)) :
    (sortedFields fs).lookup name = (fs.lookup name).map sorted := by
  induction fs with
  | nil => rfl
  | cons f fs ih =>
      rw [sortedFields, lookup_insertSorted, List.lookup_cons, List.lookup_cons, ih]
      cases name == f.1 <;> rfl

/-- Two objects that are sorted into one have the same under every name, once that is sorted. -/
theorem lookup_of_sorted_eq {fs fs' : List (String × Json)} (h : sorted (.object fs) = sorted (.object fs'))
    (name : String) : (fs.lookup name).map sorted = (fs'.lookup name).map sorted := by
  rw [sorted, sorted, object.injEq] at h
  rw [← lookup_sortedFields, h, lookup_sortedFields]

/-- Two arrays of written values that are sorted into one have the same items, if no two values are written and sorted
into one. -/
theorem eq_of_sorted_list_eq {α : Type} {f : α → Json} (hf : (fun a => sorted (f a)).Injective) {as bs : List α}
    (h : sorted (.list (as.map f)) = sorted (.list (bs.map f))) : as = bs := by
  rw [sorted, sorted, list.injEq, sortedItems_eq_map, sortedItems_eq_map, List.map_map, List.map_map] at h
  exact List.map_injective_iff.2 hf h

/-! ## Texts and arrays of texts -/

@[simp] theorem sorted_texts (ss : List String) : sorted (texts ss) = texts ss := by
  rw [texts, sorted, sortedItems_eq_map, List.map_map]
  rfl

@[simp] theorem sorted_ofText? (o : Option String) : sorted (ofText? o) = ofText? o := by cases o <;> rfl

theorem texts_injective : Function.Injective texts := fun ss ss' h => by
  rw [texts, texts, list.injEq] at h
  exact List.map_injective_iff.2 (fun _ _ => text.inj) h

theorem ofText?_injective : Function.Injective ofText?
  | none, none, _ => rfl
  | some _, some _, h => congrArg some (text.inj h)

/-! ## Characters -/

open Text (IsAscii isAscii_cons isAscii_append)

theorem isAscii_unitEscape (n : Nat) : IsAscii (unitEscape n) := by
  refine isAscii_cons.2 ⟨by decide, isAscii_cons.2 ⟨by decide, isAscii_append.2 ⟨?_, ?_⟩⟩⟩
  · exact Text.isAscii_replicate _ (by decide)
  · exact Text.isAscii_toDigits (by decide) n

/-- A character that does not stand for itself is written as a letter or in digits. -/
theorem isAscii_escape (n : Nat) : IsAscii (escape n) := by
  unfold escape
  split
  case h_8 =>
    split
    · next hvisible =>
        have hhigh : Char.ofNat n ≤ '~' := (by simpa using hvisible : ' ' ≤ Char.ofNat n ∧ Char.ofNat n ≤ '~').2
        exact isAscii_cons.2 ⟨Nat.lt_of_le_of_lt hhigh (by decide), nofun⟩
    · exact List.forall_mem_flatMap.2 fun m _ => isAscii_unitEscape m
  all_goals decide

theorem isAscii_quote (s : String) : IsAscii (quote s) :=
  isAscii_cons.2 ⟨by decide, isAscii_append.2 ⟨List.forall_mem_flatMap.2 fun n _ => isAscii_escape n, by decide⟩⟩

theorem isAscii_ofNat (n : Nat) : IsAscii (toString n).toList := by
  rw [Nat.toString_eq_repr, Nat.toList_repr]
  exact Text.isAscii_toDigits (by decide) n

theorem isAscii_ofInt : ∀ n : Int, IsAscii (toString n).toList
  | .ofNat n => isAscii_ofNat n
  | .negSucc n => by
      change IsAscii ("-" ++ toString (n + 1)).toList
      rw [String.toList_append]
      exact isAscii_append.2 ⟨by decide, isAscii_ofNat (n + 1)⟩

/-- The whole part and the fraction of a float are among its digits. -/
theorem isAscii_exactDecimal (x : Numeral.Binary64) : IsAscii (exactDecimal x) := by
  unfold exactDecimal
  rcases x.steps with ⟨n, q⟩
  dsimp -zeta only
  extract_lets places digits padded whole fraction
  have hpadded : IsAscii padded := isAscii_append.2 ⟨Text.isAscii_replicate _ (by decide), isAscii_ofNat _⟩
  have hwhole : IsAscii whole := fun c hc => hpadded c (List.mem_of_mem_take hc)
  have hfraction : IsAscii fraction := fun c hc =>
    hpadded c (List.mem_of_mem_drop (List.mem_reverse.1 ((List.dropWhile_sublist _).mem (List.mem_reverse.1 hc))))
  refine isAscii_append.2 ⟨isAscii_append.2 ⟨?_, hwhole⟩, isAscii_cons.2 ⟨by decide, ?_⟩⟩
  · split <;> decide
  · split
    · decide
    · exact hfraction

theorem isAscii_floatText (x : Numeral.Binary64) : IsAscii (floatText x) := by
  unfold floatText
  split
  · decide
  · split
    · split <;> decide
    · exact isAscii_exactDecimal x

theorem isAscii_newline (level : Nat) : IsAscii (newline level) :=
  isAscii_cons.2 ⟨by decide, Text.isAscii_replicate _ (by decide)⟩

mutual

/-- A value is written in characters of ASCII at every level of indentation. -/
theorem isAscii_indentedChars (level : Nat) : ∀ v : Json, IsAscii (indentedChars level v)
  | .null => (by decide : IsAscii "null".toList)
  | .bool true => (by decide : IsAscii "true".toList)
  | .bool false => (by decide : IsAscii "false".toList)
  | .int n => isAscii_ofInt n
  | .float x => isAscii_floatText x
  | .text s => isAscii_quote s
  | .list [] => (by decide : IsAscii ['[', ']'])
  | .list (v :: vs) => by
      rw [indentedChars]
      simp only [isAscii_append, isAscii_cons]
      exact ⟨⟨⟨by decide, isAscii_newline _⟩, isAscii_indentedChars _ v⟩, isAscii_indentedItems level vs⟩
  | .object [] => (by decide : IsAscii ['\x7b', '\x7d'])
  | .object ((n, v) :: fs) => by
      rw [indentedChars]
      simp only [isAscii_append, isAscii_cons]
      exact ⟨⟨⟨⟨by decide, isAscii_newline _⟩, isAscii_quote n⟩, by decide, by decide, isAscii_indentedChars _ v⟩,
        isAscii_indentedFields level fs⟩

theorem isAscii_indentedItems (level : Nat) : ∀ vs : List Json, IsAscii (indentedItems level vs)
  | [] => isAscii_append.2 ⟨isAscii_newline level, by decide⟩
  | v :: vs => by
      rw [indentedItems]
      simp only [isAscii_append, isAscii_cons]
      exact ⟨⟨⟨by decide, isAscii_newline _⟩, isAscii_indentedChars _ v⟩, isAscii_indentedItems level vs⟩

theorem isAscii_indentedFields (level : Nat) : ∀ fs : List (String × Json), IsAscii (indentedFields level fs)
  | [] => isAscii_append.2 ⟨isAscii_newline level, by decide⟩
  | (n, v) :: fs => by
      rw [indentedFields]
      simp only [isAscii_append, isAscii_cons]
      exact ⟨⟨⟨⟨by decide, isAscii_newline _⟩, isAscii_quote n⟩, by decide, by decide, isAscii_indentedChars _ v⟩,
        isAscii_indentedFields level fs⟩

end

/-- A rendering has characters of ASCII only, whatever the texts in the value are. -/
theorem isAscii_render (v : Json) : IsAscii v.render.toList := by
  rw [render, String.toList_ofList]
  exact isAscii_indentedChars 0 (sorted v)

end Json

end EntityModel
