import EntityModel.Csdl.Alias
import Mathlib.Data.List.DropRight

/-!
# What aliases do to references

Only the first segment of a reference is looked at. So a name behind a space, which may be an alias or a namespace,
stays behind what the space stands for (`expand_append`), and a namespace stands for itself exactly if its own first
segment is no alias, or an alias of itself (`standsFor_eq_self_iff`). Two spellings of a reference, one with an alias
and one with its namespace, are expanded alike if the two stand for the same (`qualify_eq_of_respells`).
-/

namespace EntityModel

/-! ## Cuts and blanks -/

namespace Text

section Cuts

variable {sep : Char} {s t a b : List Char}

theorem cutFirst_append_of_none (h : cutFirst sep s = none) : cutFirst sep (s ++ sep :: t) = some (s, t) := by
  induction s with
  | nil => simp [cutFirst]
  | cons c cs ih =>
      unfold cutFirst at h
      split at h
      · cases h
      · next hc =>
          rw [Option.map_eq_none_iff] at h
          simp [cutFirst, hc, ih h]

theorem cutFirst_append_of_some (h : cutFirst sep s = some (a, b)) : cutFirst sep (s ++ t) = some (a, b ++ t) := by
  induction s generalizing a b with
  | nil => cases h
  | cons c cs ih =>
      unfold cutFirst at h
      split at h
      · next hc =>
          obtain ⟨rfl, rfl⟩ := Prod.mk.inj (Option.some.inj h)
          simp [cutFirst, hc]
      · next hc =>
          obtain ⟨p, hp, he⟩ := Option.map_eq_some_iff.1 h
          obtain ⟨rfl, rfl⟩ := Prod.mk.inj he
          simp [cutFirst, hc, ih hp]

theorem cutFirst_eq_none_iff : cutFirst sep s = none ↔ sep ∉ s := by
  induction s with
  | nil => simp [cutFirst]
  | cons c cs ih =>
      unfold cutFirst
      by_cases hc : c = sep
      · simp [hc]
      · simp [hc, ih, Ne.symm hc]

end Cuts

section Blanks

/-- A text does not begin with a blank. -/
def BeginsPlain (s : String) : Prop := ∀ c ∈ s.toList.head?, isBlank c = false

instance : DecidablePred BeginsPlain := fun _ => inferInstanceAs (Decidable (∀ c ∈ _, _))

/-- What is left of a text without the blanks around it does not begin with a blank. -/
theorem beginsPlain_trim (s : String) : BeginsPlain (trim s) := by
  intro c hc
  rw [trim, String.toList_ofList] at hc
  obtain ⟨more, hmore⟩ : trimWhile isBlank s.toList <+: s.toList.dropWhile isBlank := List.rdropWhile_prefix isBlank _
  obtain ⟨cs, hcs⟩ := List.head?_eq_some_iff.1 hc
  have hfirst := List.head?_dropWhile_not isBlank s.toList
  rw [← hmore, hcs] at hfirst
  simpa using hfirst

/-- A text that neither begins nor ends with a blank is left as it is. -/
theorem trim_eq_self {s : String} (hbegin : BeginsPlain s) (hend : ∀ c ∈ s.toList.getLast?, isBlank c = false) :
    trim s = s := by
  have hdrop : ∀ l : List Char, (∀ c ∈ l.head?, isBlank c = false) → l.dropWhile isBlank = l := by
    intro l hl
    cases l with
    | nil => rfl
    | cons c cs => exact List.dropWhile_cons_of_neg (by simp [hl c rfl])
  rw [trim, trimWhile, hdrop _ hbegin, hdrop _ (by rwa [List.head?_reverse]), List.reverse_reverse, String.ofList_toList]

end Blanks

end Text

/-! ## References -/

namespace Csdl

open Text (BeginsPlain)

/-- A reference names something in a space, which is an alias or a namespace. -/
def Spells (space name : String) (collection : Bool) (v : String) : Prop :=
  TypeReference.ofText v = ⟨space ++ "." ++ name, collection⟩

instance {space name v : String} {collection : Bool} : Decidable (Spells space name collection v) :=
  inferInstanceAs (Decidable (_ = _))

section Spellings

variable {space name v : String} {collection : Bool}

theorem toList_dotted (space name : String) : (space ++ "." ++ name).toList = space.toList ++ '.' :: name.toList := by
  simp

/-- A space that is named does not begin with a blank. -/
theorem Spells.beginsPlain (h : Spells space name collection v) : BeginsPlain space := by
  have helement : BeginsPlain (TypeReference.ofText v).element := by
    unfold TypeReference.ofText
    dsimp only
    split
    · exact Text.beginsPlain_trim _
    · exact Text.beginsPlain_trim _
  rw [h] at helement
  intro c hc
  refine helement c ?_
  obtain ⟨cs, hcs⟩ := List.head?_eq_some_iff.1 hc
  simp [hcs]

theorem Spells.ne_empty (h : Spells space name collection v) : v ≠ "" := by
  rintro rfl
  have helement : (TypeReference.ofText "").element = space ++ "." ++ name := congrArg TypeReference.element h
  have hempty : (TypeReference.ofText "").element = "" := by decide
  rw [hempty, ← String.toList_inj, toList_dotted] at helement
  simp at helement

/-- A name in a space that does not begin with a blank can be written. -/
theorem spells_of_beginsPlain (h : BeginsPlain space) : Spells space "T" false (space ++ ".T") := by
  -- The text ends with `T`, so no blank is trimmed behind it and no bracket closes a collection.
  have hlist : (space ++ ".T").toList = space.toList ++ ['.', 'T'] := by simp
  have hbegin : BeginsPlain (space ++ ".T") := by
    intro c hc
    rw [hlist] at hc
    cases hspace : space.toList with
    | nil =>
        rw [hspace] at hc
        obtain rfl : '.' = c := by simpa using hc
        decide
    | cons c' cs =>
        rw [hspace] at hc
        exact h c (by rw [hspace]; simpa using hc)
  have htrim : Text.trim (space ++ ".T") = space ++ ".T" := by
    refine Text.trim_eq_self hbegin fun c hc => ?_
    rw [hlist] at hc
    obtain rfl : 'T' = c := by simpa using hc
    decide
  have hinner : TypeReference.inner? (space ++ ".T").toList = none := by
    rw [TypeReference.inner?, hlist]
    simp
  rw [Spells, TypeReference.ofText, htrim, hinner]
  simp [String.append_assoc]

/-- Blanks around a name and around a collection do not matter. -/
example : Spells "A.B" "T" true " Collection( A.B.T ) " := by decide

end Spellings

namespace Aliases

/-- What a space in front of a name stands for. -/
def standsFor (aliases : Aliases) (space : String) : String :=
  match Text.cutFirst '.' space.toList with
  | none => (aliases.space? space).getD space
  | some _ => aliases.expand space

/-- The first segment of a space. -/
def firstSegment (space : String) : String :=
  match Text.cutFirst '.' space.toList with
  | none => space
  | some (first, _) => String.ofList first

/-- The aliases leave a space alone: its first segment is no alias, or an alias of itself. -/
def Spares (aliases : Aliases) (space : String) : Prop :=
  ∀ target ∈ aliases.space? (firstSegment space), target = firstSegment space

instance (aliases : Aliases) : DecidablePred aliases.Spares := fun _ => inferInstanceAs (Decidable (∀ target ∈ _, _))

/-- Two references say the same, one with an alias where the other has its namespace. -/
def Respells (aliases : Aliases) (v v' : String) : Prop :=
  ∃ p ∈ aliases, ∃ name collection,
    (Spells p.1 name collection v ∧ Spells p.2 name collection v') ∨
      (Spells p.2 name collection v ∧ Spells p.1 name collection v')

/-- Two targets say the same behind the first slash, and in front of it they are references that say the same. -/
def RespellsTarget (aliases : Aliases) (v v' : String) : Prop :=
  ∃ head head' tail, '/' ∉ head.toList ∧ '/' ∉ head'.toList ∧ (∀ c ∈ tail.toList.head?, c = '/') ∧
    v = head ++ tail ∧ v' = head' ++ tail ∧ aliases.Respells head head'

/-- An alias stands for the same as its namespace. Only what can be written in a reference matters. -/
def Faithful (aliases : Aliases) : Prop :=
  ∀ p ∈ aliases, BeginsPlain p.1 → BeginsPlain p.2 → aliases.standsFor p.1 = aliases.standsFor p.2

section Expansion

variable {aliases : Aliases} {space name v v' : String} {collection : Bool}

/-- A name stays behind what its space stands for. -/
theorem expand_append : aliases.expand (space ++ "." ++ name) = aliases.standsFor space ++ "." ++ name := by
  rw [expand, toList_dotted, standsFor]
  cases hcut : Text.cutFirst '.' space.toList with
  | none =>
      rw [Text.cutFirst_append_of_none hcut]
      dsimp only
      rw [String.ofList_toList]
      cases aliases.space? space <;> simp
  | some p =>
      obtain ⟨first, rest⟩ := p
      rw [Text.cutFirst_append_of_some hcut]
      dsimp only
      rw [expand, hcut]
      dsimp only
      cases aliases.space? (String.ofList first) with
      | none => rfl
      | some target =>
          rw [← String.toList_inj]
          simp

/-- A reference is expanded by what its space stands for. -/
theorem qualify_of_spells (h : Spells space name collection v) :
    aliases.qualify v = TypeReference.text ⟨aliases.standsFor space ++ "." ++ name, collection⟩ := by
  rw [qualify, h]
  dsimp only
  rw [expand_append]

/-- A space stands for itself exactly if it is left alone. -/
theorem standsFor_eq_self_iff : aliases.standsFor space = space ↔ aliases.Spares space := by
  rw [standsFor, Spares, firstSegment]
  cases hcut : Text.cutFirst '.' space.toList with
  | none => cases aliases.space? space <;> simp
  | some p =>
      obtain ⟨first, rest⟩ := p
      dsimp only
      rw [expand, hcut]
      dsimp only
      cases aliases.space? (String.ofList first) with
      | none => simp
      | some target =>
          have hspace : space = String.ofList first ++ "." ++ String.ofList rest := by
            rw [← String.toList_inj, ← Text.append_of_cutFirst hcut]
            simp
          simp only [Option.mem_def, Option.some.injEq, forall_eq']
          conv_lhs => rw [hspace]
          rw [String.append_left_inj, String.append_left_inj]

/-- Where each alias is declared for one namespace and has no dot, it stands for that namespace, so the namespace must
stand for itself. -/
theorem faithful_iff (hfunctional : ∀ p ∈ aliases, ∀ q ∈ aliases, p.1 = q.1 → p.2 = q.2)
    (hplain : ∀ p ∈ aliases, '.' ∉ p.1.toList) :
    aliases.Faithful ↔ ∀ p ∈ aliases, BeginsPlain p.1 → BeginsPlain p.2 → aliases.Spares p.2 := by
  have halias : ∀ p ∈ aliases, aliases.standsFor p.1 = p.2 := by
    intro p hp
    have hfound : aliases.space? p.1 = some p.2 := by
      cases hlookup : aliases.space? p.1 with
      | none => simpa using List.lookup_eq_none_iff.1 hlookup p (List.mem_reverse.2 hp)
      | some target =>
          obtain ⟨before, behind, hsplit, -⟩ := List.lookup_eq_some_iff.1 hlookup
          have hmem : (p.1, target) ∈ aliases := List.mem_reverse.1 (by simp [hsplit])
          rw [hfunctional p hp _ hmem rfl]
    rw [standsFor, Text.cutFirst_eq_none_iff.2 (hplain p hp), hfound]
    rfl
  refine forall_congr' fun p => forall_congr' fun hp => ?_
  rw [halias p hp, ← standsFor_eq_self_iff]
  exact imp_congr_right fun _ => imp_congr_right fun _ => eq_comm

/-- References that say the same are expanded alike, and none of them is empty. -/
theorem qualify_eq_of_respells (hfaithful : aliases.Faithful) (h : aliases.Respells v v') :
    aliases.qualify v' = aliases.qualify v ∧ v ≠ "" ∧ v' ≠ "" := by
  obtain ⟨p, hp, name, collection, ⟨hv, hv'⟩ | ⟨hv, hv'⟩⟩ := h
  · have hsame := hfaithful p hp hv.beginsPlain hv'.beginsPlain
    exact ⟨by rw [qualify_of_spells hv, qualify_of_spells hv', hsame], hv.ne_empty, hv'.ne_empty⟩
  · have hsame := hfaithful p hp hv'.beginsPlain hv.beginsPlain
    exact ⟨by rw [qualify_of_spells hv, qualify_of_spells hv', hsame], hv.ne_empty, hv'.ne_empty⟩

theorem qualifyTarget_append {head tail : String} (hhead : '/' ∉ head.toList) (htail : ∀ c ∈ tail.toList.head?, c = '/') :
    aliases.qualifyTarget (head ++ tail) = aliases.qualify head ++ tail := by
  have hcut := Text.cutFirst_eq_none_iff.2 hhead
  rw [qualifyTarget, String.toList_append]
  cases hlist : tail.toList with
  | nil =>
      obtain rfl : tail = "" := String.toList_eq_nil_iff.1 hlist
      rw [List.append_nil, hcut]
      simp
  | cons c cs =>
      obtain rfl : c = '/' := htail c (by rw [hlist]; rfl)
      rw [Text.cutFirst_append_of_none hcut]
      dsimp only
      rw [String.ofList_toList, ← String.toList_inj]
      simp [hlist]

/-- Targets that say the same are expanded alike, and none of them is empty. -/
theorem qualifyTarget_eq_of_respells (hfaithful : aliases.Faithful) (h : aliases.RespellsTarget v v') :
    aliases.qualifyTarget v' = aliases.qualifyTarget v ∧ v ≠ "" ∧ v' ≠ "" := by
  obtain ⟨head, head', tail, hhead, hhead', htail, rfl, rfl, hrespells⟩ := h
  obtain ⟨hsame, hne, hne'⟩ := qualify_eq_of_respells hfaithful hrespells
  refine ⟨by rw [qualifyTarget_append hhead htail, qualifyTarget_append hhead' htail, hsame], ?_, ?_⟩
  · simp [hne]
  · simp [hne']

/-- A reference to a name in a space says what is written, whatever the name, exactly if the space is left alone. -/
theorem forall_qualify_eq_iff :
    (∀ name collection v, Spells space name collection v →
        aliases.qualify v = TypeReference.text ⟨space ++ "." ++ name, collection⟩) ↔
      (BeginsPlain space → aliases.Spares space) := by
  rw [← standsFor_eq_self_iff]
  constructor
  · intro h hplain
    have hspells := spells_of_beginsPlain hplain
    have hsame := (qualify_of_spells hspells).symm.trans (h "T" false _ hspells)
    simpa [TypeReference.text] using hsame
  · intro h name collection v hv
    rw [qualify_of_spells hv, h hv.beginsPlain]

end Expansion

end Aliases

end Csdl

end EntityModel
