import Mathlib.Data.List.Forall2

/-!
# Lists side by side

What a compilation makes stands in the order of what it is made from, so most statements about it go member by
member over two lists, with `List.Forall₂`. These lemmas find the partner of a member. Two values that may be
missing stand side by side with `Option.Rel`.
-/

namespace EntityModel.Alignment

variable {α β γ : Type} {R : α → β → Prop}

/-- A member of the first list has a partner in the second. -/
theorem exists_of_mem_left {as : List α} {bs : List β} (h : List.Forall₂ R as bs) {a : α}
    (ha : a ∈ as) : ∃ b ∈ bs, R a b := by
  induction h with
  | nil => cases ha
  | cons hr _ ih =>
      rcases List.mem_cons.1 ha with rfl | ha
      · exact ⟨_, List.mem_cons_self .., hr⟩
      · obtain ⟨b, hb, hab⟩ := ih ha
        exact ⟨b, List.mem_cons_of_mem _ hb, hab⟩

/-- A member of the second list has a partner in the first. -/
theorem exists_of_mem_right {as : List α} {bs : List β} (h : List.Forall₂ R as bs) {b : β}
    (hb : b ∈ bs) : ∃ a ∈ as, R a b := exists_of_mem_left h.flip hb

/-- A relation may be replaced by one that holds of the members. -/
theorem imp_of_mem {S : α → β → Prop} {as : List α} {bs : List β} (h : List.Forall₂ R as bs)
    (himp : ∀ a b, a ∈ as → R a b → S a b) : List.Forall₂ S as bs := by
  induction h with
  | nil => exact .nil
  | cons hr _ ih =>
      exact .cons (himp _ _ (List.mem_cons_self ..) hr)
        (ih fun a b ha => himp a b (List.mem_cons_of_mem _ ha))

theorem and_mem_right {as : List α} {bs : List β} (h : List.Forall₂ R as bs) :
    List.Forall₂ (fun a b => b ∈ bs ∧ R a b) as bs :=
  (imp_of_mem h.flip fun _ _ hb hr => ⟨hb, hr⟩).flip

/-- Where the first list is cut, the second can be cut as well. -/
theorem exists_append {as as' : List α} {bs : List β} (h : List.Forall₂ R (as ++ as') bs) :
    ∃ bs₁ bs₂, bs = bs₁ ++ bs₂ ∧ List.Forall₂ R as bs₁ ∧ List.Forall₂ R as' bs₂ :=
  ⟨bs.take as.length, bs.drop as.length, (List.take_append_drop ..).symm,
    (List.forall₂_take_append bs as as' h.flip).flip, (List.forall₂_drop_append bs as as' h.flip).flip⟩

/-- Two alignments with a list in the middle align the outer ones. -/
theorem comp {S : β → γ → Prop} {as : List α} {bs : List β} {cs : List γ} (h : List.Forall₂ R as bs)
    (h' : List.Forall₂ S bs cs) : List.Forall₂ (fun a c => ∃ b, R a b ∧ S b c) as cs := by
  induction h generalizing cs with
  | nil =>
      cases h'
      exact .nil
  | cons hr _ ih =>
      cases h' with
      | cons hs hrest => exact .cons ⟨_, hr, hs⟩ (ih hrest)

/-- What is found in both lists by the same test is related. -/
theorem find?_rel {p : α → Bool} {p' : β → Bool} {as : List α} {bs : List β} (h : List.Forall₂ R as bs)
    (hp : ∀ a b, R a b → p' b = p a) : Option.Rel R (as.find? p) (bs.find? p') := by
  induction h with
  | nil => exact .none
  | @cons a b as bs hr _ ih =>
      rw [List.find?_cons, List.find?_cons, hp a b hr]
      split
      · exact .some hr
      · exact ih

/-- Where no member of the first list comes twice, each has one partner. -/
theorem eq_of_mem_zip {f : α → γ} {as : List α} {bs : List β} (h : (as.map f).Nodup) {a a' : α} {b b' : β}
    (hb : (a, b) ∈ as.zip bs) (hb' : (a', b') ∈ as.zip bs) (hf : f a = f a') : b = b' := by
  induction as generalizing bs with
  | nil => simp at hb
  | cons c as ih =>
      cases bs with
      | nil => simp at hb
      | cons e bs =>
          rw [List.map_cons, List.nodup_cons] at h
          rw [List.zip_cons_cons, List.mem_cons, Prod.mk.injEq] at hb hb'
          rcases hb with ⟨rfl, rfl⟩ | hb
          · rcases hb' with ⟨-, rfl⟩ | hb'
            · rfl
            · exact absurd (hf ▸ List.mem_map_of_mem (List.of_mem_zip hb').1) h.1
          · rcases hb' with ⟨rfl, rfl⟩ | hb'
            · exact absurd (hf ▸ List.mem_map_of_mem (List.of_mem_zip hb).1) h.1
            · exact ih h.2 hb hb'

/-- What stands beside a member of the first list stands beside its partner in the second. -/
theorem exists_of_mem_zip {as : List α} {bs : List β} {cs : List γ} (h : List.Forall₂ R as bs) {a : α} {c : γ}
    (hac : (a, c) ∈ as.zip cs) : ∃ b, R a b ∧ (b, c) ∈ bs.zip cs := by
  induction h generalizing cs with
  | nil => simp at hac
  | @cons a' b as bs hr _ ih =>
      cases cs with
      | nil => simp at hac
      | cons c' cs =>
          rw [List.zip_cons_cons, List.mem_cons, Prod.mk.injEq] at hac
          rcases hac with ⟨rfl, rfl⟩ | hac
          · exact ⟨b, hr, List.mem_cons_self⟩
          · obtain ⟨b', hb', hmem⟩ := ih hac
            exact ⟨b', hb', List.mem_cons_of_mem _ hmem⟩

/-- If each pair has a third partner, there is a list of these. -/
theorem exists_partners {S : α → γ → Prop} {Q : β → γ → Prop} {as : List α} {bs : List β}
    (h : List.Forall₂ R as bs) (hr : ∀ a b, R a b → ∃ c, S a c ∧ Q b c) :
    ∃ cs, List.Forall₂ S as cs ∧ List.Forall₂ Q bs cs := by
  induction h with
  | nil => exact ⟨[], .nil, .nil⟩
  | cons hab _ ih =>
      obtain ⟨c, hs, hq⟩ := hr _ _ hab
      obtain ⟨cs, hss, hqs⟩ := ih
      exact ⟨c :: cs, .cons hs hss, .cons hq hqs⟩

/-! ## Images -/

section Images

variable {δ : Type} {as : List α} {bs : List β}

theorem map_eq {f : α → γ} {g : β → γ} (h : List.Forall₂ R as bs) (hf : ∀ a b, R a b → g b = f a) :
    bs.map g = as.map f := by
  induction h with
  | nil => rfl
  | cons hr _ ih => rw [List.map_cons, List.map_cons, hf _ _ hr, ih]

theorem filterMap_eq {f : α → Option γ} {g : β → Option γ} (h : List.Forall₂ R as bs)
    (hf : ∀ a b, R a b → g b = f a) : bs.filterMap g = as.filterMap f := by
  induction h with
  | nil => rfl
  | cons hr _ ih => rw [List.filterMap_cons, List.filterMap_cons, hf _ _ hr, ih]

/-- The members that pass a test stand beside what is taken from their partners, if nothing is taken from the others. -/
theorem filter_filterMap_rel {S : α → γ → Prop} {p : α → Bool} {f : β → Option γ} (h : List.Forall₂ R as bs)
    (hpass : ∀ a b, R a b → p a = true → ∃ c, f b = some c ∧ S a c)
    (hfail : ∀ a b, R a b → p a = false → f b = none) : List.Forall₂ S (as.filter p) (bs.filterMap f) := by
  induction h with
  | nil => exact .nil
  | @cons a b as bs hr _ ih =>
      cases hp : p a with
      | true =>
          obtain ⟨c, hc, hs⟩ := hpass a b hr hp
          rw [List.filter_cons_of_pos hp, List.filterMap_cons_some hc]
          exact .cons hs ih
      | false =>
          rw [List.filter_cons_of_neg (by simp [hp]), List.filterMap_cons_none (hfail a b hr hp)]
          exact ih

theorem findSome?_eq {f : α → Option γ} {g : β → Option γ} (h : List.Forall₂ R as bs)
    (hf : ∀ a b, R a b → g b = f a) : bs.findSome? g = as.findSome? f := by
  induction h with
  | nil => rfl
  | cons hr _ ih => rw [List.findSome?_cons, List.findSome?_cons, hf _ _ hr, ih]

theorem flatMap_eq {f : α → List γ} {g : β → List γ} (h : List.Forall₂ R as bs)
    (hf : ∀ a b, R a b → g b = f a) : bs.flatMap g = as.flatMap f := by
  induction h with
  | nil => rfl
  | cons hr _ ih => rw [List.flatMap_cons, List.flatMap_cons, hf _ _ hr, ih]

/-- Visits of both lists that do the same at partners do the same. -/
theorem mapM_eq {m : Type → Type} [Monad m] [LawfulMonad m] {f : α → m γ} {g : β → m γ} (h : List.Forall₂ R as bs)
    (hf : ∀ a b, R a b → g b = f a) : bs.mapM g = as.mapM f := by
  induction h with
  | nil => rfl
  | cons hr _ ih => rw [List.mapM_cons, List.mapM_cons, hf _ _ hr, ih]

theorem forM_eq {m : Type → Type} [Monad m] {f : α → m PUnit} {g : β → m PUnit} (h : List.Forall₂ R as bs)
    (hf : ∀ a b, R a b → g b = f a) : bs.forM g = as.forM f := by
  induction h with
  | nil => rfl
  | @cons a b as bs hr _ ih =>
      change (g b >>= fun _ => bs.forM g) = (f a >>= fun _ => as.forM f)
      rw [hf _ _ hr, ih]

theorem flatMap_perm {f : α → List γ} {g : β → List γ} (h : List.Forall₂ R as bs)
    (hf : ∀ a b, R a b → (f a).Perm (g b)) : (as.flatMap f).Perm (bs.flatMap g) := by
  induction h with
  | nil => exact .refl _
  | cons hr _ ih =>
      rw [List.flatMap_cons, List.flatMap_cons]
      exact (hf _ _ hr).append ih

theorem flatMap_rel {S : γ → δ → Prop} {f : α → List γ} {g : β → List δ} (h : List.Forall₂ R as bs)
    (hf : ∀ a b, R a b → List.Forall₂ S (f a) (g b)) : List.Forall₂ S (as.flatMap f) (bs.flatMap g) := by
  induction h with
  | nil => exact .nil
  | cons hr _ ih =>
      rw [List.flatMap_cons, List.flatMap_cons]
      exact List.rel_append (hf _ _ hr) ih

theorem findSome?_rel {S : γ → δ → Prop} {f : α → Option γ} {g : β → Option δ} (h : List.Forall₂ R as bs)
    (hf : ∀ a b, R a b → Option.Rel S (f a) (g b)) : Option.Rel S (as.findSome? f) (bs.findSome? g) := by
  induction h with
  | nil => exact .none
  | @cons a b as bs hr _ ih =>
      have hfirst := hf a b hr
      rw [List.findSome?_cons, List.findSome?_cons]
      generalize f a = o, g b = o' at hfirst ⊢
      cases hfirst with
      | none => exact ih
      | some hs => exact .some hs

end Images

/-! ## Values that may be missing -/

variable {S : α → β → Prop} {o : Option α} {o' : Option β}

theorem option_imp (h : Option.Rel R o o') (himp : ∀ a b, R a b → S a b) : Option.Rel S o o' := by
  cases h with
  | none => exact .none
  | some h => exact .some (himp _ _ h)

theorem exists_of_some_left {a : α} (h : Option.Rel R (some a) o') : ∃ b, o' = some b ∧ R a b := by
  cases h with
  | some h => exact ⟨_, rfl, h⟩

theorem exists_of_some_right {b : β} (h : Option.Rel R o (some b)) : ∃ a, o = some a ∧ R a b := by
  cases h with
  | some h => exact ⟨_, rfl, h⟩

theorem eq_none_iff (h : Option.Rel R o o') : o = none ↔ o' = none := by
  cases h with
  | none => simp
  | some _ => simp

end EntityModel.Alignment
