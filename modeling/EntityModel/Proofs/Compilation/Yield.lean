import EntityModel.Compilation.Draft
import EntityModel.Proofs.Outcome

/-!
# What a step yields

A step of a compilation fails or changes the draft. `Yields` tells both at once: the exact condition under which
the step succeeds from a draft, and what holds of its result and of the draft behind it. The rules follow the
ways in which steps are put together: one after another, and one for each member of a list.
-/

namespace EntityModel.Compilation.Build

variable {α β : Type} {d d' : Draft}

/-- A step succeeds from a draft exactly under a condition, and then leaves what is told. -/
structure Yields (x : Build α) (d : Draft) (C : Prop) (P : α → Draft → Prop) : Prop where
  /-- The condition for success. -/
  ok_iff : (∃ r, x d = .ok r) ↔ C
  /-- What holds behind the step. -/
  post : ∀ {a d'}, x d = .ok (a, d') → P a d'

theorem pure_apply_eq_ok_iff {a : α} {r : α × Draft} : (pure a : Build α) d = .ok r ↔ (a, d) = r :=
  ⟨Except.ok.inj, congrArg Except.ok⟩

theorem get_apply_eq_ok_iff {r : Draft × Draft} : (get : Build Draft) d = .ok r ↔ (d, d) = r :=
  ⟨Except.ok.inj, congrArg Except.ok⟩

theorem bind_apply_eq_ok_iff {x : Build α} {f : α → Build β} {r : β × Draft} :
    (x >>= f) d = .ok r ↔ ∃ a d', x d = .ok (a, d') ∧ f a d' = .ok r := by
  constructor
  · intro h
    obtain ⟨⟨a, d'⟩, hx, hf⟩ := bind_eq_ok_iff.1 h
    exact ⟨a, d', hx, hf⟩
  · rintro ⟨a, d', hx, hf⟩
    exact bind_eq_ok_iff.2 ⟨(a, d'), hx, hf⟩

namespace Yields

variable {x : Build α} {C C' : Prop} {P Q : α → Draft → Prop} {R : β → Draft → Prop}

theorem of_eq_ok {a : α} (h : x d = .ok (a, d')) (hp : P a d') : x.Yields d True P where
  ok_iff := ⟨fun _ => trivial, fun _ => ⟨_, h⟩⟩
  post h' := by
    obtain ⟨rfl, rfl⟩ : a = _ ∧ d' = _ := by simpa [h] using h'
    exact hp

theorem pure {a : α} (hp : P a d) : (Pure.pure a : Build α).Yields d True P := of_eq_ok rfl hp

theorem fail {f : Failure} : (Build.fail f : Build α).Yields d False P where
  ok_iff := by simp [Build.fail]
  post h := by simp [Build.fail] at h

theorem imp (h : x.Yields d C P) (hc : C ↔ C') (hp : ∀ a d', P a d' → Q a d') :
    x.Yields d C' Q where
  ok_iff := h.ok_iff.trans hc
  post hx := hp _ _ (h.post hx)

/-- Behind a step that succeeds its condition holds. -/
theorem and_cond (h : x.Yields d C P) : x.Yields d C fun a d' => C ∧ P a d' where
  ok_iff := h.ok_iff
  post hx := ⟨h.ok_iff.1 ⟨_, hx⟩, h.post hx⟩

theorem bind {f : α → Build β} (h : x.Yields d C P)
    (hf : ∀ a d', P a d' → (f a).Yields d' C' R) : (x >>= f).Yields d (C ∧ C') R where
  ok_iff := by
    constructor
    · rintro ⟨r, hr⟩
      obtain ⟨a, d', hx, hr⟩ := bind_apply_eq_ok_iff.1 hr
      exact ⟨h.ok_iff.1 ⟨_, hx⟩, (hf a d' (h.post hx)).ok_iff.1 ⟨r, hr⟩⟩
    · rintro ⟨hc, hc'⟩
      obtain ⟨⟨a, d'⟩, hx⟩ := h.ok_iff.2 hc
      obtain ⟨r, hr⟩ := (hf a d' (h.post hx)).ok_iff.2 hc'
      exact ⟨r, bind_apply_eq_ok_iff.2 ⟨a, d', hx, hr⟩⟩
  post hr := by
    obtain ⟨a, d', hx, hr⟩ := bind_apply_eq_ok_iff.1 hr
    exact (hf a d' (h.post hx)).post hr

end Yields

/-! ## One step for each member of a list -/

section Lists

variable {I : List α → Draft → Prop} {C : List α → α → Prop} {f : α → Build Unit} {all : List α}

/-- A visit goes on behind a first part of the list; the invariant tells what that part has left. -/
theorem Yields.forM_behind
    (hstep : ∀ pre a post d, all = pre ++ a :: post → I pre d →
      (f a).Yields d (C pre a) fun _ d' => I (pre ++ [a]) d')
    (pre : List α) {as : List α} (hall : all = pre ++ as) (hd : I pre d) :
    (as.forM f).Yields d (∀ mid a post, as = mid ++ a :: post → C (pre ++ mid) a)
      fun _ d' => I all d' := by
  induction as generalizing pre d with
  | nil =>
      rw [List.append_nil] at hall
      subst hall
      have hdone : (List.forM [] f).Yields d True fun _ d' => I all d' := Yields.pure hd
      exact hdone.imp (by simp) fun _ _ h => h
  | cons a as ih =>
      have hrest : ∀ d', I (pre ++ [a]) d' → _ := fun d' hd' => ih (d := d') (pre ++ [a]) (by simp [hall]) hd'
      refine ((hstep pre a as d hall hd).bind fun _ d' hd' => hrest d' hd').imp ?_ fun _ _ h => h
      constructor
      · rintro ⟨hfirst, hothers⟩ (_ | ⟨b, mid⟩) c post h
        · obtain ⟨rfl, rfl⟩ := by simpa using h
          simpa using hfirst
        · obtain ⟨rfl, rfl⟩ := by simpa using h
          simpa using hothers mid c post rfl
      · intro h
        refine ⟨by simpa using h [] a as rfl, fun mid c post hsplit => ?_⟩
        simpa using h (a :: mid) c post (by simp [hsplit])

/-- What each step of a visit keeps holds behind the visit. -/
theorem forM_post
    (hstep : ∀ pre a post d d', all = pre ++ a :: post → I pre d → f a d = .ok ((), d') →
      I (pre ++ [a]) d') (hd : I [] d) (h : all.forM f d = .ok ((), d')) : I all d' := by
  suffices hrest : ∀ (as pre : List α) (d : Draft), all = pre ++ as → I pre d →
      as.forM f d = .ok ((), d') → I all d' from hrest all [] d rfl hd h
  intro as
  induction as with
  | nil =>
      intro pre d hall hd h
      obtain ⟨-, rfl⟩ := Prod.mk.inj (pure_apply_eq_ok_iff.1 h)
      rwa [hall, List.append_nil]
  | cons a as ih =>
      intro pre d hall hd h
      obtain ⟨_, d₁, ha, hrest⟩ := bind_apply_eq_ok_iff.1 h
      exact ih (pre ++ [a]) d₁ (by simp [hall]) (hstep pre a as d d₁ hall hd ha) hrest

/-- A visit succeeds exactly if each step does behind the members before its own. -/
theorem Yields.forM
    (hstep : ∀ pre a post d, all = pre ++ a :: post → I pre d →
      (f a).Yields d (C pre a) fun _ d' => I (pre ++ [a]) d') (hd : I [] d) :
    (all.forM f).Yields d (∀ pre a post, all = pre ++ a :: post → C pre a) fun _ d' => I all d' :=
  (forM_behind hstep [] rfl hd).imp (by simp) fun _ _ h => h

/-- A visit succeeds exactly if each step does, where no step depends on those before. -/
theorem Yields.forM_mem {C : α → Prop}
    (hstep : ∀ pre a d, a ∈ all → I pre d → (f a).Yields d (C a) fun _ d' => I (pre ++ [a]) d')
    (hd : I [] d) : (all.forM f).Yields d (∀ a ∈ all, C a) fun _ d' => I all d' := by
  refine (Yields.forM (C := fun _ => C) (fun pre a post d hall => hstep pre a d (by simp [hall])) hd).imp
    ⟨fun h a ha => ?_, fun h pre a post hall => h a (by simp [hall])⟩ fun _ _ h => h
  obtain ⟨pre, post, hall⟩ := List.append_of_mem ha
  exact h pre a post hall

end Lists

/-- A visit that collects results, where no step depends on those before. -/
theorem Yields.mapM_mem {I : List α → List β → Draft → Prop} {C : α → Prop} {f : α → Build β}
    {all : List α}
    (hstep : ∀ pre bs a d, a ∈ all → I pre bs d →
      (f a).Yields d (C a) fun b d' => I (pre ++ [a]) (bs ++ [b]) d') (hd : I [] [] d) :
    (all.mapM f).Yields d (∀ a ∈ all, C a) fun bs d' => I all bs d' := by
  suffices h : ∀ (as pre : List α) (bs : List β) (d : Draft), all = pre ++ as → I pre bs d →
      (as.mapM f).Yields d (∀ a ∈ as, C a) fun cs d' => I all (bs ++ cs) d' from h all [] [] d rfl hd
  intro as
  induction as with
  | nil =>
      intro pre bs d hall hd
      rw [List.append_nil] at hall
      subst hall
      exact (Yields.pure (P := fun cs d' => I all (bs ++ cs) d') (by simpa using hd)).imp (by simp)
        fun _ _ h => h
  | cons a as ih =>
      intro pre bs d hall hd
      rw [List.mapM_cons]
      refine ((hstep pre bs a d (by simp [hall]) hd).bind fun b d' hd' =>
        (ih (pre ++ [a]) (bs ++ [b]) d' (by simp [hall]) hd').bind fun cs d'' hd'' =>
          Yields.pure (P := fun cs d' => I all (bs ++ cs) d') (by simpa using hd'')).imp ?_
        fun _ _ h => h
      simp

end EntityModel.Compilation.Build
