import EntityModel.Proofs.Alignment
import EntityModel.Proofs.Outcome
import EntityModel.Restriction.Ledger

/-!
# Resolving one entity set

A resolution goes through the terms in order and stops at the first that fails. What it leaves in the ledger is
told by the terms alone: the entries of all of them if none fails (`applyTerms_eq_none_iff`), and otherwise the
entries of those before the one that fails (`applyTerms_eq_some_iff`).

So a failure does not take back what was written before it. What has accumulated is the same before and after a
failing resolution exactly if the term that fails is the first one that the set is annotated with
(`accumulated_of_failed_iff`). A sound restriction in front of a faulty one leaves its entries behind.
-/

namespace EntityModel.Restriction

open CodeModel
open Edm (Graph ContainerMember Annotation Expression)

/-! ## Ledgers -/

/-- Only the empty list of entries adds nothing to any property. -/
theorem Ledger.accumulated_append_eq_iff {l m : Ledger} :
    (∀ q, (l ++ m : Ledger).accumulated q = l.accumulated q) ↔ m = [] := by
  constructor
  · intro h
    cases m with
    | nil => rfl
    | cons e m =>
        have hq := h e.1
        rw [Ledger.accumulated_append, List.append_right_eq_self] at hq
        simp [Ledger.accumulated] at hq
  · rintro rfl q
    rw [List.append_nil]

/-! ## Terms in order -/

section Terms

variable {g : Graph} {s : Store} {p : PropertyId} {t : TypeId} {set : ContainerMember}
variable {term : CapabilityKind × QualifiedName} {terms : Terms} {l l' : Ledger} {f : Failure}

/-- A term makes no entry exactly if the set is not annotated with it: a statement always has an entry for the
set itself. -/
theorem entriesOf_eq_nil_iff :
    entriesOf g s p t set term = .ok [] ↔ g.annotationWith? set.targetPath term.2 = none := by
  unfold entriesOf
  cases g.annotationWith? set.targetPath term.2 with
  | none => simp
  | some a => simp [map_eq_ok_iff, Statement.entries]

/-- If no term fails, the ledger has the entries of all of them behind its own. -/
theorem applyTerms_eq_none_iff :
    applyTerms g s p t set terms l = (l', none) ↔
      ∃ es, List.Forall₂ (fun u e => entriesOf g s p t set u = .ok e) terms es ∧
        l' = l ++ es.flatten := by
  induction terms generalizing l with
  | nil => simp [applyTerms, eq_comm]
  | cons term terms ih =>
      rw [applyTerms]
      cases he : entriesOf g s p t set term with
      | error f => simp [List.forall₂_cons_left_iff, he]
      | ok e => simp [List.forall₂_cons_left_iff, he, ih]

/-- If a term fails, the ledger has the entries of the terms before it, and of no others, behind its own. -/
theorem applyTerms_eq_some_iff :
    applyTerms g s p t set terms l = (l', some f) ↔
      ∃ pre term post es, terms = pre ++ term :: post ∧
        List.Forall₂ (fun u e => entriesOf g s p t set u = .ok e) pre es ∧
        entriesOf g s p t set term = .error f ∧ l' = l ++ es.flatten := by
  induction terms generalizing l with
  | nil => simp [applyTerms]
  | cons first terms ih =>
      rw [applyTerms]
      cases he : entriesOf g s p t set first with
      | error f' =>
          constructor
          · intro h
            obtain ⟨rfl, rfl⟩ : l = l' ∧ f' = f := by simpa using h
            exact ⟨[], first, terms, [], rfl, .nil, he, by simp⟩
          · rintro ⟨_ | ⟨_, pre⟩, term, post, es, hsplit, hpre, hterm, rfl⟩
            · obtain ⟨rfl, rfl⟩ : first = term ∧ terms = post := by simpa using hsplit
              obtain rfl : f' = f := by simpa [he] using hterm
              cases hpre
              simp
            · obtain ⟨rfl, rfl⟩ := by simpa using hsplit
              cases hpre with
              | cons hfirst _ => rw [he] at hfirst; cases hfirst
      | ok e =>
          simp only [ih]
          constructor
          · rintro ⟨pre, term, post, es, rfl, hpre, hterm, rfl⟩
            exact ⟨first :: pre, term, post, e :: es, rfl, .cons he hpre, hterm, by simp⟩
          · rintro ⟨_ | ⟨_, pre⟩, term, post, es, hsplit, hpre, hterm, rfl⟩
            · obtain ⟨rfl, rfl⟩ : first = term ∧ terms = post := by simpa using hsplit
              rw [he] at hterm
              cases hterm
            · obtain ⟨rfl, rfl⟩ := by simpa using hsplit
              cases hpre with
              | cons hfirst hrest =>
                  obtain rfl : e = _ := by simpa [he] using hfirst
                  exact ⟨pre, term, post, _, rfl, hrest, hterm, by simp⟩

/-- Terms make no entries exactly if the set is annotated with none of them. -/
theorem flatten_entriesOf_eq_nil_iff {es : List Ledger}
    (h : List.Forall₂ (fun u e => entriesOf g s p t set u = .ok e) terms es) :
    es.flatten = [] ↔ ∀ u ∈ terms, g.annotationWith? set.targetPath u.2 = none := by
  induction h with
  | nil => simp
  | @cons term e terms es he _ ih =>
      have hfirst : e = [] ↔ g.annotationWith? set.targetPath term.2 = none := by
        rw [← entriesOf_eq_nil_iff (s := s) (p := p) (t := t), he, Except.ok.injEq]
      rw [List.flatten_cons, List.append_eq_nil_iff, hfirst, ih, List.forall_mem_cons]

/-- Behind terms that all make their entries, the first term that fails is the only first one. -/
theorem eq_of_first_failing {pre pre' post post' : Terms} {term' : CapabilityKind × QualifiedName}
    {es : List Ledger} {f' : Failure} (hsplit : pre ++ term :: post = pre' ++ term' :: post')
    (hpre : List.Forall₂ (fun u e => entriesOf g s p t set u = .ok e) pre es)
    (hterm' : entriesOf g s p t set term' = .error f') : ∃ more, pre' = pre ++ more := by
  rw [List.append_eq_append_iff] at hsplit
  rcases hsplit with ⟨more, rfl, -⟩ | ⟨more, rfl, hmore⟩
  · exact ⟨more, rfl⟩
  · cases more with
    | nil => exact ⟨[], by simp⟩
    | cons first more =>
        obtain ⟨rfl, -⟩ : term' = first ∧ _ := by simpa using hmore
        obtain ⟨e, -, he⟩ := Alignment.exists_of_mem_left hpre (a := term') (by simp)
        rw [he] at hterm'
        cases hterm'

end Terms

/-! ## Failing resolutions -/

section Failing

variable {g : Graph} {s : Store} {p : PropertyId} {set : ContainerMember} {terms : Terms}
variable {l l' : Ledger} {f : Failure}

/-- A resolution that fails does so at some term, and leaves the entries of the terms before it. -/
theorem resolveSet_eq_error (h : resolveSet g terms p set l s = (l', .error f)) :
    ∃ x pre term post es, s.property? p = some x ∧ terms = pre ++ term :: post ∧
      List.Forall₂ (fun u e => entriesOf g s p x.type set u = .ok e) pre es ∧
      entriesOf g s p x.type set term = .error f ∧ l' = l ++ es.flatten := by
  unfold resolveSet at h
  cases hx : s.property? p with
  | none => simp [hx] at h
  | some x =>
      simp only [hx] at h
      split at h
      · next l'' f' happly =>
          obtain ⟨rfl, rfl⟩ : l'' = l' ∧ f' = f := by simpa using h
          obtain ⟨pre, term, post, es, hsplit, hpre, hterm, hl⟩ := applyTerms_eq_some_iff.1 happly
          exact ⟨x, pre, term, post, es, rfl, hsplit, hpre, hterm, hl⟩
      · simp at h

/-- A failing resolution leaves what has accumulated exactly if the term that fails is the first one that the
set is annotated with. -/
theorem accumulated_of_failed_iff (h : resolveSet g terms p set l s = (l', .error f)) :
    (∀ q, l'.accumulated q = l.accumulated q) ↔
      ∃ x pre term post, s.property? p = some x ∧ terms = pre ++ term :: post ∧
        (∀ u ∈ pre, g.annotationWith? set.targetPath u.2 = none) ∧
        entriesOf g s p x.type set term = .error f := by
  obtain ⟨x, pre, term, post, es, hx, rfl, hpre, hterm, rfl⟩ := resolveSet_eq_error h
  rw [Ledger.accumulated_append_eq_iff, flatten_entriesOf_eq_nil_iff hpre]
  constructor
  · intro hnone
    exact ⟨x, pre, term, post, hx, rfl, hnone, hterm⟩
  · rintro ⟨x', pre', term', post', hx', hsplit, hnone, hterm'⟩
    obtain rfl : x = x' := by simpa [hx] using hx'
    obtain ⟨more, rfl⟩ := eq_of_first_failing hsplit hpre hterm'
    exact fun u hu => hnone u (List.mem_append_left _ hu)

end Failing

/-! ## A sound restriction in front of a faulty one -/

/-- A store with the class of some items and the property of a set of them. -/
def itemStore : Store :=
  { types := [⟨⟨"NS", "Item"⟩, .structured {}⟩],
    properties := [{ name := "Items", type := ⟨0⟩, collection := true }] }

/-- The set of items. -/
def itemSet : ContainerMember := { name := "Items", type := "NS.Item", container := "NS.Service" }

/-- An annotation with the term of a kind and a value. -/
def restriction (kind : CapabilityKind) (value : Option Expression) : Annotation :=
  { term := termName kind, value }

/-- The graph in which the set of items has some annotations. -/
def itemGraph (annotations : List Annotation) : Graph :=
  { annotations := annotations.map (itemSet.targetPath, ·) }

/-- A record that allows everything. -/
def permissive : Expression :=
  .record none [("Flag", some (.constant (.bool true))), ("Paths", some (.collection []))]

/-- The terms of the installation. -/
def installedTerms : Terms := termsOf Vocabulary.Capabilities.graph

/-- If nothing is written although a resolution fails, the faulty restriction is the first one of the set. -/
theorem accumulated_of_first_faulty :
    let l : Ledger := [(⟨0⟩, ⟨.delete, false⟩)]
    let g := itemGraph [restriction .update none]
    resolveSet g installedTerms ⟨0⟩ itemSet l itemStore =
        (l, .error (.annotationShape (termName .update) .notRecord)) ∧
      ∃ x pre term post, itemStore.property? ⟨0⟩ = some x ∧ installedTerms = pre ++ term :: post ∧
        (∀ u ∈ pre, g.annotationWith? itemSet.targetPath u.2 = none) ∧
        entriesOf g itemStore ⟨0⟩ x.type itemSet term =
          .error (.annotationShape (termName .update) .notRecord) :=
  have failed : resolveSet (itemGraph [restriction .update none]) installedTerms ⟨0⟩ itemSet
      [(⟨0⟩, ⟨.delete, false⟩)] itemStore =
        ([(⟨0⟩, ⟨.delete, false⟩)], .error (.annotationShape (termName .update) .notRecord)) := by rfl
  ⟨failed, (accumulated_of_failed_iff failed).1 fun _ => rfl⟩

/-- The entry of a sound restriction on insertion stays when the restriction on updates behind it fails. -/
theorem accumulated_of_failed_ne :
    let g := itemGraph [restriction .insert (some permissive), restriction .update none]
    ∃ l, resolveSet g installedTerms ⟨0⟩ itemSet [] itemStore =
        (l, .error (.annotationShape (termName .update) .notRecord)) ∧
      l.accumulated ⟨0⟩ = [⟨.insert, true⟩] ∧ Ledger.accumulated [] ⟨0⟩ = [] :=
  ⟨[(⟨0⟩, ⟨.insert, true⟩)], by rfl, by decide, by decide⟩

end EntityModel.Restriction
