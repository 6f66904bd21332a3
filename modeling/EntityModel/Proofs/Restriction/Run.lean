import EntityModel.Proofs.Restriction.Assembly
import EntityModel.Proofs.Restriction.Terms

/-!
# Runs of a reader

A reader lives as long as its graph, and between two of its calls annotations may be added. What a call writes
depends on the graph of that moment. It does not depend on what earlier calls have written or projected, since
projections do not matter to any path (`Event.statements_materialize`). So what has accumulated for a property is told
by the calls alone, whether they succeeded or failed: the shares that the statements of each call give it, one behind
the other.

The store behind a run is the one before it with the projections of a first part of the ledger: the part that was
there when a call last succeeded (`IsProjectionOf`). From there one reads off what a further call leaves.
-/

namespace EntityModel.Restriction

open CodeModel
open Edm (Graph Annotation ContainerMember)

/-! ## Readers and what may happen to them -/

/-- A reader between two calls. -/
structure Reader where
  graph : Graph
  /-- What its calls have written. -/
  ledger : Ledger := []
  /-- The store of the model that it is used for. -/
  store : Store

/-- What may happen to a reader. -/
inductive Event where
  /-- An annotation is added to the graph. -/
  | annotate (target : String) (a : Annotation)
  /-- An entity set is to be resolved for a property. -/
  | resolve (p : Option PropertyId) (set : Option ContainerMember)
  /-- Projections are to be made. -/
  | materialize

namespace Event

/-- The graph behind an event. -/
def graph (g : Graph) : Event → Graph
  | annotate target a => g.annotate target a
  | _ => g

/-- An event is a call, and if a property is given, a store has it. -/
def IsCall (s : Store) : Event → Prop
  | annotate _ _ => False
  | resolve p _ => ∀ q ∈ p, (s.property? q).isSome
  | materialize => True

end Event

namespace Reader

/-- The reader behind an event, and the failure of a call that fails. -/
def step (terms : Terms) (r : Reader) : Event → Reader × Option Failure
  | .annotate target a => ({ r with graph := r.graph.annotate target a }, none)
  | .resolve p set =>
      match resolveGivenSet r.graph terms p set r.ledger r.store with
      | (l, .ok s) => ({ r with ledger := l, store := s }, none)
      | (l, .error f) => ({ r with ledger := l }, some f)
  | .materialize => ({ r with store := r.ledger.materialize r.store }, none)

/-- The reader behind some events. -/
def run (terms : Terms) (r : Reader) (es : List Event) : Reader := es.foldl (fun r e => (r.step terms e).1) r

end Reader

/-! ## What the calls tell -/

/-- What a statement about a kind gives to a property: the flag if the property is that of the set, and then a denial
for each time that it is excluded. -/
def Statement.share (x : Statement) (kind : CapabilityKind) (p q : PropertyId) : List Capability :=
  (if q = p then [⟨kind, x.flag⟩] else []) ++ List.replicate (x.excluded.count q) ⟨kind, false⟩

/-- The statements about an entity set with elements of a type, term by term up to the first that fails. A term that
the set is not annotated with makes none. -/
def statements (g : Graph) (s : Store) (t : TypeId) (set : ContainerMember) :
    Terms → List (CapabilityKind × Statement)
  | [] => []
  | term :: terms =>
      match g.annotationWith? set.targetPath term.2 with
      | none => statements g s t set terms
      | some a =>
          match readStatement s t a with
          | .error _ => []
          | .ok x => (term.1, x) :: statements g s t set terms

/-- The statements that an event makes, each with the property of its set: those of a call that is given both a
property and a set. -/
def Event.statements (terms : Terms) (s : Store) (g : Graph) :
    Event → List (PropertyId × CapabilityKind × Statement)
  | .resolve (some p) (some set) =>
      (s.property? p).toList.flatMap fun x => (Restriction.statements g s x.type set terms).map (p, ·)
  | _ => []

/-- What an event gives to a property. -/
def Event.share (terms : Terms) (s : Store) (g : Graph) (q : PropertyId) (e : Event) : List Capability :=
  (e.statements terms s g).flatMap fun u => u.2.2.share u.2.1 u.1 q

/-- What some events give to a property, each with the graph of its moment. -/
def shares (terms : Terms) (s : Store) (q : PropertyId) : Graph → List Event → List Capability
  | _, [] => []
  | g, e :: es => e.share terms s g q ++ shares terms s q (e.graph g) es

/-- The entries that an event writes into the ledger. -/
def Event.entries (terms : Terms) (s : Store) (g : Graph) (e : Event) : Ledger :=
  (e.statements terms s g).flatMap fun u => u.2.2.entries u.2.1 u.1

section Shares

variable {g : Graph} {s : Store} {p q : PropertyId} {t : TypeId} {set : ContainerMember} {terms : Terms}
variable {l : Ledger}

theorem Statement.accumulated_entries (x : Statement) (kind : CapabilityKind) :
    (x.entries kind p).accumulated q = x.share kind p q := by
  have hexcluded : ∀ qs : List PropertyId, Ledger.accumulated (qs.map fun r => (r, ⟨kind, false⟩)) q =
      List.replicate (qs.count q) ⟨kind, false⟩ := by
    intro qs
    induction qs with
    | nil => rfl
    | cons r qs ih =>
        unfold Ledger.accumulated at ih ⊢
        by_cases hr : r = q
        · simp [hr, ih, List.replicate_succ]
        · simp [hr, ih]
  have hset : Ledger.accumulated [(p, (⟨kind, x.flag⟩ : Capability))] q =
      if q = p then [⟨kind, x.flag⟩] else [] := by
    by_cases hq : q = p
    · simp [Ledger.accumulated, hq]
    · simp [Ledger.accumulated, hq, Ne.symm hq]
  rw [entries, share, ← List.singleton_append, Ledger.accumulated_append, hexcluded, hset]

theorem Event.accumulated_entries (e : Event) :
    (e.entries terms s g).accumulated q = e.share terms s g q := by
  unfold entries share
  induction e.statements terms s g with
  | nil => rfl
  | cons u us ih =>
      rw [List.flatMap_cons, List.flatMap_cons, Ledger.accumulated_append, Statement.accumulated_entries, ih]

theorem fst_applyTerms :
    (applyTerms g s p t set terms l).1 =
      l ++ (statements g s t set terms).flatMap fun u => u.2.entries u.1 p := by
  induction terms generalizing l with
  | nil => exact (List.append_nil l).symm
  | cons term terms ih =>
      rw [applyTerms, statements, entriesOf]
      cases g.annotationWith? set.targetPath term.2 with
      | none => simpa using ih
      | some a =>
          dsimp only
          cases readStatement s t a with
          | error f => exact (List.append_nil l).symm
          | ok x => simp [Except.map, ih]

theorem resolveSet_of_property? (g : Graph) (terms : Terms) (set : ContainerMember) (l : Ledger) {x : Property}
    (hx : s.property? p = some x) :
    let m := (statements g s x.type set terms).flatMap fun u => u.2.entries u.1 p
    resolveSet g terms p set l s = (l ++ m, .ok (Ledger.materialize (l ++ m) s)) ∨
      ∃ f, resolveSet g terms p set l s = (l ++ m, .error f) := by
  dsimp only
  rw [← fst_applyTerms, resolveSet, hx]
  dsimp only
  cases applyTerms g s p x.type set terms l with
  | mk l' failed =>
      cases failed with
      | none => exact .inl rfl
      | some f => exact .inr ⟨f, rfl⟩

theorem statements_materialize : statements g (l.materialize s) t set terms = statements g s t set terms := by
  have hread : ∀ a x, readStatement (l.materialize s) t a = .ok x ↔ readStatement s t a = .ok x := by
    intro a x
    have hleads : LeadsTo (l.materialize s) t = LeadsTo s t :=
      funext fun e => funext fun p => propext leadsTo_materialize
    rw [readStatement_eq_ok_iff, readStatement_eq_ok_iff, hleads]
  induction terms with
  | nil => rfl
  | cons term terms ih =>
      rw [statements, statements]
      cases g.annotationWith? set.targetPath term.2 with
      | none => exact ih
      | some a =>
          dsimp only
          cases ha : readStatement s t a with
          | ok x =>
              rw [(hread a x).2 ha]
              exact congrArg ((term.1, x) :: ·) ih
          | error f =>
              cases ha' : readStatement (l.materialize s) t a with
              | ok x =>
                  rw [hread, ha] at ha'
                  cases ha'
              | error f' => rfl

theorem Event.statements_materialize (e : Event) :
    e.statements terms (l.materialize s) g = e.statements terms s g := by
  rcases e with _ | ⟨_ | p, _ | set⟩ | _
  case resolve.some.some =>
    rw [statements, statements, Ledger.property?_materialize]
    cases s.property? p with
    | none => simp
    | some x => simp [Restriction.statements_materialize]
  all_goals rfl

end Shares

/-! ## Events one after another -/

namespace Reader

variable {terms : Terms} {r : Reader} {g : Graph} {s : Store} {e : Event} {es : List Event} {q : PropertyId}

theorem step_resolve (terms : Terms) {p : PropertyId} {x : Property} (set : ContainerMember)
    (hx : r.store.property? p = some x) :
    let l := r.ledger ++ (Event.resolve (some p) (some set)).entries terms r.store r.graph
    r.step terms (.resolve (some p) (some set)) = ({ r with ledger := l, store := l.materialize r.store }, none) ∨
      ∃ f, r.step terms (.resolve (some p) (some set)) = ({ r with ledger := l }, some f) := by
  have hentries : (Event.resolve (some p) (some set)).entries terms r.store r.graph =
      (statements r.graph r.store x.type set terms).flatMap fun u => u.2.entries u.1 p := by
    simp [Event.entries, Event.statements, hx, List.flatMap_map]
  simp only [hentries, step, resolveGivenSet, required]
  rcases resolveSet_of_property? r.graph terms set r.ledger hx with h | ⟨f, h⟩
  · rw [h]
    exact .inl rfl
  · rw [h]
    exact .inr ⟨f, rfl⟩

/-- All that an event does: it writes its entries, and either it makes all projections, or the store stays and it is
no call or fails. -/
theorem step_cases (terms : Terms) (r : Reader) (e : Event) :
    ∃ s' f, r.step terms e =
        ({ graph := e.graph r.graph, ledger := r.ledger ++ e.entries terms r.store r.graph, store := s' }, f) ∧
      (s' = Ledger.materialize (r.ledger ++ e.entries terms r.store r.graph) r.store ∧ f = none ∨
        s' = r.store ∧ (e.IsCall r.store → f ≠ none)) := by
  -- Only a call that is given a set and a property that is there makes statements.
  have hsilent : e.statements terms r.store r.graph = [] →
      r.ledger ++ e.entries terms r.store r.graph = r.ledger := by
    intro hnone
    rw [Event.entries, hnone, List.flatMap_nil, List.append_nil]
  cases e with
  | annotate target a =>
      rw [hsilent rfl]
      exact ⟨r.store, none, rfl, .inr ⟨rfl, False.elim⟩⟩
  | materialize =>
      rw [hsilent rfl]
      exact ⟨_, none, rfl, .inl ⟨rfl, rfl⟩⟩
  | resolve p set =>
      cases p with
      | none =>
          rw [hsilent rfl]
          exact ⟨r.store, some _, rfl, .inr ⟨rfl, fun _ => Option.some_ne_none _⟩⟩
      | some p =>
          cases set with
          | none =>
              rw [hsilent rfl]
              exact ⟨r.store, some _, rfl, .inr ⟨rfl, fun _ => Option.some_ne_none _⟩⟩
          | some set =>
              cases hx : r.store.property? p with
              | none =>
                  rw [hsilent (by simp [Event.statements, hx])]
                  refine ⟨r.store, none, ?_, .inr ⟨rfl, by simp [Event.IsCall, hx]⟩⟩
                  simp [step, Event.graph, resolveGivenSet, required, resolveSet, hx]
              | some x =>
                  rcases step_resolve terms set hx with h | ⟨f, h⟩
                  · exact ⟨_, none, h, .inl ⟨rfl, rfl⟩⟩
                  · exact ⟨r.store, some f, h, .inr ⟨rfl, fun _ => Option.some_ne_none f⟩⟩

/-- The store of a reader is another store with the projections of a first part of its ledger. -/
def IsProjectionOf (r : Reader) (s : Store) : Prop := ∃ l : Ledger, l <+: r.ledger ∧ r.store = l.materialize s

theorem isProjectionOf_new (g : Graph) (s : Store) : IsProjectionOf { graph := g, store := s } s :=
  ⟨[], List.nil_prefix, Ledger.materialize_nil.symm⟩

/-- Projections of a longer ledger are the same in both stores. -/
theorem IsProjectionOf.materialize (h : r.IsProjectionOf s) (m : Ledger) :
    Ledger.materialize (r.ledger ++ m) r.store = Ledger.materialize (r.ledger ++ m) s := by
  obtain ⟨l, ⟨rest, hrest⟩, hstore⟩ := h
  rw [hstore, ← hrest, List.append_assoc, Ledger.materialize_append]

theorem IsProjectionOf.entries (h : r.IsProjectionOf s) (e : Event) :
    e.entries terms r.store g = e.entries terms s g := by
  obtain ⟨l, -, hstore⟩ := h
  rw [Event.entries, Event.entries, hstore, Event.statements_materialize]

theorem IsProjectionOf.isCall_iff (h : r.IsProjectionOf s) : e.IsCall r.store ↔ e.IsCall s := by
  obtain ⟨l, -, hstore⟩ := h
  cases e with
  | annotate target a => rfl
  | materialize => rfl
  | resolve p set => simp [Event.IsCall, hstore, Ledger.property?_materialize]

theorem IsProjectionOf.step (h : r.IsProjectionOf s) : (r.step terms e).1.IsProjectionOf s := by
  obtain ⟨s', f, hstep, hstore⟩ := step_cases terms r e
  rw [hstep]
  rcases hstore with ⟨rfl, -⟩ | ⟨rfl, -⟩
  · exact ⟨_, List.prefix_refl _, h.materialize _⟩
  · obtain ⟨l, hl, hstore⟩ := h
    exact ⟨l, hl.trans (List.prefix_append _ _), hstore⟩

/-- What has accumulated behind a run: what was there, and then the share of each event. -/
theorem IsProjectionOf.run (h : r.IsProjectionOf s) (terms : Terms) (es : List Event) :
    (r.run terms es).IsProjectionOf s ∧ (r.run terms es).graph = es.foldl Event.graph r.graph ∧
      ∀ q, (r.run terms es).ledger.accumulated q = r.ledger.accumulated q ++ shares terms s q r.graph es := by
  induction es generalizing r with
  | nil => exact ⟨h, rfl, fun q => (List.append_nil _).symm⟩
  | cons e es ih =>
      obtain ⟨hstore, hgraph, hledger⟩ := ih h.step
      obtain ⟨s', f, hstep, -⟩ := step_cases terms r e
      refine ⟨hstore, ?_, fun q => ?_⟩
      · rw [run, List.foldl_cons, ← run, hgraph, hstep, List.foldl_cons]
      · rw [run, List.foldl_cons, ← run, hledger, hstep, shares, h.entries, Ledger.accumulated_append,
          Event.accumulated_entries, List.append_assoc]

end Reader

/-! ## Opened readers -/

/-- Whatever happens to a reader, what has accumulated for a property are the shares that the calls have given it, in
the order of the calls and, within a call, of the kinds. No entry is ever dropped or moved. A further call that succeeds
makes the projection of each property for which something has accumulated, and leaves all other properties as they
were before the run; one that fails leaves the whole store. -/
theorem run_of_openReader {graph : Option Graph} {file : Option SourceFile} {g : Graph} {terms : Terms}
    (hopen : openReader graph file = .ok (g, terms)) (s : Store) (es : List Event) :
    let r := Reader.run terms { graph := g, store := s } es
    (terms.map (·.1) = CapabilityKind.all ∧ ∀ u ∈ terms, u.2.dotted = termName u.1) ∧
      (∀ q, r.ledger.accumulated q = shares terms s q g es) ∧
      ∀ c r' failure, r.step terms c = (r', failure) →
        (∀ q, r.ledger.accumulated q <+: r'.ledger.accumulated q) ∧
        (failure ≠ none → r'.store = r.store) ∧
        (c.IsCall s → failure = none → ∀ q x, s.property? q = some x → ∃ y, r'.store.property? q = some y ∧
          (r'.ledger.accumulated q ≠ [] → y.projection = ⟨x.type, r'.ledger.accumulated q⟩) ∧
          (r'.ledger.accumulated q = [] → y = x)) := by
  obtain ⟨graph', hgraph, hopen⟩ := bind_eq_ok_iff.1 hopen
  obtain ⟨terms', hterms, hopen⟩ := bind_eq_ok_iff.1 hopen
  obtain ⟨rfl, rfl⟩ : graph' = g ∧ terms' = terms := by simpa [pure, Except.pure] using hopen
  rw [mapError_eq_ok_iff] at hterms
  obtain ⟨hrun, -, hledger⟩ := (Reader.isProjectionOf_new graph' s).run terms' es
  refine ⟨terms_of_loadTerms hterms, fun q => (hledger q).trans (List.nil_append _), ?_⟩
  intro c r' failure hc
  obtain ⟨s', f, hstep, hstore⟩ := Reader.step_cases terms' (Reader.run terms' { graph := graph', store := s } es) c
  obtain ⟨rfl, rfl⟩ := Prod.mk.inj (hc.symm.trans hstep)
  refine ⟨fun q => ?_, fun hfailed => ?_, fun hcall hnone q x hx => ?_⟩
  · rw [Ledger.accumulated_append]
    exact List.prefix_append _ _
  · rcases hstore with ⟨-, hnone⟩ | ⟨hsame, -⟩
    · exact absurd hnone hfailed
    · exact hsame
  · rcases hstore with ⟨rfl, -⟩ | ⟨-, hfails⟩
    · rw [hrun.materialize, Ledger.property?_materialize, hx]
      refine ⟨_, rfl, fun hsome => ?_, fun hnil => ?_⟩
      · rw [Ledger.projected, if_neg hsome]
        rfl
      · rw [Ledger.projected, if_pos hnil]
    · exact absurd hnone (hfails (hrun.isCall_iff.2 hcall))

/-- A set that may be inserted into. -/
def repeatedGraph : Graph := itemGraph [restriction .insert (some permissive)]

/-- The set is resolved twice, and in between it is annotated with a restriction that has no value. -/
def repeatedCalls : List Event :=
  [.resolve (some ⟨0⟩) (some itemSet), .annotate itemSet.targetPath (restriction .update none),
    .resolve (some ⟨0⟩) (some itemSet), .resolve none none, .materialize]

/-- The set has its entry twice, although the second call fails. -/
theorem accumulated_of_repeated :
    openReader (some repeatedGraph) none = .ok (repeatedGraph, installedTerms) ∧
      (Reader.run installedTerms { graph := repeatedGraph, store := itemStore } repeatedCalls).ledger.accumulated ⟨0⟩ =
        [⟨.insert, true⟩, ⟨.insert, true⟩] := by
  have hload : loadTerms none = .ok installedTerms := by rfl
  have hopen : openReader (some repeatedGraph) none = .ok (repeatedGraph, installedTerms) := by
    rw [openReader, hload]
    rfl
  have hshares : shares installedTerms itemStore ⟨0⟩ repeatedGraph repeatedCalls =
      [⟨.insert, true⟩, ⟨.insert, true⟩] := by decide
  exact ⟨hopen, ((run_of_openReader hopen itemStore repeatedCalls).2.1 ⟨0⟩).trans hshares⟩

end EntityModel.Restriction
