import EntityModel.Proofs.Restriction.Run
import EntityModel.Proofs.Surface.Reprojection

/-!
# The order of calls

What a reader allows does not depend on the order in which entity sets are resolved. Whether a call succeeds depends on
the graph and on the types alone, and not on the calls before it (`Event.IsResolvable`). So a run of calls succeeds in
one order if it does in another, and then the ledger has the same entries up to their order. A kind is supported unless
an entry denies it, wherever the entry stands. So each property supports the same kinds, and the clients get to see the
same surface, up to the order of the capabilities in a projection (`run_of_perm`).
-/

namespace EntityModel.Restriction

open CodeModel
open Edm (Graph ContainerMember)

/-! ## Calls that succeed -/

/-- An event is a call to resolve an entity set. -/
def Event.IsResolution : Event → Prop
  | resolve _ _ => True
  | _ => False

/-- No event of a run fails. -/
def Reader.Succeeds (terms : Terms) : Reader → List Event → Prop
  | _, [] => True
  | r, e :: es => (r.step terms e).2 = none ∧ Succeeds terms (r.step terms e).1 es

/-- A call is given a property and a set, and each term makes its entries. -/
def Event.IsResolvable (terms : Terms) (g : Graph) (s : Store) : Event → Prop
  | resolve (some p) (some set) =>
      ∀ x ∈ s.property? p, ∃ ls, List.Forall₂ (fun u l => entriesOf g s p x.type set u = .ok l) terms ls
  | _ => False

namespace Reader

variable {terms : Terms} {r : Reader} {s : Store} {e : Event} {es : List Event}

/-- A call succeeds exactly if its terms make their entries, whatever has been written and projected before. -/
theorem step_eq_none_iff (hstore : r.store = r.ledger.materialize s) (he : e.IsResolution) :
    (r.step terms e).2 = none ↔ e.IsResolvable terms r.graph s := by
  rcases e with _ | ⟨_ | p, _ | set⟩ | _
  case annotate => exact he.elim
  case materialize => exact he.elim
  case resolve.some.some =>
    simp only [step, resolveGivenSet, required, resolveSet, hstore, Ledger.property?_materialize, Event.IsResolvable]
    cases s.property? p with
    | none => simp
    | some x =>
        simp only [Option.map_some, Ledger.type_projected, Option.mem_some, forall_eq']
        cases happly : applyTerms r.graph (r.ledger.materialize s) p x.type set terms r.ledger with
        | mk l failed =>
            cases failed with
            | none =>
                obtain ⟨ls, hls, -⟩ := applyTerms_eq_none_iff.1 happly
                exact iff_of_true rfl ⟨ls, hls.imp fun _ _ hl => entriesOf_materialize.1 hl⟩
            | some f =>
                refine iff_of_false (by simp) ?_
                rintro ⟨ls, hls⟩
                rw [applyTerms_eq_none_iff.2 ⟨ls, hls.imp fun _ _ hl => entriesOf_materialize.2 hl, rfl⟩] at happly
                cases happly
  all_goals exact iff_of_false (Option.some_ne_none _) id

/-- A call that succeeds writes its entries and makes all projections. -/
theorem step_of_resolvable (hstore : r.store = r.ledger.materialize s) (he : e.IsResolvable terms r.graph s) :
    r.step terms e =
      ({ r with
          ledger := r.ledger ++ e.entries terms s r.graph,
          store := Ledger.materialize (r.ledger ++ e.entries terms s r.graph) s }, none) := by
  have hprojection : r.IsProjectionOf s := ⟨r.ledger, List.prefix_refl _, hstore⟩
  rcases e with _ | ⟨_ | p, _ | set⟩ | _
  case resolve.some.some =>
    have hsuccess := (step_eq_none_iff (e := .resolve (some p) (some set)) hstore trivial).2 he
    have hentries : (Event.resolve (some p) (some set)).entries terms r.store r.graph =
        (Event.resolve (some p) (some set)).entries terms s r.graph := hprojection.entries _
    have hafter := hprojection.materialize ((Event.resolve (some p) (some set)).entries terms s r.graph)
    cases hx : r.store.property? p with
    | none =>
        have hnone : (Event.resolve (some p) (some set)).entries terms s r.graph = [] := by
          rw [← hentries]
          simp [Event.entries, Event.statements, hx]
        rw [hnone, List.append_nil, ← hstore]
        simp [step, resolveGivenSet, required, resolveSet, hx]
    | some x =>
        rcases step_resolve terms set hx with h | ⟨f, h⟩
        · rw [h, hentries, hafter]
        · rw [h] at hsuccess
          cases hsuccess
  all_goals exact he.elim

/-- The calls of a run succeed exactly if each can be resolved, and then their entries stand one behind the other. -/
theorem succeeds_iff (terms : Terms) (hstore : r.store = r.ledger.materialize s) (hes : ∀ e ∈ es, e.IsResolution) :
    (r.Succeeds terms es ↔ ∀ e ∈ es, e.IsResolvable terms r.graph s) ∧
      (r.Succeeds terms es → r.run terms es =
        { r with
          ledger := r.ledger ++ es.flatMap (·.entries terms s r.graph),
          store := Ledger.materialize (r.ledger ++ es.flatMap (·.entries terms s r.graph)) s }) := by
  induction es generalizing r with
  | nil =>
      refine ⟨iff_of_true trivial (by simp), fun _ => ?_⟩
      rw [List.flatMap_nil, List.append_nil, ← hstore]
      rfl
  | cons e es ih =>
      obtain ⟨he, hes⟩ := List.forall_mem_cons.1 hes
      have hfirst : (r.step terms e).2 = none ↔ e.IsResolvable terms r.graph s := step_eq_none_iff hstore he
      by_cases hresolvable : e.IsResolvable terms r.graph s
      · have hstep := step_of_resolvable hstore hresolvable
        obtain ⟨hrest, hrun⟩ := ih (r := (r.step terms e).1) (by rw [hstep]) hes
        have hgraph : (r.step terms e).1.graph = r.graph := by rw [hstep]
        constructor
        · rw [Succeeds, hrest, List.forall_mem_cons, hfirst, hgraph]
        · rintro ⟨-, hsuccess⟩
          rw [run, List.foldl_cons, ← run, hrun hsuccess, hstep, List.flatMap_cons, List.append_assoc]
      · constructor
        · rw [Succeeds, List.forall_mem_cons, hfirst]
          exact iff_of_false (fun h => hresolvable h.1) fun h => hresolvable h.1
        · exact fun h => absurd (hfirst.1 h.1) hresolvable

end Reader

/-! ## Ledgers in another order -/

theorem Ledger.accumulated_perm {l l' : Ledger} (h : l.Perm l') (p : PropertyId) :
    (l.accumulated p).Perm (l'.accumulated p) := (h.filter _).map _

/-- The projections of two ledgers differ in the order of the capabilities, if the ledgers differ in the order of their
entries. -/
theorem reprojects_of_perm {l l' : Ledger} (h : l.Perm l') (s : Store) :
    (l.materialize s).Reprojects Projection.Reorders (l'.materialize s) := by
  refine Ledger.reprojects_materialize fun p x => ?_
  have hperm := Ledger.accumulated_perm h p
  unfold Ledger.projected
  by_cases hnone : l.accumulated p = []
  · have hnone' : l'.accumulated p = [] := by
      rw [hnone] at hperm
      exact hperm.nil_eq.symm
    rw [if_pos hnone, if_pos hnone']
    exact ⟨rfl, .refl _⟩
  · have hsome' : l'.accumulated p ≠ [] := by
      intro hnone'
      rw [hnone'] at hperm
      exact hnone hperm.eq_nil
    rw [if_neg hnone, if_neg hsome']
    exact ⟨rfl, hperm⟩

/-! ## Runs in another order -/

/-- If some calls all succeed on a new reader, they do so in any order, and behind them each property supports the same
kinds and the surface of each model is the same, up to the order of the capabilities in the projections. -/
theorem run_of_perm {g : Graph} {s : Store} {terms : Terms} {es es' : List Event}
    (hes : ∀ e ∈ es, e.IsResolution) (hsuccess : Reader.Succeeds terms { graph := g, store := s } es)
    (hperm : es.Perm es') :
    let r := Reader.run terms { graph := g, store := s } es
    let r' := Reader.run terms { graph := g, store := s } es'
    Reader.Succeeds terms { graph := g, store := s } es' ∧
      (∀ p, Option.Rel (fun x x' => ∀ kind, Surface.supports x' kind = Surface.supports x kind)
        (r.store.property? p) (r'.store.property? p)) ∧
      ∀ m, (∀ f, Surface.ofModel r'.store m = .error f ↔ Surface.ofModel r.store m = .error f) ∧
        ∀ a, Surface.ofModel r.store m = .ok a → ∃ a', Surface.ofModel r'.store m = .ok a' ∧ a.Reorders a' := by
  have hnew : ({ graph := g, store := s } : Reader).store = Ledger.materialize [] s := Ledger.materialize_nil.symm
  have hes' : ∀ e ∈ es', e.IsResolution := fun e he => hes e (hperm.mem_iff.2 he)
  obtain ⟨hiff, hrun⟩ := Reader.succeeds_iff terms hnew hes
  obtain ⟨hiff', hrun'⟩ := Reader.succeeds_iff terms hnew hes'
  have hsuccess' := hiff'.2 fun e he => hiff.1 hsuccess e (hperm.mem_iff.2 he)
  have hstores : (Reader.run terms { graph := g, store := s } es).store.Reprojects Projection.Reorders
      (Reader.run terms { graph := g, store := s } es').store := by
    rw [hrun hsuccess, hrun' hsuccess']
    exact reprojects_of_perm (hperm.flatMap_right _) s
  refine ⟨hsuccess', fun p => ?_, hstores.ofModel⟩
  exact Alignment.option_imp hstores.property? fun _ _ hx kind => Store.Reprojects.supports hx kind

/-- A second set of items. -/
def otherSet : ContainerMember := { name := "Others", type := "NS.Item", container := "NS.Service" }

/-- A store with the property of each of the two sets and a property of the items themselves. -/
def sharedStore : Store :=
  { types := [⟨⟨"NS", "Item"⟩, .structured { properties := [⟨2⟩] }⟩],
    properties :=
      [{ name := "Items", type := ⟨0⟩, collection := true }, { name := "Others", type := ⟨0⟩, collection := true },
       { name := "Link", type := ⟨0⟩, navigation := true }] }

/-- A record that allows everything but one property. -/
def sparing (flag : Bool) : Edm.Expression :=
  .record none [("Flag", some (.constant (.bool flag))), ("Paths", some (.collection [.path "PropertyPath" ["Link"]]))]

/-- Both sets say something about the property of the items. -/
def sharedGraph : Graph :=
  { annotations :=
      [(itemSet.targetPath, restriction .expand (some (sparing true))),
       (otherSet.targetPath, restriction .expand (some (sparing false)))] }

/-- The two sets can be resolved the other way round as well. -/
theorem succeeds_of_shared :
    let es := [Event.resolve (some ⟨0⟩) (some itemSet), .resolve (some ⟨1⟩) (some otherSet)]
    (∀ e ∈ es, e.IsResolution) ∧
      Reader.Succeeds installedTerms { graph := sharedGraph, store := sharedStore } es ∧ es.Perm es.reverse ∧
      Reader.Succeeds installedTerms { graph := sharedGraph, store := sharedStore } es.reverse := by
  intro es
  have hes : ∀ e ∈ es, e.IsResolution := by simp [es, Event.IsResolution]
  have hsuccess : Reader.Succeeds installedTerms { graph := sharedGraph, store := sharedStore } es :=
    ⟨by rfl, by rfl, trivial⟩
  have hperm : es.Perm es.reverse := es.reverse_perm.symm
  exact ⟨hes, hsuccess, hperm, (run_of_perm hes hsuccess hperm).1⟩

end EntityModel.Restriction
