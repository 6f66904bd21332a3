import EntityModel.Proofs.CodeModel.Reach
import EntityModel.Proofs.Compilation.Image

/-!
# Builds keep the registered types closed

A type that a reference leads to is registered: it has been found in the registry or it has just been registered. So
each step of a build makes only changes that lead to registered types. `Build.Keeps` says so of a step, under the
condition that the step is given registered types, and its rules follow the ways in which steps are put together.
Since types are never taken out of the registry, a draft that has been built refers to registered types only
(`mem_types_of_refers`).
-/

namespace EntityModel.Compilation

open CodeModel
open Edm (Graph StructuredType Operation OperationImport Container ContainerMember)

/-- The types that a method has to do with. -/
def methodTargets (m : MethodDetail) : List TypeId := m.parameters.map (·.type) ++ m.returns.toList

/-- The types that a change makes a class refer to. -/
def Change.targets : Change → List TypeId
  | refer _ => []
  | base _ b => [b]
  | property _ x => [x.type]
  | key _ _ => []
  | method _ _ m => methodTargets m

/-! ## The registry only grows -/

section Registered

variable {g : Graph} {n : Nat} {ps : List QualifiedName} {d d' : Draft} {name : QualifiedName} {t : TypeId}
variable {reference place : String}

theorem Draft.types_subset_apply (x : Change) : d.registry.types ⊆ (d.apply x).registry.types := by
  cases x with
  | refer name =>
      rw [apply]
      split
      · exact List.subset_append_left _ _
      · exact List.Subset.refl _
  | base c b => exact List.Subset.refl _
  | property c x => exact List.Subset.refl _
  | key c p => exact List.Subset.refl _
  | method c n m => exact List.Subset.refl _

theorem Draft.types_subset_replay (cs : List Change) : d.registry.types ⊆ (d.replay cs).registry.types := by
  induction cs generalizing d with
  | nil => exact List.Subset.refl _
  | cons x cs ih => exact List.Subset.trans (types_subset_apply x) ih

theorem Declares.mem_types_of_resolve? (h : Declares g n ps d) {v : Variant}
    (ht : d.registry.resolve? d.store name v = some t) : t ∈ d.registry.types := by
  obtain ⟨more, -, hr, -⟩ := h.registry
  have hlookup : d.registry.index.lookup name = some t := (Option.filter_eq_some_iff.1 ht).1
  rw [hr, Registry.lookup_index_ofHistory] at hlookup
  rw [hr, Registry.types_ofHistory]
  exact List.mem_map_of_mem (lookup_eq_some_mem hlookup)

theorem mem_types_of_resolve (h : Declares g n ps d) (hrun : resolve g reference place d = .ok (t, d')) :
    t ∈ d'.registry.types := by
  rw [resolve_apply] at hrun
  split at hrun
  · split at hrun
    · next hfound =>
        obtain ⟨rfl, rfl⟩ := Prod.mk.inj (Except.ok.inj hrun)
        exact h.mem_types_of_resolve? hfound
    · obtain ⟨rfl, rfl⟩ := Prod.mk.inj (Except.ok.inj hrun)
      exact List.mem_append_right _ List.mem_cons_self
  · split at hrun
    · next hfound =>
        obtain ⟨rfl, rfl⟩ := Prod.mk.inj (Except.ok.inj hrun)
        exact h.mem_types_of_resolve? hfound
    · cases hrun

end Registered

/-! ## Steps that keep to registered types -/

/-- A step that is given registered types makes only changes that lead to registered types, and the types of its result
are registered. -/
structure Build.Keeps {α : Type} (g : Graph) (n : Nat) (ts : List TypeId) (x : Build α) (us : α → List TypeId) :
    Prop where
  /-- What the step leaves. -/
  post : ∀ {ps d a d'}, Declares g n ps d → ts ⊆ d.registry.types → x d = .ok (a, d') →
    ∃ cs, d' = d.replay cs ∧ (∀ c ∈ cs, c.targets ⊆ d'.registry.types) ∧ us a ⊆ d'.registry.types

namespace Build.Keeps

variable {α β : Type} {g : Graph} {n : Nat} {ts : List TypeId} {x : Build α} {us : α → List TypeId}

theorem pure {a : α} (h : us a ⊆ ts) : Keeps g n ts (Pure.pure a) us where
  post := by
    intro ps d b d' _ hts hrun
    obtain ⟨rfl, rfl⟩ := Prod.mk.inj (pure_apply_eq_ok_iff.1 hrun)
    exact ⟨[], rfl, by simp, List.Subset.trans h hts⟩

theorem get : Keeps g n ts MonadState.get fun _ => [] where
  post := by
    intro ps d a d' _ _ hrun
    obtain ⟨-, rfl⟩ := Prod.mk.inj (get_apply_eq_ok_iff.1 hrun)
    exact ⟨[], rfl, by simp, List.nil_subset _⟩

theorem fail {f : Failure} : Keeps g n ts (Build.fail f) us where
  post _ _ hrun := by simp [Build.fail] at hrun

/-- A single change that leads to the given types. -/
theorem of_apply {x : Build Unit} {c : Change} (h : ∀ d, x d = .ok ((), d.apply c)) (hc : c.targets ⊆ ts) :
    Keeps g n ts x fun _ => [] where
  post := by
    intro ps d a d' _ hts hrun
    obtain rfl : d.apply c = d' := by simpa [h] using hrun
    have htargets := List.Subset.trans hc (List.Subset.trans hts (Draft.types_subset_apply c))
    exact ⟨[c], rfl, by simpa using htargets, List.nil_subset _⟩

theorem of_subset {ts' : List TypeId} (h : Keeps g n ts x us) (hts : ts ⊆ ts') : Keeps g n ts' x us where
  post hd hts' hrun := h.post hd (List.Subset.trans hts hts') hrun

theorem bind {f : α → Build β} {vs : β → List TypeId} (hx : Keeps g n ts x us)
    (hf : ∀ a, Keeps g n (us a ++ ts) (f a) vs) : Keeps g n ts (x >>= f) vs where
  post := by
    intro ps d b d' hd hts hrun
    obtain ⟨a, d₁, hx', hrun⟩ := Build.bind_apply_eq_ok_iff.1 hrun
    obtain ⟨cs, rfl, hcs, hus⟩ := hx.post hd hts hx'
    have hgiven : us a ++ ts ⊆ (d.replay cs).registry.types :=
      List.append_subset.2 ⟨hus, List.Subset.trans hts (Draft.types_subset_replay cs)⟩
    obtain ⟨cs', rfl, hcs', hvs⟩ := (hf a).post (hd.replay cs) hgiven hrun
    refine ⟨cs ++ cs', by rw [Draft.replay_append], fun c hc => ?_, hvs⟩
    rcases List.mem_append.1 hc with hc | hc
    · exact List.Subset.trans (hcs c hc) (Draft.types_subset_replay cs')
    · exact hcs' c hc

theorem forM {as : List α} {f : α → Build Unit} (hf : ∀ a, Keeps g n ts (f a) fun _ => []) :
    Keeps g n ts (as.forM f) fun _ => [] := by
  induction as with
  | nil => exact Keeps.pure (List.nil_subset _)
  | cons a as ih => exact (hf a).bind fun _ => ih

theorem mapM {as : List α} {f : α → Build β} {vs : β → List TypeId} (hf : ∀ a, Keeps g n ts (f a) vs) :
    Keeps g n ts (as.mapM f) fun bs => bs.flatMap vs := by
  induction as with
  | nil => exact Keeps.pure (List.nil_subset _)
  | cons a as ih =>
      rw [List.mapM_cons]
      refine (hf a).bind fun b => (ih.of_subset (List.subset_append_right _ _)).bind fun bs => Keeps.pure ?_
      rw [List.flatMap_cons]
      exact List.append_subset.2 ⟨fun t ht => by simp [ht], List.subset_append_left _ _⟩

end Build.Keeps

/-! ## The steps of a build -/

section Steps

variable {g : Graph} {n : Nat} {ts : List TypeId} {c : TypeId} {owner reference place name : String} {o : Operation}

theorem resolve_keeps : Build.Keeps g n ts (resolve g reference place) fun t => [t] where
  post hd _ hrun := by
    obtain ⟨rfl, -⟩ := (resolve_yields hd).post hrun
    exact ⟨[.refer _], rfl, by simp [Change.targets], by simpa using mem_types_of_resolve hd hrun⟩

theorem resolveClass_keeps : Build.Keeps g n ts (resolveClass g reference place) fun t => [t] := by
  refine resolve_keeps.bind fun t => Build.Keeps.get.bind fun d => ?_
  split
  · exact .pure (by simp)
  · exact .fail

theorem addProperty_keeps {x : Property} (h : x.type ∈ ts) :
    Build.Keeps g n ts (Build.addProperty c x) fun _ => [] :=
  .of_apply (fun _ => addProperty_apply x) (by simpa [Change.targets] using h)

theorem addStructural_keeps (p : Edm.Property) : Build.Keeps g n ts (addStructural g owner c p) fun _ => [] :=
  resolve_keeps.bind fun _ => addProperty_keeps (by simp)

theorem addNavigation_keeps (p : Edm.NavigationProperty) :
    Build.Keeps g n ts (addNavigation g owner c p) fun _ => [] :=
  resolveClass_keeps.bind fun _ => addProperty_keeps (by simp)

theorem addBase_keeps (t : StructuredType) : Build.Keeps g n ts (addBase g t c) fun _ => [] := by
  rw [addBase]
  cases given t.base with
  | none => exact .pure (List.nil_subset _)
  | some b =>
      refine resolveClass_keeps.bind fun u => .of_apply (c := .base c u) (fun _ => rfl) ?_
      simp [Change.targets]

theorem addKey_keeps (path : String) : Build.Keeps g n ts (addKey c path) fun _ => [] where
  post := by
    intro ps d a d' _ _ hrun
    rw [addKey_apply] at hrun
    split at hrun
    · next p _ =>
        obtain rfl : d.apply (.key c p) = d' := by simpa using hrun
        exact ⟨[.key c p], rfl, by simp [Change.targets], List.nil_subset _⟩
    · cases hrun

theorem fillStructured_keeps (t : StructuredType) : Build.Keeps g n ts (fillStructured g t c) fun _ => [] :=
  (addBase_keeps t).bind fun _ => (Build.Keeps.forM addStructural_keeps).bind fun _ =>
    (Build.Keeps.forM addNavigation_keeps).bind fun _ => .forM addKey_keeps

theorem resultType_keeps (o : Operation) : Build.Keeps g n ts (resultType g o) fun r => r.1.toList := by
  rw [resultType]
  cases given o.returns with
  | none => exact .pure (List.nil_subset _)
  | some r => exact resolve_keeps.bind fun t => .pure (by simp)

theorem methodParameter_keeps (p : Edm.Parameter) :
    Build.Keeps g n ts (methodParameter g o p) fun q => [q.type] :=
  resolve_keeps.bind fun t => .pure (by simp)

theorem addMethod_keeps (o : Operation) : Build.Keeps g n ts (addMethod g c o name) fun _ => [] := by
  rw [addMethod, makeMethod]
  simp only [bind_assoc]
  refine (resultType_keeps o).bind fun r => (Build.Keeps.mapM methodParameter_keeps).bind fun qs =>
    .of_apply (fun _ => createMethod_apply _ _) ?_
  rw [Change.targets, methodTargets, List.map_eq_flatMap]
  exact List.append_subset.2 ⟨List.subset_append_left _ _, fun t ht => by simp [ht]⟩

theorem addBound_keeps (o : Operation) : Build.Keeps g n ts (addBound g o) fun _ => [] := by
  rw [addBound]
  cases o.binding? with
  | none => exact .pure (List.nil_subset _)
  | some p => exact resolveClass_keeps.bind fun _ => addMethod_keeps o

theorem addMember_keeps {collection : Bool} (m : ContainerMember) :
    Build.Keeps g n ts (addMember g c collection m) fun _ => [] :=
  resolveClass_keeps.bind fun _ => addProperty_keeps (by simp)

theorem addImport_keeps {k : Container} (i : OperationImport) :
    Build.Keeps g n ts (addImport g k c i) fun _ => [] := by
  rw [addImport]
  cases g.operation? i.operation with
  | none => exact .fail
  | some o =>
      dsimp only
      split
      · exact .pure (List.nil_subset _)
      · exact addMethod_keeps o

theorem fillContainer_keeps (k : Container) : Build.Keeps g n ts (fillContainer g k c) fun _ => [] :=
  (Build.Keeps.forM addMember_keeps).bind fun _ => (Build.Keeps.forM addMember_keeps).bind fun _ =>
    .forM addImport_keeps

/-- A draft that has been built is behind changes that lead to registered types. -/
theorem targets_of_build {s : Store} {d : Draft} {containers : List (Container × TypeId)}
    (hrun : build g { store := s } = .ok (containers, d)) :
    ∃ cs, d = (declareAll (declarations g) { store := s }).replay cs ∧
      ∀ c ∈ cs, c.targets ⊆ d.registry.types := by
  obtain ⟨declared, d₀, hdeclared, hrun⟩ := Build.bind_apply_eq_ok_iff.1 hrun
  rw [declareTypes_eq] at hdeclared
  obtain ⟨-, rfl⟩ := by simpa using hdeclared
  have hkeeps : Build.Keeps g s.types.length [] (do
      declared.structured.forM fun t => fillStructured g t.1 t.2
      g.operations.forM (addBound g)
      declared.containers.forM fun c => fillContainer g c.1 c.2
      return declared.containers) fun _ => [] :=
    (Build.Keeps.forM fun _ => fillStructured_keeps _).bind fun _ => (Build.Keeps.forM addBound_keeps).bind fun _ =>
      (Build.Keeps.forM fun _ => fillContainer_keeps _).bind fun _ => .pure (List.nil_subset _)
  obtain ⟨cs, hd, hcs, -⟩ := hkeeps.post (Declares.declareAll s) (List.nil_subset _) hrun
  exact ⟨cs, hd, hcs⟩

/-- What a declared class refers to is registered. -/
theorem mem_types_of_refers {s : Store} {d : Draft} {containers : List (Container × TypeId)} {x : Declaration}
    {u : TypeId} (hrun : build g { store := s } = .ok (containers, d)) (hx : (x, c) ∈ placed g s.types.length)
    (h : d.store.Refers c u) : u ∈ d.registry.types := by
  obtain ⟨cs, rfl, hcs⟩ := targets_of_build hrun
  have hclass := class?_declareAll (d := { store := s }) hx
  obtain ⟨k, hk⟩ := Draft.class?_replay cs hclass
  obtain ⟨ids, hids, hmethods⟩ := hk.methods
  rw [x.methods_detail, List.nil_append] at hids
  have hmethod : ∀ {m k'}, m ∈ k.methods →
      ((declareAll (declarations g) { store := s }).replay cs).store.method? m = some k' →
      methodTargets k' ⊆ ((declareAll (declarations g) { store := s }).replay cs).registry.types := by
    intro m k' hm hk'
    obtain ⟨y, hy, htype⟩ := Alignment.exists_of_mem_left hmethods (hids ▸ hm)
    obtain ⟨z, hz, hzy⟩ := List.mem_filterMap.1 hy
    obtain ⟨hzmem, -⟩ := List.mem_filter.1 hz
    cases z with
    | method v name m' =>
        obtain rfl : (name, m') = y := by simpa [Change.method?] using hzy
        obtain rfl : { m' with owner := some c } = k' := by
          simpa [Store.method?, htype, ownedMethod, Shape.method?] using hk'
        exact hcs _ hzmem
    | refer name => cases hzy
    | base v b => cases hzy
    | property v y => cases hzy
    | key v p => cases hzy
  cases h with
  | base hk' hb =>
      obtain rfl := Option.some.inj (hk.class?.symm.trans hk')
      rw [hk.base, x.base_detail, Option.or_none] at hb
      have hmem := base_mem_of_mem (List.mem_of_getLast? hb)
      exact hcs _ hmem (by simp [Change.targets])
  | property he =>
      rw [Draft.declared_replay hclass x.properties_detail] at he
      obtain ⟨y, -, hy, hey⟩ := mem_gained.1 he
      have hmem := mem_added.1 (List.mem_of_getElem? hy)
      rw [hey]
      exact hcs _ hmem (by simp [Change.targets, owned])
  | parameter hk' hm hd hp =>
      obtain rfl := Option.some.inj (hk.class?.symm.trans hk')
      exact hmethod hm hd (List.mem_append_left _ (List.mem_map_of_mem hp))
  | result hk' hm hd hr =>
      obtain rfl := Option.some.inj (hk.class?.symm.trans hk')
      exact hmethod hm hd (List.mem_append_right _ (by simp [hr]))

end Steps

end EntityModel.Compilation
