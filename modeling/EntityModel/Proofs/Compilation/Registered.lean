import EntityModel.Proofs.Compilation.Likeness
import Mathlib.Data.List.Flatten

/-!
# What is registered in another order

The registered types of a compilation are the declared classes and the primitive types that have been referred to.
Which primitive types these are, and how often each is registered, depends on how often a name is referred to and
not on the order of the references (`foldl_noted_perm`). So rearranged graphs register the same types up to order.
The service classes even stand in the same order, as the namespaces do.
-/

namespace EntityModel.Compilation

open CodeModel
open Edm (Graph Operation Container)

/-! ## Names that are referred to -/

/-- The names that the method of a bound operation refers to. -/
def boundNames (g : Graph) (o : Operation) : List QualifiedName :=
  match o.binding? with
  | none => []
  | some _ => signatureNames g o

/-- The names that a graph refers to, in the order in which it is compiled. -/
def referredNames (g : Graph) : List QualifiedName :=
  (structuredTypes g).flatMap (memberNames g) ++
    (g.operations.flatMap (boundNames g) ++ g.containers.flatMap fun x => x.imports.flatMap (importNames g))

section Names

variable {g g' : Graph} {s : Store} {d : Draft} {a b : QualifiedName} {ps qs names names' : List QualifiedName}

theorem referred_flatten {α : Type} {Q : α → List Change → Prop} {f : α → List QualifiedName} {as : List α}
    {css : List (List Change)} (h : List.Forall₂ Q as css) (hf : ∀ a cs, Q a cs → referred cs = f a) :
    referred css.flatten = as.flatMap f := by
  induction h with
  | nil => rfl
  | cons hq _ ih => rw [List.flatten_cons, referred_append, List.flatMap_cons, hf _ _ hq, ih]

theorem Bound.referred {n : Nat} {o : Operation} {cs : List Change} (h : Bound g n s o cs) :
    referred cs = boundNames g o := by
  unfold Bound at h
  unfold boundNames
  cases hb : o.binding? with
  | none =>
      rw [hb] at h
      rw [h]
      rfl
  | some p =>
      rw [hb] at h
      obtain ⟨c, m, -, -, hlogged⟩ := h
      exact hlogged.names

/-- A built draft has the declared classes and the primitive types that the graph refers to. -/
theorem Built.declaresNames (hb : Built g s d) :
    Declares g s.types.length ((referredNames g).foldl (noted g) []) d := by
  obtain ⟨fs, bs, es, hd, hfs, hbs, hes⟩ := hb
  have hfill := referred_flatten (f := fun x => memberNames g x.1) hfs fun x cs ⟨_, _, hlogged⟩ => hlogged.names
  have hbound := referred_flatten hbs fun o cs ho => ho.referred
  have hoffer := referred_flatten (f := fun x => x.1.imports.flatMap (importNames g)) hes
    fun x cs ⟨_, _, hlogged⟩ => hlogged.names
  have hall := (Declares.declareAll s).replay (g := g) (fs.flatten ++ (bs.flatten ++ es.flatten))
  rw [← hd, referred_append, referred_append, hfill, hbound, hoffer] at hall
  rw [referredNames, ← map_fst_structuredOf (n := s.types.length), ← map_fst_containersOf (n := s.types.length),
    List.flatMap_map, List.flatMap_map]
  exact hall

/-- The names are the same up to order. -/
theorem Rearranged.referredNames_perm (h : Rearranged g g') : (referredNames g).Perm (referredNames g') := by
  have hmembers : memberNames g' = memberNames g := by
    funext t
    rw [memberNames, memberNames, h.targetName]
  have hresult : resultName g' = resultName g := by
    funext reference
    rw [resultName, resultName, h.targetName]
  have hsignature : signatureNames g' = signatureNames g := by
    funext o
    rw [signatureNames, signatureNames, hresult, h.targetName]
  have hbound : boundNames g' = boundNames g := by
    funext o
    rw [boundNames, boundNames, hsignature]
  have himports : importNames g' = importNames g := by
    funext i
    simp only [importNames, h.operation?, hsignature]
  rw [referredNames, referredNames, hmembers, hbound, himports, h.operations, h.containers]
  exact (h.structuredTypes.flatMap_right _).append_right _

/-! ## Primitive types -/

theorem noted_perm (h : ps.Perm qs) : (noted g ps a).Perm (noted g qs a) := by
  simp only [noted, h.mem_iff]
  split
  · exact h.append_right _
  · exact h

/-- It does not matter which of two names is referred to first. -/
theorem noted_comm : (noted g (noted g ps a) b).Perm (noted g (noted g ps b) a) := by
  by_cases hab : a = b
  · subst hab
    exact .refl _
  · have hmem : ∀ {x y : QualifiedName}, x ≠ y → (x ∈ noted g ps y ↔ x ∈ ps) := by
      intro x y hxy
      rw [noted]
      split
      · simp [hxy]
      · exact .rfl
    have hnoted : ∀ {x y : QualifiedName}, x ≠ y → noted g (noted g ps y) x =
        if x.space = primitiveSpace ∧ (IsDeclared g x ∨ x ∉ ps) then noted g ps y ++ [x] else noted g ps y := by
      intro x y hxy
      rw [noted]
      simp only [hmem hxy]
    -- Whether a name is noted depends on the other one only through membership, which is the same in both orders.
    have hlast : (ps ++ [a] ++ [b]).Perm (ps ++ [b] ++ [a]) := by
      simpa using (List.Perm.swap b a []).append_left ps
    rw [hnoted (Ne.symm hab), hnoted hab, noted, noted]
    split
    · split
      · exact hlast
      · exact .refl _
    · split
      · exact .refl _
      · exact .refl _

theorem foldl_noted_perm (h : names.Perm names') :
    (names.foldl (noted g) ps).Perm (names'.foldl (noted g) ps) := by
  have hstart : ∀ {names ps qs : List QualifiedName}, ps.Perm qs →
      (names.foldl (noted g) ps).Perm (names.foldl (noted g) qs) := by
    intro names
    induction names with
    | nil => exact id
    | cons a names ih => exact fun h => ih (noted_perm h)
  induction h generalizing ps with
  | nil => exact .refl _
  | cons a _ ih => exact ih
  | swap a b names => exact hstart noted_comm
  | trans _ _ ih₁ ih₂ => exact ih₁.trans ih₂

/-- The primitive types that are registered are the same up to order. -/
theorem Rearranged.primitives_perm (h : Rearranged g g') :
    ((referredNames g).foldl (noted g) []).Perm ((referredNames g').foldl (noted g') []) := by
  have hnoted : noted g' = noted g := by
    funext ps name
    simp only [noted, h.isDeclared]
  rw [hnoted]
  exact foldl_noted_perm h.referredNames_perm

end Names

/-! ## Registered types -/

section Types

variable {g g' : Graph} {n : Nat} {ps ps' : List QualifiedName} {d d' : Draft} {s s' : Store}
variable {T : TypeId → TypeId → Prop} {P : PropertyId → PropertyId → Prop}

/-- The portraits of the declared classes, and behind them those of the primitive types. -/
theorem Declares.portraits (h : Declares g n ps d) (hs : s.types = d.store.types) :
    d.registry.types.map (portrait s) = (placed g n).map (fun x => portrait s x.2) ++
      ps.map fun name => .object (Model.nameMembers ⟨name, .primitive⟩) := by
  obtain ⟨more, hmore, hr, hprimitives⟩ := h.registry
  have hportrait : ∀ e ∈ more, portrait s e.2 = .object (Model.nameMembers ⟨e.1, .primitive⟩) := by
    intro e he
    have htype : s.type? e.2 = some ⟨e.1, .primitive⟩ := by
      rw [Store.type?, hs]
      exact (hprimitives e he).2
    rw [portrait, Model.typeListing, htype]
    simp
  rw [hr, Registry.types_ofHistory, List.map_append, List.map_append, historyOf, List.map_map, List.map_map,
    List.map_map, ← hmore, List.map_map]
  exact congrArg _ (List.map_congr_left hportrait)

/-- The registered types of rearranged graphs are the same up to order. -/
theorem Rearranged.portraits_perm (h : Rearranged g g') (halike : Alike T P s s')
    (hcounterpart : ∀ t t', Counterpart g g' n t t' → T t t') (hd : Declares g n ps d) (hd' : Declares g' n ps' d')
    (hps : ps.Perm ps') (hs : s.types = d.store.types) (hs' : s'.types = d'.store.types) :
    (d.registry.types.map (portrait s)).Perm (d'.registry.types.map (portrait s')) := by
  obtain ⟨ys, hys, hperm⟩ := h.exists_counterparts n
  have hclasses : ys.map (fun y => portrait s' y.2) = (placed g n).map fun x => portrait s x.2 :=
    Alignment.map_eq hys fun x y hxy => halike.portrait (hcounterpart _ _ hxy.2)
  rw [hd.portraits hs, hd'.portraits hs', ← hclasses]
  exact (hperm.map _).append (hps.map _)

end Types

/-! ## Service classes -/

section Services

variable {g g' : Graph} {n : Nat} {ps ps' : List QualifiedName} {d d' : Draft} {m m' : Model}

/-- The service classes stand in the order of their namespaces, and in each in the order of the containers. -/
theorem Declares.services (h : Declares g n ps d) (hm : m.registry = d.registry) :
    ∃ history : Registry.History,
      history.map (·.1.space) =
        (declarations g).map (·.name.space) ++ List.replicate ps.length primitiveSpace ∧
      m.services d.store = (Registry.spaces history).flatMap fun space =>
        ((containersOf (placed g n)).filter fun x => x.1.name.space = space).map (·.2) := by
  obtain ⟨more, hmore, hr, hprimitives⟩ := h.registry
  refine ⟨historyOf (placed g n) ++ more, ?_, ?_⟩
  · have hplaced : (placed g n).map (·.1.name.space) = (declarations g).map (·.name.space) := by
      have hfst : (placed g n).map (·.1) = declarations g := map_fst_placedFrom
      rw [← hfst, List.map_map]
      rfl
    have hspaces : more.map (·.1.space) = List.replicate ps.length primitiveSpace := by
      rw [← hmore, List.length_map, List.eq_replicate_iff]
      refine ⟨List.length_map .., fun space hspace => ?_⟩
      obtain ⟨e, he, rfl⟩ := List.mem_map.1 hspace
      exact (hprimitives e he).1
    rw [List.map_append, hspaces, historyOf, List.map_map, ← hplaced]
    rfl
  · rw [Model.services, hm, hr, Registry.namespaces_ofHistory, List.flatMap_map]
    refine List.flatMap_congr fun space _ => ?_
    have hcontainers : (containersOf (placed g n)).filter (fun x => x.1.name.space = space) =
        containersOf ((placed g n).filter fun x => x.1.name.space = space) := by
      rw [containersOf, containersOf, select, select, List.filter_filterMap, List.filterMap_filter]
      refine List.filterMap_congr fun x _ => ?_
      obtain ⟨x | c, t⟩ := x
      · simp [Declaration.container?]
      · by_cases hspace : c.name.space = space
        · simp [Declaration.container?, Declaration.name, Option.filter, hspace]
        · simp [Declaration.container?, Declaration.name, Option.filter, hspace]
    have hhistory : (historyOf (placed g n)).filter (fun e => e.1.space = space) =
        historyOf ((placed g n).filter fun x => x.1.name.space = space) := List.filter_map ..
    rw [Registry.inSpace, List.filter_append, List.map_append, List.filter_append, hcontainers, hhistory,
      filter_isService_historyOf h fun x hx => List.mem_of_mem_filter hx,
      filter_isService_primitive fun e he => (hprimitives e (List.mem_of_mem_filter he)).2, List.append_nil]

/-- Rearranged graphs have as many service classes. -/
theorem Rearranged.length_services (h : Rearranged g g') (hd : Declares g n ps d) (hd' : Declares g' n ps' d')
    (hm : m.registry = d.registry) (hm' : m'.registry = d'.registry) :
    (m'.services d'.store).length = (m.services d.store).length := by
  rw [(services_perm hd hm _).length_eq, (services_perm hd' hm' _).length_eq, services_of_declares hd,
    services_of_declares hd', h.containersOf]

/-- The service classes of rearranged graphs are the same, in the same order, if declarations are located in the
namespaces of their schemas. -/
theorem Rearranged.services (h : Rearranged g g') (hl : Located g) (hd : Declares g n ps d)
    (hd' : Declares g' n ps' d') (hps : ps.length = ps'.length) (hm : m.registry = d.registry)
    (hm' : m'.registry = d'.registry) : m'.services d'.store = m.services d.store := by
  obtain ⟨history, hspaces, hservices⟩ := hd.services hm
  obtain ⟨history', hspaces', hservices'⟩ := hd'.services hm'
  rw [h.map_space hl, ← hps, ← hspaces] at hspaces'
  rw [hservices, hservices', h.containersOf, Registry.spaces_congr hspaces']

end Services

end EntityModel.Compilation
