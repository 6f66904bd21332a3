import EntityModel.Proofs.Compilation.Method

/-!
# Filling the containers

The class of a container gets a property for each entity set and each singleton, and a method for each import
whose operation is not bound. The operation of an import is the first one with the name, so whether the import
makes a method depends on that one alone.
-/

namespace EntityModel.Compilation

open CodeModel
open Edm (Graph OperationImport Container ContainerMember)

/-- The property that an entity set or a singleton becomes. -/
def IsMember (g : Graph) (n : Nat) (collection : Bool) (m : ContainerMember) (x : Property) : Prop :=
  ∃ t, place? g n (targetName g m.type) = some t ∧
    x = { name := m.name, type := t, collection, navigation := true }

/-- The method that an import becomes: none if the operation that is found is bound. -/
def IsImport (g : Graph) (n : Nat) (s : Store) (i : OperationImport)
    (m : Option (QualifiedName × MethodDetail)) : Prop :=
  ∃ o, g.operation? i.operation = some o ∧
    if o.bound then m = none else ∃ x, m = some x ∧ IsMethod g n s o i.name x

/-- The operation of an import is found, and if it is not bound, its signature leads to types. -/
def ImportLeads (g : Graph) (i : OperationImport) : Prop :=
  ∃ o, g.operation? i.operation = some o ∧ (o.bound = false → SignatureLeads g o)

/-- The names that the signature of an import refers to. -/
def importNames (g : Graph) (i : OperationImport) : List QualifiedName :=
  match g.operation? i.operation with
  | none => []
  | some o => if o.bound then [] else signatureNames g o

/-- The references of a container all lead somewhere. -/
structure ContainerLeads (g : Graph) (c : Container) : Prop where
  /-- Each entity set has a class. -/
  sets : ∀ m ∈ c.sets, LeadsToClass g (targetName g m.type)
  /-- Each singleton has a class. -/
  singletons : ∀ m ∈ c.singletons, LeadsToClass g (targetName g m.type)
  /-- Each import has an operation. -/
  imports : ∀ i ∈ c.imports, ImportLeads g i

/-- The changes by which the class of a container gets its properties and methods. -/
def IsOffering (g : Graph) (n : Nat) (s : Store) (x : Container) (c : TypeId) (own : List Change) : Prop :=
  ∃ (sets singletons : List Property) (ms : List (Option (QualifiedName × MethodDetail))),
    own = (sets ++ singletons).map (.property c) ++ (ms.filterMap id).map (fun m => .method c m.1 m.2) ∧
      List.Forall₂ (IsMember g n true) x.sets sets ∧
      List.Forall₂ (IsMember g n false) x.singletons singletons ∧
      List.Forall₂ (IsImport g n s) x.imports ms

/-- Some changes fill the class of a container and do nothing else. -/
def Offered (g : Graph) (n : Nat) (s : Store) (x : Container × TypeId) (cs : List Change) : Prop :=
  ∃ own, IsOffering g n s x.1 x.2 own ∧ Logged x.2 own (x.1.imports.flatMap (importNames g)) cs

section Containers

variable {g : Graph} {n : Nat} {ps : List QualifiedName} {d : Draft} {c : TypeId} {collection : Bool}

theorem addMember_yields {m : ContainerMember} (h : Declares g n ps d) :
    (addMember g c collection m).Yields d (LeadsToClass g (targetName g m.type)) fun _ d' =>
      ∃ cs, d' = d.replay cs ∧ ∃ x, IsMember g n collection m x ∧ Logged c [.property c x] [] cs := by
  refine ((resolveClass_yields h).bind fun t d' ht => Build.Yields.of_eq_ok (addProperty_apply _)
    (P := fun _ d'' => ∃ cs, d'' = d.replay cs ∧ ∃ x, IsMember g n collection m x ∧
      Logged c [.property c x] [] cs) ?_).imp (by simp) fun _ _ h => h
  obtain ⟨rfl, ht⟩ := ht
  exact ⟨[.property c _], rfl, _, ⟨t, ht, rfl⟩, .of_owner (by simp [Change.owner?])⟩

theorem members_yields {ms : List ContainerMember} (h : Declares g n ps d) :
    (ms.forM (addMember g c collection)).Yields d (∀ m ∈ ms, LeadsToClass g (targetName g m.type))
      fun _ d' => ∃ cs xs, d' = d.replay cs ∧ List.Forall₂ (IsMember g n collection) ms xs ∧
        Logged c (xs.map (.property c)) (ms.flatMap fun _ => []) cs :=
  addProperties_yields (K := fun _ => IsMember g n collection) (fun _ => []) (fun _ hx => hx)
    addMember_yields h

/-- Some changes make the method of an import, if it has one. -/
def Imported (g : Graph) (n : Nat) (c : TypeId) (s : Store) (i : OperationImport) (cs : List Change) :
    Prop :=
  ∃ m, IsImport g n s i m ∧
    Logged c (m.toList.map fun m => .method c m.1 m.2) (importNames g i) cs

theorem IsImport.mono {s s' : Store} {i : OperationImport} {m : Option (QualifiedName × MethodDetail)}
    (hs : s.Completes s') (h : IsImport g n s i m) : IsImport g n s' i m := by
  obtain ⟨o, ho, hm⟩ := h
  refine ⟨o, ho, ?_⟩
  split at hm
  · next hb => rw [if_pos hb]; exact hm
  · next hb =>
      obtain ⟨x, hx, hmethod⟩ := hm
      rw [if_neg hb]
      exact ⟨x, hx, hmethod.mono hs⟩

theorem addImport_yields {x : Container} {i : OperationImport} (h : Declares g n ps d) :
    (addImport g x c i).Yields d (ImportLeads g i) fun _ d' =>
      ∃ cs, d' = d.replay cs ∧ Imported g n c d'.store i cs := by
  rw [addImport, ImportLeads]
  cases ho : g.operation? i.operation with
  | none => exact Build.Yields.fail.imp (by simp) fun _ _ h => h
  | some o =>
      dsimp only
      by_cases hb : o.bound
      · rw [if_pos hb]
        refine (Build.Yields.pure ⟨[], rfl, none, ⟨o, ho, by rw [if_pos hb]⟩, ?_⟩).imp (by simp [hb])
          fun _ _ h => h
        have hnames : importNames g i = [] := by simp [importNames, ho, hb]
        rw [hnames]
        exact .nil
      · rw [if_neg hb]
        refine (addMethod_yields h).imp (by simp [hb]) ?_
        rintro _ _ ⟨cs, m, rfl, hm, hlogged⟩
        have hnames : importNames g i = signatureNames g o := by simp [importNames, ho, hb]
        refine ⟨cs, rfl, some m, ⟨o, ho, by rw [if_neg hb]; exact ⟨m, rfl, hm⟩⟩, ?_⟩
        rw [hnames]
        exact hlogged

theorem imports_yields {x : Container} {is : List OperationImport} (h : Declares g n ps d) :
    (is.forM (addImport g x c)).Yields d (∀ i ∈ is, ImportLeads g i) fun _ d' => ∃ cs ms,
      d' = d.replay cs ∧ List.Forall₂ (IsImport g n d'.store) is ms ∧
        Logged c ((ms.filterMap id).map fun m => .method c m.1 m.2) (is.flatMap (importNames g)) cs := by
  refine (forM_yields (Q := Imported g n c) (fun hs ⟨m, hm, hl⟩ => ⟨m, hm.mono hs, hl⟩)
    addImport_yields h).imp .rfl ?_
  rintro _ d' ⟨css, hd, hcss⟩
  suffices hms : ∃ ms, List.Forall₂ (IsImport g n d'.store) is ms ∧
      Logged c ((ms.filterMap id).map fun m => .method c m.1 m.2) (is.flatMap (importNames g))
        css.flatten by
    obtain ⟨ms, hall⟩ := hms
    exact ⟨css.flatten, ms, hd, hall⟩
  clear hd
  induction hcss with
  | nil => exact ⟨[], .nil, .nil⟩
  | cons hfirst _ ih =>
      obtain ⟨m, hm, hl⟩ := hfirst
      obtain ⟨ms, hms, hls⟩ := ih
      refine ⟨m :: ms, .cons hm hms, ?_⟩
      have hall := hl.append hls
      cases m with
      | none => exact hall
      | some m => exact hall

/-- Filling the class of a container succeeds exactly if all its references lead somewhere. -/
theorem fillContainer_yields {x : Container} (h : Declares g n ps d) :
    (fillContainer g x c).Yields d (ContainerLeads g x) fun _ d' =>
      ∃ cs, d' = d.replay cs ∧ Offered g n d'.store (x, c) cs := by
  have hconditions : ((∀ m ∈ x.sets, LeadsToClass g (targetName g m.type)) ∧
      (∀ m ∈ x.singletons, LeadsToClass g (targetName g m.type)) ∧
      ∀ i ∈ x.imports, ImportLeads g i) ↔ ContainerLeads g x :=
    ⟨fun ⟨hs, ht, hi⟩ => ⟨hs, ht, hi⟩, fun h => ⟨h.sets, h.singletons, h.imports⟩⟩
  rw [← hconditions, fillContainer]
  refine (members_yields h).bind fun _ d₁ h₁ => ?_
  obtain ⟨cs, sets, rfl, hsets, hlogged⟩ := h₁
  refine (members_yields (h.replay cs)).bind fun _ d₂ h₂ => ?_
  obtain ⟨cs', singletons, rfl, hsingletons, hlogged'⟩ := h₂
  refine (imports_yields ((h.replay cs).replay cs')).imp .rfl fun _ d₃ h₃ => ?_
  obtain ⟨cs'', ms, rfl, hms, hlogged''⟩ := h₃
  refine ⟨cs ++ (cs' ++ cs''), by rw [Draft.replay_append, Draft.replay_append], _,
    ⟨sets, singletons, ms, rfl, hsets, hsingletons, hms⟩, ?_⟩
  simpa using hlogged.append (hlogged'.append hlogged'')

end Containers

end EntityModel.Compilation
