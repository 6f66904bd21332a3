import EntityModel.Proofs.Compilation.Stage

/-!
# Operations become methods

A method has the signature of its operation, with each reference replaced by the type that it means. A bound
operation with a first parameter becomes a method of the class of that parameter. An import becomes a method of
its container's class unless the operation found under its name is bound. Making a method succeeds exactly if all
references of the signature lead to types.
-/

namespace EntityModel.Compilation

open CodeModel
open Edm (Graph Operation OperationImport)

/-! ## Signatures -/

/-- The parameter of a method that a parameter of an operation becomes. -/
def IsParameter (g : Graph) (n : Nat) (s : Store) (p : Edm.Parameter) (q : Parameter) : Prop :=
  ∃ t, Means g n s (targetName g p.type) t ∧
    q = { name := p.name, type := t, collection := p.collection, nullable := p.nullable }

/-- The name of the type that a result as written refers to. -/
def resultName (g : Graph) (reference : String) : QualifiedName :=
  targetName g (TypeReference.ofText reference).element

/-- The result of an operation is a collection. -/
def returnsCollection (o : Operation) : Bool :=
  ((given o.returns).map fun r => (TypeReference.ofText r).collection).getD false

/-- The method that an operation becomes under a name; an empty name leaves that of the operation. -/
def IsMethod (g : Graph) (n : Nat) (s : Store) (o : Operation) (name : String)
    (m : QualifiedName × MethodDetail) : Prop :=
  ∃ (returns : Option TypeId) (parameters : List Parameter),
    Option.Rel (fun r t => Means g n s (resultName g r) t) (given o.returns) returns ∧
      List.Forall₂ (IsParameter g n s) (methodParameters o) parameters ∧
      m = (⟨o.name.space, if name = "" then o.name.name else name⟩,
        { parameters, returns, collection := returnsCollection o, bound := o.bound,
          composable := o.composable, verbs := methodVerb o })

/-- The references of a signature all lead to types. -/
structure SignatureLeads (g : Graph) (o : Operation) : Prop where
  /-- The result has a type. -/
  returns : ∀ r ∈ given o.returns, LeadsToType g (resultName g r)
  /-- Each parameter has a type. -/
  parameters : ∀ p ∈ methodParameters o, LeadsToType g (targetName g p.type)

/-- The names that a signature refers to. -/
def signatureNames (g : Graph) (o : Operation) : List QualifiedName :=
  (given o.returns).toList.map (resultName g) ++ (methodParameters o).map fun p => targetName g p.type

section Mono

variable {g : Graph} {n : Nat} {s s' : Store} {o : Operation} {name : String}

theorem IsParameter.mono {p : Edm.Parameter} {q : Parameter} (hs : s.Completes s')
    (h : IsParameter g n s p q) : IsParameter g n s' p q := by
  obtain ⟨t, ht, rfl⟩ := h
  exact ⟨t, ht.mono hs, rfl⟩

theorem IsMethod.mono {m : QualifiedName × MethodDetail} (hs : s.Completes s')
    (h : IsMethod g n s o name m) : IsMethod g n s' o name m := by
  obtain ⟨returns, parameters, hreturns, hparameters, rfl⟩ := h
  exact ⟨returns, parameters, Alignment.option_imp hreturns fun _ _ hr => hr.mono hs,
    hparameters.imp fun _ _ hp => hp.mono hs, rfl⟩

end Mono

section Methods

variable {g : Graph} {n : Nat} {ps : List QualifiedName} {d : Draft} {o : Operation} {c : TypeId}
variable {name : String}

theorem resultType_yields (h : Declares g n ps d) :
    (resultType g o).Yields d (∀ r ∈ given o.returns, LeadsToType g (resultName g r)) fun r d' =>
      ∃ cs, d' = d.replay cs ∧ r.2 = returnsCollection o ∧
        Option.Rel (fun r t => Means g n d'.store (resultName g r) t) (given o.returns) r.1 ∧
        Logged c [] ((given o.returns).toList.map (resultName g)) cs := by
  rw [resultType, returnsCollection]
  cases given o.returns with
  | none => exact (Build.Yields.pure ⟨[], rfl, rfl, .none, .nil⟩).imp (by simp) fun _ _ h => h
  | some r =>
      refine ((resolve_yields h).bind fun t d' ht => Build.Yields.pure
        (a := (some t, (TypeReference.ofText r).collection)) ?_).imp (by simp [resultName])
        fun _ _ h => h
      obtain ⟨rfl, ht⟩ := ht
      refine ⟨[.refer (resultName g r)], rfl, ?_, .some ht, .refer _⟩
      rw [Option.map_some, Option.getD_some]

theorem methodParameter_yields {p : Edm.Parameter} (h : Declares g n ps d) :
    (methodParameter g o p).Yields d (LeadsToType g (targetName g p.type)) fun q d' =>
      d' = d.apply (.refer (targetName g p.type)) ∧ IsParameter g n d'.store p q := by
  rw [← and_true (LeadsToType g (targetName g p.type)), methodParameter]
  refine (resolve_yields h).bind fun t d' ht => Build.Yields.pure ?_
  exact ⟨ht.1, t, ht.2, rfl⟩

theorem parameters_yields {as : List Edm.Parameter} (h : Declares g n ps d) :
    (as.mapM (methodParameter g o)).Yields d (∀ p ∈ as, LeadsToType g (targetName g p.type))
      fun qs d' => ∃ cs, d' = d.replay cs ∧ List.Forall₂ (IsParameter g n d'.store) as qs ∧
        Logged c [] (as.map fun p => targetName g p.type) cs := by
  let I : List Edm.Parameter → List Parameter → Draft → Prop := fun pre qs d' =>
    ∃ cs, d' = d.replay cs ∧ List.Forall₂ (IsParameter g n d'.store) pre qs ∧
      Logged c [] (pre.map fun p => targetName g p.type) cs
  have hnone : I [] [] d := ⟨[], rfl, .nil, .nil⟩
  suffices hstep : ∀ pre qs p d, p ∈ as → I pre qs d →
      (methodParameter g o p).Yields d (LeadsToType g (targetName g p.type))
        fun q d' => I (pre ++ [p]) (qs ++ [q]) d' from Build.Yields.mapM_mem hstep hnone
  rintro pre qs p _ - ⟨cs, rfl, hqs, hlogged⟩
  refine (methodParameter_yields (h.replay cs)).imp .rfl ?_
  rintro q _ ⟨rfl, hq⟩
  refine ⟨cs ++ [.refer _], by rw [Draft.replay_append]; rfl, List.rel_append ?_ (.cons hq .nil), ?_⟩
  · exact hqs.imp fun _ _ hq => hq.mono (Draft.completes_apply _)
  · simpa using hlogged.append (.refer (targetName g p.type))

theorem createMethod_apply (m : QualifiedName) (x : MethodDetail) :
    (Build.create ⟨m, .method x⟩ >>= fun t => Build.edit fun s => s.attachMethod c t) d =
      .ok ((), d.apply (.method c m x)) := by
  rw [Draft.apply, ← Store.attachMethod_addType]
  rfl

/-- Adding a method succeeds exactly if its signature leads to types. -/
theorem addMethod_yields (h : Declares g n ps d) :
    (addMethod g c o name).Yields d (SignatureLeads g o) fun _ d' => ∃ cs m, d' = d.replay cs ∧
      IsMethod g n d'.store o name m ∧ Logged c [.method c m.1 m.2] (signatureNames g o) cs := by
  have hconditions : ((∀ r ∈ given o.returns, LeadsToType g (resultName g r)) ∧
      ∀ p ∈ methodParameters o, LeadsToType g (targetName g p.type)) ↔ SignatureLeads g o :=
    ⟨fun ⟨hr, hp⟩ => ⟨hr, hp⟩, fun h => ⟨h.returns, h.parameters⟩⟩
  rw [← hconditions, ← and_true (∀ p ∈ methodParameters o, _), addMethod, makeMethod]
  simp only [bind_assoc]
  refine (resultType_yields (c := c) h).bind fun r d₁ h₁ => ?_
  obtain ⟨cs, rfl, hcollection, hreturns, hlogged⟩ := h₁
  refine (parameters_yields (c := c) (h.replay cs)).bind fun qs d₂ h₂ => ?_
  obtain ⟨cs', rfl, hqs, hlogged'⟩ := h₂
  obtain ⟨returns, collection⟩ := r
  obtain rfl : collection = returnsCollection o := hcollection
  let m : QualifiedName × MethodDetail :=
    (⟨o.name.space, if name = "" then o.name.name else name⟩,
      { parameters := qs, returns, collection := returnsCollection o, bound := o.bound,
        composable := o.composable, verbs := methodVerb o })
  refine Build.Yields.of_eq_ok (createMethod_apply m.1 m.2) ⟨cs ++ (cs' ++ [.method c m.1 m.2]), m, ?_,
    ⟨returns, qs, Alignment.option_imp hreturns fun _ _ hr => ?_, ?_, rfl⟩, ?_⟩
  · simp [Draft.replay_append]
  · exact (hr.mono Draft.completes_replay).mono (Draft.completes_apply _)
  · exact hqs.imp fun _ _ hq => hq.mono (Draft.completes_apply _)
  · have hmethod : Logged c [.method c m.1 m.2] [] [.method c m.1 m.2] :=
      .of_owner (by simp [Change.owner?])
    simpa [signatureNames] using hlogged.append (hlogged'.append hmethod)

/-! ## Bound operations -/

/-- Some changes attach a bound operation to the class of its first parameter; without one there are none. -/
def Bound (g : Graph) (n : Nat) (s : Store) (o : Operation) (cs : List Change) : Prop :=
  match o.binding? with
  | none => cs = []
  | some p => ∃ c m, place? g n (targetName g p.type) = some c ∧ IsMethod g n s o "" m ∧
      Logged c [.method c m.1 m.2] (signatureNames g o) cs

/-- If an operation is bound to a parameter, that has a class, and the signature leads to types. -/
def BoundLeads (g : Graph) (o : Operation) : Prop :=
  ∀ p ∈ o.binding?, LeadsToClass g (targetName g p.type) ∧ SignatureLeads g o

theorem Bound.mono {s s' : Store} {cs : List Change} (hs : s.Completes s') (h : Bound g n s o cs) :
    Bound g n s' o cs := by
  unfold Bound at *
  split at h
  · exact h
  · obtain ⟨c, m, hc, hm, hlogged⟩ := h
    exact ⟨c, m, hc, hm.mono hs, hlogged⟩

/-- Bound operations give no base and no property. -/
theorem Bound.forall_mem {s : Store} {cs : List Change} (h : Bound g n s o cs) :
    ∀ y ∈ cs, y.base? = none ∧ y.property? = none := by
  unfold Bound at h
  split at h
  · rw [h]
    simp
  · obtain ⟨c, m, -, -, hlogged⟩ := h
    exact hlogged.forall_mem (fun _ => ⟨rfl, rfl⟩) (by simp [Change.base?, Change.property?])

theorem addBound_yields (h : Declares g n ps d) :
    (addBound g o).Yields d (BoundLeads g o) fun _ d' =>
      ∃ cs, d' = d.replay cs ∧ Bound g n d'.store o cs := by
  rw [addBound, BoundLeads]
  cases hb : o.binding? with
  | none => exact (Build.Yields.pure ⟨[], rfl, by rw [Bound, hb]⟩).imp (by simp) fun _ _ h => h
  | some p =>
      have hrun : (resolveClass g p.type o.name.dotted >>= fun c => addMethod g c o "").Yields d
          (LeadsToClass g (targetName g p.type) ∧ SignatureLeads g o) fun _ d' =>
            ∃ cs, d' = d.replay cs ∧ Bound g n d'.store o cs := by
        refine (resolveClass_yields h).bind fun c d' hc => ?_
        obtain ⟨rfl, hc⟩ := hc
        refine (addMethod_yields h).imp .rfl ?_
        rintro _ _ ⟨cs, m, rfl, hm, hlogged⟩
        exact ⟨cs, rfl, by rw [Bound, hb]; exact ⟨c, m, hc, hm, hlogged⟩⟩
      exact hrun.imp (by simp) fun _ _ h => h

end Methods

end EntityModel.Compilation
