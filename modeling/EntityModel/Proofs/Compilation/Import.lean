import EntityModel.Proofs.Compilation.Service

/-!
# Imports of operations

The methods of a service class are those of the operations bound to it, and behind them those that its container
imports. Each import looks for the first operation with the name it gives. If that one is bound, the import adds
nothing; otherwise it adds one method with the signature of that operation (`methods_of_container`). So where an
operation is overloaded and a bound overload is declared first, no import makes a method of the unbound one
(`methods_of_overloaded`).
-/

namespace EntityModel.Compilation

open CodeModel
open Edm (Graph Operation OperationImport Container Schema StructuredType)

section Imports

variable {g : Graph} {n : Nat} {s s' : Store} {d : Draft} {c : TypeId} {x : Container}

/-- Methods are seen in the types of a store alone. -/
theorem IsMethodOf.of_types (h : s'.types = s.types) {o : Operation × String} {t : TypeId}
    (hm : IsMethodOf g n s c o t) : IsMethodOf g n s' c o t := by
  obtain ⟨types, properties⟩ := s
  obtain ⟨types', properties'⟩ := s'
  dsimp only at h
  subst h
  exact hm

/-- Every import of a built graph finds an operation. -/
theorem Built.exists_operation (h : Built g s d) (hx : (x, c) ∈ containersOf (placed g s.types.length))
    {i : OperationImport} (hi : i ∈ x.imports) : ∃ o, g.operation? i.operation = some o := by
  obtain ⟨fs, bs, es, -, -, -, hes⟩ := h
  obtain ⟨cs, -, own, ⟨sets, singletons, ms, -, -, -, hms⟩, -⟩ := Alignment.exists_of_mem_left hes hx
  obtain ⟨m, -, o, ho, -⟩ := Alignment.exists_of_mem_left hms hi
  exact ⟨o, ho⟩

/-- What is made for the imports whose operation is not bound is what each of them adds. -/
theorem exists_added {Q : Operation × String → TypeId → Prop} {is : List OperationImport} {ts : List TypeId}
    (hfound : ∀ i ∈ is, ∃ o, g.operation? i.operation = some o)
    (h : List.Forall₂ Q (is.filterMap fun i =>
      ((g.operation? i.operation).filter fun o => !o.bound).map (·, i.name)) ts) :
    ∃ added : List (Option TypeId), ts = added.filterMap id ∧
      List.Forall₂ (fun i t => ∃ o, g.operation? i.operation = some o ∧ (t = none ↔ o.bound = true) ∧
        ∀ u ∈ t, Q (o, i.name) u) is added := by
  induction is generalizing ts with
  | nil =>
      cases h
      exact ⟨[], rfl, .nil⟩
  | cons i is ih =>
      obtain ⟨o, ho⟩ := hfound i List.mem_cons_self
      have hrest := fun j hj => hfound j (List.mem_cons_of_mem _ hj)
      rw [List.filterMap_cons, ho] at h
      by_cases hb : o.bound
      · have hnone : (some o).filter (fun o => !o.bound) = none := by simp [Option.filter, hb]
        rw [hnone] at h
        obtain ⟨added, rfl, hadded⟩ := ih hrest h
        exact ⟨none :: added, rfl, .cons ⟨o, ho, by simp [hb], by simp⟩ hadded⟩
      · have hsome : (some o).filter (fun o => !o.bound) = some o := by simp [Option.filter, hb]
        rw [hsome] at h
        cases h with
        | @cons _ t _ ts hq hqs =>
            obtain ⟨added, rfl, hadded⟩ := ih hrest hqs
            refine ⟨some t :: added, rfl, .cons ⟨o, ho, by simp [hb], ?_⟩ hadded⟩
            intro u hu
            obtain rfl := Option.some.inj hu
            exact hq

/-- A service class has a method for each operation bound to it, and then for each import of its container one
with the signature of the operation found first, unless that operation is bound. -/
theorem methods_of_container {settings : Settings} {vocabulary : Option SourceFile}
    {metadata : Table String String} {r : Compiled}
    (h : compileGraph settings vocabulary metadata s g = .ok r)
    (hx : (x, c) ∈ g.containers.zip (r.model.registry.types.filter (Model.isService r.store))) :
    ∃ k own added, r.store.class? c = some k ∧ k.methods = own ++ added.filterMap id ∧
      List.Forall₂ (IsMethodOf g s.types.length r.store c) ((boundTo g s.types.length c).map (·, "")) own ∧
      List.Forall₂ (fun i t => ∃ o, g.operation? i.operation = some o ∧ (t = none ↔ o.bound = true) ∧
        ∀ u ∈ t, IsMethodOf g s.types.length r.store c (o, i.name) u) x.imports added := by
  obtain ⟨d, terms, hpassed⟩ := compileGraph_eq_ok_iff.1 h
  obtain ⟨-, hbuilt⟩ := build_post hpassed.built
  have htypes := types_of_restrict hpassed.restricted
  rw [hpassed.zip_services] at hx
  obtain ⟨k, hk⟩ := hbuilt.shows (placed_of_containersOf hx)
  obtain ⟨own, imported, hmethods, hown, himported⟩ := Alignment.exists_append hk.methods
  obtain ⟨added, rfl, hadded⟩ := exists_added (fun i hi => hbuilt.exists_operation hx hi) himported
  have hclass : r.store.class? c = some k := by
    rw [Store.class?, Store.type?, htypes, ← Store.type?, hk.type?]
    rfl
  refine ⟨k, own, added, hclass, hmethods, hown.imp fun o t ho => ho.of_types htypes, hadded.imp ?_⟩
  rintro i t ⟨o, ho, hnone, hq⟩
  exact ⟨o, ho, hnone, fun u hu => (hq u hu).of_types htypes⟩

end Imports

/-! ## An overloaded operation -/

/-- The type of some items. -/
def itemType : StructuredType :=
  { name := ⟨"NS", "Item"⟩, kind := .entity, key := ["ID"],
    properties := [{ name := "ID", type := "Edm.Int32" }] }

/-- The number of parts of an item. -/
def countOfItem : Operation :=
  { name := ⟨"NS", "Count"⟩, kind := .function, bound := true,
    parameters := [{ name := "item", type := "NS.Item" }], returns := some "Edm.Int32" }

/-- The number of parts of all items, under the same name. -/
def countOfAll : Operation :=
  { name := ⟨"NS", "Count"⟩, kind := .function, returns := some "Edm.Int32" }

/-- A container that imports the number of parts. -/
def countService : Container :=
  { name := ⟨"NS", "Service"⟩,
    imports := [{ name := "Count", operation := "NS.Count", kind := .function }] }

/-- The graph with some overloads. -/
def overloadGraph (operations : List Operation) : Graph :=
  { schemas := [{ space := "NS", entities := [itemType], operations, containers := [countService] }] }

/-- Without the bound overload the import adds a method. -/
theorem methods_of_single :
    ∃ r, compileGraph {} none [] {} (overloadGraph [countOfAll]) = .ok r ∧
      (countService, ⟨1⟩) ∈ (overloadGraph [countOfAll]).containers.zip
        (r.model.registry.types.filter (Model.isService r.store)) ∧
      ∃ k own added, r.store.class? ⟨1⟩ = some k ∧ k.methods = own ++ added.filterMap id ∧
        List.Forall₂ (IsMethodOf (overloadGraph [countOfAll]) ({} : Store).types.length r.store ⟨1⟩)
          ((boundTo (overloadGraph [countOfAll]) ({} : Store).types.length ⟨1⟩).map (·, "")) own ∧
        List.Forall₂ (fun i t => ∃ o, (overloadGraph [countOfAll]).operation? i.operation = some o ∧
          (t = none ↔ o.bound = true) ∧
          ∀ u ∈ t, IsMethodOf (overloadGraph [countOfAll]) ({} : Store).types.length r.store ⟨1⟩
            (o, i.name) u)
          countService.imports added := by
  have hcompiles : (compileGraph {} none [] {} (overloadGraph [countOfAll])).toOption.any (fun r =>
      (countService, ⟨1⟩) ∈ (overloadGraph [countOfAll]).containers.zip
        (r.model.registry.types.filter (Model.isService r.store))) = true := by decide +kernel
  obtain ⟨r, hr, hservice⟩ := exists_of_any_toOption hcompiles
  rw [decide_eq_true_iff] at hservice
  exact ⟨r, hr, hservice, methods_of_container hr hservice⟩

/-- Behind a bound overload no import makes a method of the operation that is not bound. -/
theorem methods_of_overloaded :
    ∃ r, compileGraph {} none [] {} (overloadGraph [countOfItem, countOfAll]) = .ok r ∧
      (∃ i ∈ countService.imports, ∃ o ∈ (overloadGraph [countOfItem, countOfAll]).operations,
        o.name.dotted = i.operation ∧ o.bound = false) ∧
      ∀ c ∈ r.model.registry.types.filter (Model.isService r.store),
        (r.store.class? c).map (·.methods) = some [] := by
  have hcompiles : (compileGraph {} none [] {} (overloadGraph [countOfItem, countOfAll])).toOption.any
      (fun r => (r.model.registry.types.filter (Model.isService r.store)).all fun c =>
        (r.store.class? c).map (·.methods) = some []) = true := by decide +kernel
  obtain ⟨r, hr, hmethods⟩ := exists_of_any_toOption hcompiles
  exact ⟨r, hr, by decide, by simpa [Classical.or_iff_not_imp_left] using hmethods⟩

end EntityModel.Compilation
