import EntityModel.Proofs.CodeModel.Registry

/-!
# Registering types

A type is registered under the name that it has in a store. Whatever has been registered, in whatever order and
however often, the registry *records* it: the list of all types, the namespaces and the index agree with each
other and with the history. Under one name always the first type is found, or nothing if it is of another variant;
so what a registered name finds is settled once and for all (`records_registerAll`).
-/

namespace EntityModel.QualifiedName

/-- A full name is cut into what it was made of, if the name has no dot of its own. The namespace may have any
number of dots, and it may be empty. -/
theorem ofText_full {n : QualifiedName} (h : '.' ∉ n.name.toList) : ofText n.full = n := by
  by_cases hspace : n.space = ""
  · obtain ⟨space, name⟩ := n
    obtain rfl : space = "" := hspace
    rw [full, if_pos rfl, ofText, Text.cutLast_eq_none_of_notMem h]
  · rw [full_of_space_ne hspace, ofText_dotted h]

end EntityModel.QualifiedName

namespace EntityModel.CodeModel.Registry

/-- Some types of a store with their names. -/
def named (s : Store) (ts : List TypeId) : History := ts.map fun t => (s.nameOf t, t)

/-- The registry in which some types of a store have been registered one after another. -/
def registerAll (s : Store) (ts : List TypeId) : Registry := ts.foldl (fun r t => r.add (s.nameOf t) t) {}

/-- The namespace of a type. -/
def spaceOf (s : Store) (t : TypeId) : String := (s.nameOf t).space

/-- The first of some types that has a name. -/
def firstNamed? (s : Store) (ts : List TypeId) (name : QualifiedName) : Option TypeId :=
  ts.find? fun t => s.nameOf t = name

/-- A registry records that some types have been registered, in this order. -/
structure Records (s : Store) (ts : List TypeId) (r : Registry) : Prop where
  /-- All types are there, in the order of registration. -/
  types : r.types = ts
  /-- There is one namespace for each that occurs. -/
  spaces : ∀ space, space ∈ r.namespaces.map (·.name) ↔ ∃ t ∈ ts, spaceOf s t = space
  nodup : (r.namespaces.map (·.name)).Nodup
  /-- The namespaces stand in the order of their first types. -/
  order : (r.namespaces.map (·.name)).Pairwise fun a b => (ts.map (spaceOf s)).idxOf a < (ts.map (spaceOf s)).idxOf b
  /-- A namespace has those of all types that are in it. -/
  members : ∀ n ∈ r.namespaces, n.types = r.types.filter fun t => spaceOf s t = n.name
  /-- Under a name the first type is found, if it is of the variant. -/
  resolve? : ∀ name v, r.resolve? s name v = (firstNamed? s ts name).filter (s.isOf v)
  /-- Under its full name a type is looked up as under its name. -/
  resolveFull? : ∀ t ∈ ts, '.' ∉ (s.nameOf t).name.toList → ∀ v,
    r.resolveFull? s (s.fullName t) v = r.resolve? s (s.nameOf t) v

section Registrations

variable {s : Store} {ts more : List TypeId} {name : QualifiedName}

theorem registerAll_eq (s : Store) (ts : List TypeId) : registerAll s ts = ofHistory (named s ts) := by
  rw [registerAll, ofHistory, addAll, named, List.foldl_map]

theorem map_space_named (s : Store) (ts : List TypeId) : (named s ts).map (·.1.space) = ts.map (spaceOf s) := by
  rw [named, List.map_map]
  rfl

theorem lookup_named (s : Store) (ts : List TypeId) (name : QualifiedName) :
    (named s ts).lookup name = firstNamed? s ts name := by
  induction ts with
  | nil => rfl
  | cons t ts ih =>
      rw [named, List.map_cons, List.lookup_cons, firstNamed?, List.find?_cons]
      by_cases ht : s.nameOf t = name
      · simp [ht]
      · have hne : (name == s.nameOf t) = false := by simpa using Ne.symm ht
        simp only [hne, ht, decide_false]
        exact ih

theorem inSpace_named (s : Store) (ts : List TypeId) (space : String) :
    inSpace (named s ts) space = ts.filter fun t => spaceOf s t = space := by
  rw [inSpace, named, List.filter_map, List.map_map]
  exact List.map_id' _

theorem map_name_namespaces (s : Store) (ts : List TypeId) :
    (registerAll s ts).namespaces.map (·.name) = Registry.spaces (named s ts) := by
  rw [registerAll_eq, namespaces_ofHistory, List.map_map]
  exact List.map_id' _

theorem resolve?_registerAll (s : Store) (ts : List TypeId) (name : QualifiedName) (v : Variant) :
    (registerAll s ts).resolve? s name v = (firstNamed? s ts name).filter (s.isOf v) := by
  rw [resolve?, registerAll_eq, lookup_index_ofHistory, lookup_named]

/-- What is registered later does not come first. -/
theorem firstNamed?_append (h : ∃ t ∈ ts, s.nameOf t = name) :
    firstNamed? s (ts ++ more) name = firstNamed? s ts name := by
  obtain ⟨t, ht, hname⟩ := h
  have hfound : (firstNamed? s ts name).isSome := by
    rw [firstNamed?, List.find?_isSome]
    exact ⟨t, ht, by simpa using hname⟩
  obtain ⟨u, hu⟩ := Option.isSome_iff_exists.1 hfound
  rw [firstNamed?, List.find?_append, ← firstNamed?, hu, Option.some_or]

end Registrations

/-- A registry records its history, and what a registered name finds stays, whatever is registered later. -/
theorem records_registerAll (s : Store) (ts : List TypeId) :
    Records s ts (registerAll s ts) ∧
      ∀ (more : List TypeId) (name : QualifiedName), (∃ t ∈ ts, s.nameOf t = name) → ∀ v,
        (registerAll s (ts ++ more)).resolve? s name v = (registerAll s ts).resolve? s name v := by
  refine ⟨?_, ?_⟩
  · constructor
    case types =>
      rw [registerAll_eq, types_ofHistory, named, List.map_map]
      exact List.map_id' _
    case spaces =>
      intro space
      rw [map_name_namespaces, mem_spaces]
      simp [named, spaceOf]
    case nodup =>
      rw [map_name_namespaces]
      exact nodup_spaces _
    case order =>
      rw [map_name_namespaces, ← map_space_named]
      exact pairwise_spaces _
    case members =>
      intro n hn
      rw [registerAll_eq, namespaces_ofHistory] at hn
      obtain ⟨space, -, rfl⟩ := List.mem_map.1 hn
      rw [inSpace_named, registerAll_eq, types_ofHistory, named, List.map_map]
      exact congrArg (List.filter _) (List.map_id' ts).symm
    case resolve? =>
      intro name v
      exact resolve?_registerAll s ts name v
    case resolveFull? =>
      intro t _ hdot v
      rw [Registry.resolveFull?, Store.fullName, QualifiedName.ofText_full hdot]
  · intro more name hname v
    rw [resolve?_registerAll, resolve?_registerAll, firstNamed?_append hname]

/-! ## Types under one name -/

/-- A class and an enumeration under one name in a namespace with dots, a primitive type without a namespace, and an
enumeration. -/
def crowdedStore : Store :=
  { types := [⟨⟨"A.B", "T"⟩, .structured {}⟩,
      ⟨⟨"A.B", "T"⟩, .structured { kind := .enum, enumeration := some {} }⟩,
      ⟨⟨"", "T"⟩, .primitive⟩,
      ⟨⟨"A", "U"⟩, .structured { kind := .enum, enumeration := some {} }⟩] }

/-- A history in which types come again. -/
def crowdedHistory : List TypeId := [⟨0⟩, ⟨1⟩, ⟨2⟩, ⟨0⟩, ⟨3⟩]

/-- The class that came first hides the enumeration with its name, also after that has been registered once more; a type
without a namespace is found under its name alone, and an enumeration is found as a class. -/
theorem records_of_crowded :
    (∃ t ∈ crowdedHistory, crowdedStore.nameOf t = ⟨"A.B", "T"⟩) ∧
      (∀ t ∈ crowdedHistory, '.' ∉ (crowdedStore.nameOf t).name.toList) ∧
      Records crowdedStore crowdedHistory (registerAll crowdedStore crowdedHistory) ∧
      (registerAll crowdedStore (crowdedHistory ++ [⟨1⟩])).resolve? crowdedStore ⟨"A.B", "T"⟩ .enum = none ∧
      (registerAll crowdedStore crowdedHistory).resolveFull? crowdedStore "T" .type = some ⟨2⟩ ∧
      (registerAll crowdedStore crowdedHistory).resolveFull? crowdedStore "A.U" .structured = some ⟨3⟩ := by
  have hname : ∃ t ∈ crowdedHistory, crowdedStore.nameOf t = ⟨"A.B", "T"⟩ := by decide
  have hdots : ∀ t ∈ crowdedHistory, '.' ∉ (crowdedStore.nameOf t).name.toList := by decide
  obtain ⟨hrecords, hsettled⟩ := records_registerAll crowdedStore crowdedHistory
  refine ⟨hname, hdots, hrecords, ?_, ?_, ?_⟩
  · rw [hsettled _ _ hname, hrecords.resolve?]
    decide
  · rw [show "T" = crowdedStore.fullName ⟨2⟩ by decide,
      hrecords.resolveFull? ⟨2⟩ (by decide) (hdots _ (by decide)), hrecords.resolve?]
    decide
  · rw [show "A.U" = crowdedStore.fullName ⟨3⟩ by decide,
      hrecords.resolveFull? ⟨3⟩ (by decide) (hdots _ (by decide)), hrecords.resolve?]
    decide

end EntityModel.CodeModel.Registry
