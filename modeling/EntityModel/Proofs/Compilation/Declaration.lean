import EntityModel.Compilation.Operations
import EntityModel.Proofs.CodeModel.Registry
import EntityModel.Proofs.Compilation.Yield
import Mathlib.Data.List.Nodup

/-!
# Declaring the classes of a graph

Enumerations, structured types and containers are *declarations*: each becomes a class of its own. The classes
stand behind the store that was there, one for each declaration and in the same order, and this is also the
history of the registry. So where the class of a declaration stands is known before anything else is compiled:
`placed` pairs each declaration with its place.
-/

namespace EntityModel.Compilation

open CodeModel
open Edm (Graph Schema StructuredType EnumType Container NamedType)

/-! ## Declarations -/

/-- What a schema declares as a class. -/
inductive Declaration where
  /-- An enumeration or a structured type. -/
  | type (t : NamedType)
  | container (c : Container)
  deriving DecidableEq

namespace Declaration

/-- Its name. -/
def name : Declaration → QualifiedName
  | type t => t.name
  | container c => c.name

/-- Its class, without members. -/
def detail : Declaration → ClassDetail
  | type (.enum t) => enumClass t
  | type (.structured t) => structuredClass t
  | container _ => serviceClass

theorem base_detail (x : Declaration) : x.detail.base = none := by
  rcases x with (t | t) | c <;> rfl

theorem key_detail (x : Declaration) : x.detail.key = [] := by
  rcases x with (t | t) | c <;> rfl

theorem properties_detail (x : Declaration) : x.detail.properties = [] := by
  rcases x with (t | t) | c <;> rfl

theorem methods_detail (x : Declaration) : x.detail.methods = [] := by
  rcases x with (t | t) | c <;> rfl

/-- Its class with its name. -/
def entry (x : Declaration) : TypeEntry := ⟨x.name, .structured x.detail⟩

/-- The structured type, if it is one. -/
def structured? : Declaration → Option StructuredType
  | type (.structured t) => some t
  | _ => none

/-- The class that it extends, as written. -/
def base? : Declaration → Option String
  | type (.structured t) => given t.base
  | _ => none

/-- The type, if it is one. -/
def type? : Declaration → Option NamedType
  | type t => some t
  | container _ => none

/-- The container, if it is one. -/
def container? : Declaration → Option Container
  | container c => some c
  | _ => none

/-- Only containers become service classes. -/
theorem kind_detail_iff (x : Declaration) : x.detail.kind = .service ↔ x.container?.isSome := by
  rcases x with (t | t) | c
  · simp [detail, container?, enumClass]
  · have hne : structuredKind t ≠ .service := by
      unfold structuredKind
      split
      · decide
      · split <;> decide
    simp [detail, container?, structuredClass, hne]
  · simp [detail, container?, serviceClass]

theorem container?_of_structured? {x : Declaration} {t : StructuredType} (h : x.structured? = some t) :
    x.container? = none := by
  rcases x with (t' | t') | c
  · rfl
  · rfl
  · cases h

end Declaration

/-- What a schema declares. -/
def declarationsOf (s : Schema) : List Declaration :=
  s.types.map .type ++ s.containers.map .container

/-- What a graph declares. -/
def declarations (g : Graph) : List Declaration := g.schemas.flatMap declarationsOf

/-! ## Places -/

/-- Declarations with consecutive places. -/
def placedFrom (n : Nat) (xs : List Declaration) : List (Declaration × TypeId) :=
  (xs.zipIdx n).map fun x => (x.1, ⟨x.2⟩)

/-- The declarations of a graph with the places of their classes behind a number of types. -/
def placed (g : Graph) (n : Nat) : List (Declaration × TypeId) := placedFrom n (declarations g)

/-- The history of a registry in which some declarations have been registered. -/
def historyOf (xs : List (Declaration × TypeId)) : Registry.History :=
  xs.map fun x => (x.1.name, x.2)

/-- What is selected among some declarations, with the places. -/
def select {α : Type} (f : Declaration → Option α) (xs : List (Declaration × TypeId)) : List (α × TypeId) :=
  xs.filterMap fun x => (f x.1).map (·, x.2)

/-- The structured types among some declarations. -/
abbrev structuredOf (xs : List (Declaration × TypeId)) : List (StructuredType × TypeId) :=
  select Declaration.structured? xs

/-- The containers among some declarations. -/
abbrev containersOf (xs : List (Declaration × TypeId)) : List (Container × TypeId) :=
  select Declaration.container? xs

section Places

variable {n : Nat} {xs ys : List Declaration} {x : Declaration × TypeId}

@[simp] theorem placedFrom_nil : placedFrom n [] = [] := rfl

@[simp] theorem placedFrom_cons (x : Declaration) :
    placedFrom n (x :: xs) = (x, ⟨n⟩) :: placedFrom (n + 1) xs := by
  simp [placedFrom]

theorem placedFrom_append :
    placedFrom n (xs ++ ys) = placedFrom n xs ++ placedFrom (n + xs.length) ys := by
  simp [placedFrom, List.zipIdx_append]

theorem map_fst_placedFrom : (placedFrom n xs).map (·.1) = xs := by
  induction xs generalizing n with
  | nil => rfl
  | cons x xs ih => simp [ih]

/-- A declaration has its place by its position. -/
theorem mem_placedFrom :
    x ∈ placedFrom n xs ↔ n ≤ x.2.index ∧ xs[x.2.index - n]? = some x.1 := by
  obtain ⟨x, ⟨t⟩⟩ := x
  simp only [placedFrom, List.mem_map, Prod.exists, List.mem_zipIdx_iff_le_and_getElem?_sub,
    Prod.mk.injEq, TypeId.mk.injEq]
  constructor
  · rintro ⟨y, k, h, rfl, rfl⟩
    exact h
  · intro h
    exact ⟨x, t, h, rfl, rfl⟩

theorem mem_of_mem_placedFrom {y : Declaration} {t : TypeId} (h : (y, t) ∈ placedFrom n xs) : y ∈ xs := by
  have hmem : y ∈ (placedFrom n xs).map (·.1) := List.mem_map_of_mem h
  rwa [map_fst_placedFrom] at hmem

/-- One place belongs to one declaration. -/
theorem placedFrom_unique {x y : Declaration} {t : TypeId} (hx : (x, t) ∈ placedFrom n xs)
    (hy : (y, t) ∈ placedFrom n xs) : x = y := by
  have hx := (mem_placedFrom.1 hx).2
  rw [(mem_placedFrom.1 hy).2] at hx
  exact (Option.some.inj hx).symm

/-- No place is given twice. -/
theorem nodup_placedFrom : ((placedFrom n xs).map (·.2)).Nodup := by
  have hplaces : (placedFrom n xs).map (·.2) = (List.range' n xs.length).map TypeId.mk := by
    rw [placedFrom, List.map_map, List.range'_eq_map_range]
    induction xs generalizing n with
    | nil => rfl
    | cons x xs ih =>
        rw [List.zipIdx_cons, List.map_cons, ih, List.length_cons, List.range_succ_eq_map]
        simp [Function.comp_def, Nat.add_assoc, Nat.add_comm 1]
  rw [hplaces]
  exact List.Nodup.map (fun a b h => by simpa using h) List.nodup_range'

end Places

section Select

variable {α β : Type} {n : Nat}

theorem select_append (f : Declaration → Option α) (xs ys : List (Declaration × TypeId)) :
    select f (xs ++ ys) = select f xs ++ select f ys := List.filterMap_append

theorem map_fst_select (f : Declaration → Option α) (xs : List Declaration) :
    (select f (placedFrom n xs)).map (·.1) = xs.filterMap f := by
  induction xs generalizing n with
  | nil => rfl
  | cons x xs ih =>
      rw [placedFrom_cons, select, List.filterMap_cons, List.filterMap_cons]
      cases f x with
      | none => exact ih
      | some a => exact congrArg (a :: ·) ih

theorem mem_select {f : Declaration → Option α} {xs : List (Declaration × TypeId)} {a : α} {t : TypeId} :
    (a, t) ∈ select f xs ↔ ∃ x, (x, t) ∈ xs ∧ f x = some a := by
  simp only [select, List.mem_filterMap, Option.map_eq_some_iff, Prod.mk.injEq, Prod.exists]
  constructor
  · rintro ⟨x, _, hx, _, hf, rfl, rfl⟩
    exact ⟨x, hx, hf⟩
  · rintro ⟨x, hx, hf⟩
    exact ⟨x, t, hx, a, hf, rfl, rfl⟩

/-- What is not selected has no place among what is. -/
theorem not_mem_select {f : Declaration → Option α} {xs : List Declaration} {x : Declaration} {t : TypeId}
    (hx : (x, t) ∈ placedFrom n xs) (hf : f x = none) :
    t ∉ (select f (placedFrom n xs)).map (·.2) := by
  intro ht
  obtain ⟨⟨a, u⟩, ha, rfl⟩ := List.mem_map.1 ht
  obtain ⟨y, hy, hya⟩ := mem_select.1 ha
  obtain rfl := placedFrom_unique hx hy
  rw [hf] at hya
  cases hya

theorem nodup_select {f : Declaration → Option α} {xs : List (Declaration × TypeId)}
    (h : (xs.map (·.2)).Nodup) : ((select f xs).map (·.2)).Nodup := by
  refine List.Nodup.sublist ?_ h
  induction xs with
  | nil => exact .slnil
  | cons x xs ih =>
      have hrest := ih (List.nodup_cons.1 h).2
      rw [select, List.filterMap_cons]
      cases hf : f x.1 with
      | none => exact hrest.cons _
      | some a => exact hrest.cons_cons _

theorem select_placedFrom_of_none {f : Declaration → Option α} {x : β → Declaration}
    (h : ∀ b, f (x b) = none) (bs : List β) : select f (placedFrom n (bs.map x)) = [] := by
  induction bs generalizing n with
  | nil => rfl
  | cons b bs ih =>
      rw [List.map_cons, placedFrom_cons, select, List.filterMap_cons, h]
      exact ih

theorem select_placedFrom_of_some {f : Declaration → Option α} {x : α → Declaration}
    (h : ∀ a, f (x a) = some a) (as : List α) :
    select f (placedFrom n (as.map x)) = (as.zipIdx n).map fun a => (a.1, ⟨a.2⟩) := by
  induction as generalizing n with
  | nil => rfl
  | cons a as ih =>
      rw [List.map_cons, placedFrom_cons, List.zipIdx_cons, List.map_cons, ← ih, select,
        List.filterMap_cons, h]
      rfl

end Select

/-! ## The draft behind the declarations -/

/-- The draft with the classes of more declarations. -/
def declareAll (xs : List Declaration) (d : Draft) : Draft :=
  { store := { d.store with types := d.store.types ++ xs.map (·.entry) },
    registry := d.registry.addAll (historyOf (placedFrom d.store.types.length xs)) }

section Drafts

variable {d : Draft}

@[simp] theorem declareAll_nil : declareAll [] d = d := by simp [declareAll, historyOf]

theorem declareAll_append (xs ys : List Declaration) :
    declareAll (xs ++ ys) d = declareAll ys (declareAll xs d) := by
  simp [declareAll, placedFrom_append, historyOf, Registry.addAll_append]

theorem length_types_declareAll (xs : List Declaration) :
    (declareAll xs d).store.types.length = d.store.types.length + xs.length := by
  simp [declareAll]

theorem class?_declareAll {xs : List Declaration} {x : Declaration} {t : TypeId}
    (hx : (x, t) ∈ placedFrom d.store.types.length xs) :
    (declareAll xs d).store.class? t = some x.detail := by
  obtain ⟨hle, hx⟩ := mem_placedFrom.1 hx
  have htype : (declareAll xs d).store.type? t = some x.entry := by
    simp only [Store.type?, declareAll]
    rw [List.getElem?_append_right hle, List.getElem?_map, hx]
    rfl
  rw [Store.class?, htype]
  rfl

theorem declareAll_cons (x : Declaration) (xs : List Declaration) :
    declareAll (x :: xs) d = declareAll xs (declareAll [x] d) := declareAll_append [x] xs

theorem declareEnums_eq (es : List EnumType) :
    (es.forM fun t => discard (declare t.name (enumClass t))) d =
      .ok ((), declareAll (es.map fun t => .type (.enum t)) d) := by
  induction es generalizing d with
  | nil => rw [List.map_nil, declareAll_nil]; rfl
  | cons e es ih =>
      rw [List.map_cons, declareAll_cons, ← ih]
      rfl

/-- Declaring the members of a list pairs each with its place. -/
theorem declareMembers_eq {α : Type} (as : List α) (x : α → Declaration) :
    (as.mapM fun a => do return (a, ← declare (x a).name (x a).detail) : Build (List (α × TypeId))) d =
      .ok ((as.zipIdx d.store.types.length).map fun a => (a.1, ⟨a.2⟩), declareAll (as.map x) d) := by
  induction as generalizing d with
  | nil => rw [List.map_nil, declareAll_nil]; rfl
  | cons a as ih =>
      rw [List.mapM_cons, List.map_cons, declareAll_cons]
      have hrest := ih (d := declareAll [x a] d)
      rw [length_types_declareAll] at hrest
      refine Build.bind_apply_eq_ok_iff.2 ⟨(a, ⟨d.store.types.length⟩), declareAll [x a] d, rfl, ?_⟩
      exact Build.bind_apply_eq_ok_iff.2 ⟨_, _, hrest, rfl⟩

theorem declareSchema_eq (s : Schema) :
    let xs := placedFrom d.store.types.length (declarationsOf s)
    declareSchema s d =
      .ok ({ structured := structuredOf xs, containers := containersOf xs },
        declareAll (declarationsOf s) d) := by
  let enums : List Declaration := s.enums.map fun t => .type (.enum t)
  let types : List Declaration := (s.complexes ++ s.entities).map fun t => .type (.structured t)
  let containers : List Declaration := s.containers.map .container
  have hall : declarationsOf s = enums ++ types ++ containers := by
    simp [declarationsOf, Edm.Schema.types, enums, types, containers, Function.comp_def]
  have henums := declareEnums_eq (d := d) s.enums
  have htypes := declareMembers_eq (d := declareAll enums d) (s.complexes ++ s.entities)
    fun t => .type (.structured t)
  have hcontainers := declareMembers_eq (d := declareAll types (declareAll enums d)) s.containers
    .container
  intro xs
  have hstructured : structuredOf xs =
      ((s.complexes ++ s.entities).zipIdx (declareAll enums d).store.types.length).map
        fun a => (a.1, ⟨a.2⟩) := by
    simp only [xs, hall, placedFrom_append, select_append, enums, types, containers,
      length_types_declareAll]
    rw [select_placedFrom_of_none fun _ => rfl,
      select_placedFrom_of_some (x := fun t => .type (.structured t)) fun _ => rfl,
      select_placedFrom_of_none fun _ => rfl]
    simp
  have hservices : containersOf xs =
      (s.containers.zipIdx (declareAll types (declareAll enums d)).store.types.length).map
        fun a => (a.1, ⟨a.2⟩) := by
    simp only [xs, hall, placedFrom_append, select_append, enums, types, containers,
      length_types_declareAll]
    rw [select_placedFrom_of_none fun _ => rfl, select_placedFrom_of_none fun _ => rfl,
      select_placedFrom_of_some (x := .container) fun _ => rfl]
    simp [Nat.add_assoc]
  rw [hall, declareAll_append, declareAll_append, hstructured, hservices]
  refine Build.bind_apply_eq_ok_iff.2 ⟨_, _, henums, ?_⟩
  refine Build.bind_apply_eq_ok_iff.2 ⟨_, _, htypes, ?_⟩
  exact Build.bind_apply_eq_ok_iff.2 ⟨_, _, hcontainers, rfl⟩

/-- Declaring the schemas of a list one after another. -/
theorem declareSchemas_eq (ss : List Schema) :
    let xs := placedFrom d.store.types.length (ss.flatMap declarationsOf)
    ∃ ds : List Declared, ss.mapM declareSchema d = .ok (ds, declareAll (ss.flatMap declarationsOf) d) ∧
      ds.flatMap (·.structured) = structuredOf xs ∧ ds.flatMap (·.containers) = containersOf xs := by
  induction ss generalizing d with
  | nil => exact ⟨[], by rw [List.flatMap_nil, declareAll_nil]; rfl, rfl, rfl⟩
  | cons s ss ih =>
      have hfirst := declareSchema_eq (d := d) s
      obtain ⟨ds, hrest, hstructured, hcontainers⟩ := ih (d := declareAll (declarationsOf s) d)
      rw [length_types_declareAll] at hstructured hcontainers
      simp only [List.flatMap_cons, declareAll_append, placedFrom_append, select_append]
      let first := placedFrom d.store.types.length (declarationsOf s)
      let declared : Declared := { structured := structuredOf first, containers := containersOf first }
      refine ⟨declared :: ds, ?_, ?_, ?_⟩
      · rw [List.mapM_cons]
        refine Build.bind_apply_eq_ok_iff.2 ⟨_, _, hfirst, ?_⟩
        exact Build.bind_apply_eq_ok_iff.2 ⟨_, _, hrest, rfl⟩
      · rw [List.flatMap_cons, hstructured]
      · rw [List.flatMap_cons, hcontainers]

/-- Declaring the types of a graph always succeeds, and each class gets the place that is known before. -/
theorem declareTypes_eq (g : Graph) :
    let xs := placed g d.store.types.length
    declareTypes g d =
      .ok ({ structured := structuredOf xs, containers := containersOf xs },
        declareAll (declarations g) d) := by
  obtain ⟨ds, hall, hstructured, hcontainers⟩ := declareSchemas_eq (d := d) g.schemas
  simp only [placed, declarations, ← hstructured, ← hcontainers]
  exact Build.bind_apply_eq_ok_iff.2 ⟨_, _, hall, rfl⟩

end Drafts

end EntityModel.Compilation
