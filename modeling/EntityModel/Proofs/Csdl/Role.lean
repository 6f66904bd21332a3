import EntityModel.Proofs.Csdl.Document
import EntityModel.Proofs.Csdl.Insertion

/-!
# What is looked at

While a document is read each element is taken for something: a package, a schema, a property. `Role` lists what an
element can be taken for, and tells which child elements are looked for in each case (`Role.known`) and what these are
taken for in turn (`Role.child?`). Other child elements are skipped. But to be skipped they have to be looked at, and so
a document is only read if they all have names (`named_of_readRoot`).
-/

namespace EntityModel.Csdl

open Xml (Element)
open Edm (OperationKind Graph)
open Reading (Ensures ensures_bind ensures_map ensures_pure)

/-! ## Roles -/

/-- What an element is taken for. -/
inductive Role where
  | package
  | reference
  | services
  | schema
  | structured
  | key
  /-- What has no parts but may be annotated, and a block of annotations. -/
  | annotated
  | enum
  | operation
  | container
  /-- An import that declares the operation itself. -/
  | declaring (kind : OperationKind)
  | association
  /-- What is told by its attributes alone. -/
  | leaf
  deriving DecidableEq

namespace Role

/-- The names of the child elements that are parts, with what these are taken for. -/
def parts : Role → List (String × Role)
  | package => [("Reference", reference), ("DataServices", services)]
  | reference => [("Include", leaf)]
  | services => [("Schema", schema)]
  | schema =>
      [("Association", association), ("EntityType", structured), ("ComplexType", structured), ("EnumType", enum),
       ("TypeDefinition", annotated), ("Function", operation), ("Action", operation), ("Term", leaf),
       ("EntityContainer", container), ("Annotations", annotated)]
  | structured => [("Key", key), ("Property", annotated), ("NavigationProperty", annotated)]
  | key => [("PropertyRef", leaf)]
  | annotated => []
  | enum => [("Member", leaf)]
  | operation => [("ReturnType", leaf), ("Parameter", leaf)]
  | container =>
      [("EntitySet", annotated), ("Singleton", annotated), ("FunctionImport", declaring .function),
       ("ActionImport", declaring .action)]
  | declaring _ => [("Parameter", leaf)]
  | association => [("End", leaf)]
  | leaf => []

/-- Annotations are looked for among the child elements. -/
def isAnnotated : Role → Bool
  | structured | annotated | enum | container => true
  | _ => false

/-- The names of the child elements that are looked for. -/
def known (role : Role) : List String := role.parts.map (·.1) ++ if role.isAnnotated then annotationElements else []

/-- What an element is taken for in the end: an import that names its operation does not declare it. -/
def settle (e : Element) : Role → Role
  | declaring kind => if e.attributeD (importAttribute kind) = "" then declaring kind else leaf
  | role => role

/-- What a child element is taken for, if it is a part. -/
def child? (role : Role) (c : Element) : Option Role := (role.parts.lookup c.localName).map (settle c)

/-- What the root of a document is taken for. -/
def ofRoot? (root : Element) : Option Role :=
  if root.localName = "Edmx" then some package else if root.localName = "Schema" then some schema else none

variable {role role' : Role} {c : Element}

theorem mem_parts_of_child? (h : role.child? c = some role') :
    ∃ r, (c.localName, r) ∈ role.parts ∧ r.settle c = role' := by
  obtain ⟨r, hr, hsettle⟩ := Option.map_eq_some_iff.1 h
  obtain ⟨before, after, hparts, -⟩ := List.lookup_eq_some_iff.1 hr
  exact ⟨r, hparts ▸ List.mem_append_right _ List.mem_cons_self, hsettle⟩

/-- A part is taken for what its name tells. -/
theorem eq_settle_of_child? {r : Role} (hr : (c.localName, r) ∈ role.parts) (h : role.child? c = some role') :
    role' = r.settle c := by
  have hlookup : ∀ p ∈ role.parts, role.parts.lookup p.1 = some p.2 := by
    cases role with
    | declaring kind => simp [parts]
    | _ => decide
  rw [child?, hlookup _ hr, Option.map_some] at h
  exact (Option.some.inj h).symm

theorem ne_leaf_of_mem_parts {p : String × Role} (h : p ∈ role.parts) : role ≠ leaf := by
  rintro rfl
  cases h

/-- What is not looked for has not the name of a part. -/
theorem notMem_of_notMem_known {word : String} {r : Role} (hr : (word, r) ∈ role.parts) (h : c.localName ∉ role.known) :
    c.localName ∉ [word] := fun hname =>
  h (List.mem_singleton.1 hname ▸ List.mem_append_left _ (List.mem_map_of_mem hr))

/-- No part is an annotation. -/
theorem notMem_annotationElements_of_child? (h : role.child? c = some role') : c.localName ∉ annotationElements := by
  obtain ⟨r, hr, -⟩ := mem_parts_of_child? h
  cases role with
  | declaring kind =>
      obtain ⟨hname, -⟩ := Prod.mk.inj (List.mem_singleton.1 hr)
      rw [hname]
      decide
  | _ => exact (by decide : ∀ p ∈ parts _, p.1 ∉ annotationElements) _ hr

end Role

/-! ## Names -/

/-- All elements have names that are looked at where an element is taken for something. -/
inductive Named : Role → Element → Prop where
  | leaf {e : Element} : Named .leaf e
  | node {role : Role} {e : Element} (names : ∀ c ∈ e.children, c.name.stray? = none)
      (below : ∀ c ∈ e.children, ∀ role', role.child? c = some role' → Named role' c) : Named role e

section Readers

variable {ctx : Context} {owner space : String} {e c : Element} {α β : Type}

/-- Where all parts are told by their attributes, the child elements need names only. -/
theorem named_of_leaves {role : Role} (hparts : ∀ p ∈ role.parts, p.2 = .leaf)
    (h : ∀ c ∈ e.children, c.name.stray? = none) : Named role e := by
  refine .node h fun c _ role' hchild => ?_
  obtain ⟨r, hr, rfl⟩ := Role.mem_parts_of_child? hchild
  obtain rfl := hparts _ hr
  exact .leaf

theorem readProperty_named : (readProperty ctx owner e).Ensures fun _ => Named .annotated e :=
  ensures_bind fun _ => noteAnnotations_ensures.bind fun _ h => ensures_pure (named_of_leaves nofun h)

theorem readNavigation_named : (readNavigation ctx owner e).Ensures fun _ => Named .annotated e :=
  ensures_bind fun _ => ensures_bind fun _ => noteAnnotations_ensures.bind fun _ h =>
    ensures_pure (named_of_leaves nofun h)

theorem readContainerMember_named {attr : String} :
    (readContainerMember ctx owner attr e).Ensures fun _ => Named .annotated e :=
  noteAnnotations_ensures.bind fun _ h => ensures_pure (named_of_leaves nofun h)

theorem readDefinition_named : (readDefinition ctx space e).Ensures fun _ => Named .annotated e :=
  noteAnnotations_ensures.bind fun _ h => ensures_pure (named_of_leaves nofun h)

theorem children_ensures_names {names : List String} {read : Element → Reading α} :
    (Reading.children names read e).Ensures fun _ => ∀ c ∈ e.children, c.name.stray? = none := fun as has =>
  have htrue : ∀ c, c.localName ∈ names → (read c).Ensures fun _ => True := fun _ _ => Reading.ensures_true
  (Reading.children_ensures htrue as has).1

theorem readKey_named : (readKey e).Ensures fun _ => ∀ c ∈ e.children, c.localName = "Key" → Named .key c := by
  have hkey : ∀ c, c.localName ∈ ["Key"] →
      (Reading.children ["PropertyRef"] (fun r => pure (r.attributeD "Name")) c).Ensures fun _ => Named .key c :=
    fun c _ as has => named_of_leaves (by decide) (children_ensures_names as has)
  exact (Reading.children_ensures hkey).map fun _ h c hc hname => h.2 c hc (List.mem_singleton.2 hname)

theorem readStructured_named {kind : Edm.StructuredKind} :
    (readStructured ctx space kind e).Ensures fun _ => Named .structured e := by
  refine ensures_bind fun _ => ensures_bind fun _ => ensures_bind fun _ => readKey_named.bind fun _ hkeys => ?_
  refine (Reading.children_ensures fun _ _ => readProperty_named).bind fun _ hproperties => ?_
  refine (Reading.children_ensures fun _ _ => readNavigation_named).bind fun _ hnavigation => ?_
  refine noteAnnotations_ensures.bind fun _ hnames => ensures_pure (.node hnames fun c hc role' hchild => ?_)
  obtain ⟨r, hr, rfl⟩ := Role.mem_parts_of_child? hchild
  simp only [Role.parts, List.mem_cons, Prod.mk.injEq, List.not_mem_nil, or_false] at hr
  rcases hr with ⟨hname, rfl⟩ | ⟨hname, rfl⟩ | ⟨hname, rfl⟩
  · exact hkeys c hc hname
  · exact hproperties.2 c hc (List.mem_singleton.2 hname)
  · exact hnavigation.2 c hc (List.mem_singleton.2 hname)

theorem readEnum_named : (readEnum ctx space e).Ensures fun _ => Named .enum e :=
  ensures_bind fun _ => ensures_bind fun _ => noteAnnotations_ensures.bind fun _ h =>
    ensures_pure (named_of_leaves (by decide) h)

theorem readOperation_named {kind : OperationKind} :
    (readOperation ctx space kind e).Ensures fun _ => Named .operation e :=
  children_ensures_names.bind fun _ h => ensures_bind fun _ => ensures_bind fun _ => ensures_bind fun _ =>
    ensures_pure (named_of_leaves (by decide) h)

theorem readImport_named {kind : OperationKind} :
    (readImport ctx space kind e).Ensures fun _ => Named (Role.settle e (.declaring kind)) e := by
  rw [readImport, Role.settle]
  by_cases htarget : e.attributeD (importAttribute kind) = ""
  · rw [if_neg (not_not_intro htarget), if_pos htarget]
    refine Ensures.bind (Q := fun _ => Named (.declaring kind) e) ?_ fun _ h => ensures_pure h
    refine ensures_bind fun _ => ensures_bind fun _ => ensures_bind fun _ => ?_
    exact children_ensures_names.bind fun _ h => ensures_pure (named_of_leaves (by simp [Role.parts]) h)
  · rw [if_pos htarget, if_neg htarget]
    exact ensures_pure .leaf

theorem readContainerPart_named {name : QualifiedName} :
    (readContainerPart ctx name e).Ensures fun _ =>
      e.name.stray? = none ∧ ∀ role', Role.container.child? e = some role' → Named role' e := by
  refine Reading.look_ensures.bind fun _ hstray part hpart => ⟨hstray, fun role' hchild => ?_⟩
  obtain ⟨r, hr, rfl⟩ := Role.mem_parts_of_child? hchild
  simp only [Role.parts, List.mem_cons, Prod.mk.injEq, List.not_mem_nil, or_false] at hr
  rcases hr with ⟨hname, rfl⟩ | ⟨hname, rfl⟩ | ⟨hname, rfl⟩ | ⟨hname, rfl⟩
  all_goals simp only [hname] at hpart
  · exact ensures_map readContainerMember_named part hpart
  · exact ensures_map readContainerMember_named part hpart
  · exact ensures_map readImport_named part hpart
  · exact ensures_map readImport_named part hpart

theorem readContainer_named : (readContainer ctx space e).Ensures fun _ => Named .container e :=
  (Reading.ensures_visit fun _ _ => readContainerPart_named).bind fun _ h => ensures_bind fun _ =>
    ensures_pure (.node (fun c hc => (h c hc).1) fun c hc => (h c hc).2)

theorem readSchemaPart_named :
    (readSchemaPart ctx space e).Ensures fun _ =>
      e.localName ≠ "Association" → ∀ role', Role.schema.child? e = some role' → Named role' e := by
  intro part hpart hother role' hchild
  obtain ⟨r, hr, rfl⟩ := Role.mem_parts_of_child? hchild
  simp only [Role.parts, List.mem_cons, Prod.mk.injEq, List.not_mem_nil, or_false] at hr
  rcases hr with ⟨hname, -⟩ | ⟨hname, rfl⟩ | ⟨hname, rfl⟩ | ⟨hname, rfl⟩ | ⟨hname, rfl⟩ | ⟨hname, rfl⟩ | ⟨hname, rfl⟩ |
    ⟨-, rfl⟩ | ⟨hname, rfl⟩ | ⟨hname, rfl⟩
  · exact absurd hname hother
  all_goals try simp only [readSchemaPart, hname] at hpart
  · exact ensures_map readStructured_named part hpart
  · exact ensures_map readStructured_named part hpart
  · exact ensures_map readEnum_named part hpart
  · exact ensures_map readDefinition_named part hpart
  · exact ensures_map readOperation_named part hpart
  · exact ensures_map readOperation_named part hpart
  · exact .leaf
  · exact ensures_map readContainer_named part hpart
  · obtain ⟨x, hx, -⟩ := Reading.gives_bind_iff.1 hpart
    exact named_of_leaves nofun (noteAnnotations_ensures x hx)

theorem readSchema_named : (readSchema ctx e).Ensures fun _ => Named .schema e := by
  rw [readSchema]
  split
  · rintro a ⟨notes, h⟩
    cases h
  · refine Reading.inspect_ensures.bind fun _ hnames => ?_
    refine (Reading.ensures_visit fun _ _ => readSchemaPart_named).bind fun _ hparts => ensures_pure ?_
    have hlooked : ∀ c ∈ e.children, ∀ x ∈ c :: (if c.localName = "Association" then c.children else []),
        x.name.stray? = none := fun c hc x hx => hnames x (List.mem_flatMap.2 ⟨c, hc, hx⟩)
    refine .node (fun c hc => hlooked c hc c List.mem_cons_self) fun c hc role' hchild => ?_
    by_cases hname : c.localName = "Association"
    · have hr : (c.localName, Role.association) ∈ Role.schema.parts := hname ▸ List.mem_cons_self
      obtain rfl : role' = Role.association := Role.eq_settle_of_child? hr hchild
      exact named_of_leaves (by decide) fun x hx => hlooked c hc x (by simp [hname, hx])
    · exact hparts c hc hname role' hchild

end Readers

/-! ## Documents -/

section Documents

variable {root : Element} {role : Role} {g : Graph}

/-- All elements of a package that are looked at have names if those around its schemas have, and those in the schemas. -/
theorem named_package (hname : root.localName = "Edmx") (hnames : ∀ x ∈ surroundings root, x.name.stray? = none)
    (hschemas : ∀ d ∈ root.childrenNamed ["DataServices"], ∀ s ∈ d.childrenNamed ["Schema"], Named .schema s) :
    Named .package root := by
  have hbeside : ∀ c ∈ root.children, ∀ x ∈ c :: (if c.localName = "Reference" then c.children else []),
      x.name.stray? = none := by
    intro c hc x hx
    refine hnames x (List.mem_cons_of_mem _ ?_)
    rw [if_pos hname]
    exact List.mem_append_left _ (List.mem_flatMap.2 ⟨c, hc, hx⟩)
  have haround : ∀ d ∈ root.childrenNamed ["DataServices"], ∀ x ∈ d.children, x.name.stray? = none := by
    intro d hd x hx
    refine hnames x (List.mem_cons_of_mem _ ?_)
    rw [if_pos hname]
    exact List.mem_append_right _ (List.mem_flatMap.2 ⟨d, hd, hx⟩)
  refine .node (fun c hc => hbeside c hc c List.mem_cons_self) fun c hc role' hchild => ?_
  obtain ⟨r, hr, rfl⟩ := Role.mem_parts_of_child? hchild
  simp only [Role.parts, List.mem_cons, Prod.mk.injEq, List.not_mem_nil, or_false] at hr
  rcases hr with ⟨hcname, rfl⟩ | ⟨hcname, rfl⟩
  · have hnamed : Named .reference c := named_of_leaves (by decide) fun x hx => hbeside c hc x (by simp [hcname, hx])
    exact hnamed
  · have hd : c ∈ root.childrenNamed ["DataServices"] := mem_childrenNamed.2 ⟨hc, by simp [hcname]⟩
    refine .node (haround c hd) fun s hs role' hschild => ?_
    obtain ⟨r, hr, rfl⟩ := Role.mem_parts_of_child? hschild
    obtain ⟨hsname, rfl⟩ := Prod.mk.inj (List.mem_singleton.1 hr)
    exact hschemas c hd s (mem_childrenNamed.2 ⟨hs, by simp [hsname]⟩)

/-- All elements that are looked at in a document that is read have names. -/
theorem named_of_readRoot (hrole : Role.ofRoot? root = some role) (h : readRoot root = .ok g) : Named role root := by
  obtain ⟨o, ho, schemas, hschemas⟩ := gives_of_readRoot h
  obtain ⟨hnames, -⟩ := root_of_outline ho
  have hnamed : ∀ s ∈ o.schemas, Named .schema s :=
    Reading.ensures_visit (fun _ _ => readSchema_named) g.schemas ⟨schemas, hschemas⟩
  unfold Role.ofRoot? at hrole
  split at hrole
  · next hname =>
      obtain rfl := Option.some.inj hrole
      rw [outline_package hname hnames] at ho
      obtain rfl := Except.ok.inj ho
      exact named_package hname (List.findSome?_eq_none_iff.1 hnames) fun d hd s hs =>
        hnamed s (List.mem_flatMap.2 ⟨d, hd, hs⟩)
  · split at hrole
    · next hname =>
        obtain rfl := Option.some.inj hrole
        rw [outline_schema hname hnames] at ho
        obtain rfl := Except.ok.inj ho
        exact hnamed root List.mem_cons_self
    · cases hrole

end Documents

end EntityModel.Csdl
