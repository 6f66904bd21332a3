import EntityModel.Proofs.Compilation.Offering

/-!
# The image of a graph

A draft that has been built from a graph shows the graph: the declared classes stand where `placed` puts them, and
the changes since the declarations are those that fill the structured types, attach the bound operations and
make the containers' properties and methods, in this order (`Built`). From this one reads off what a class
has in the end: its base, its own properties, its key and its methods.
-/

namespace EntityModel.Compilation

open CodeModel
open Edm (Graph Operation Container ContainerMember StructuredType)

/-! ## Built drafts -/

/-- A draft is behind the changes that a graph demands, each part described in terms of the draft. -/
def Built (g : Graph) (s : Store) (d : Draft) : Prop :=
  ∃ fs bs es : List (List Change),
    d = (declareAll (declarations g) { store := s }).replay (fs.flatten ++ (bs.flatten ++ es.flatten)) ∧
      List.Forall₂ (Filled g s.types.length d.store) (structuredOf (placed g s.types.length)) fs ∧
      List.Forall₂ (Bound g s.types.length d.store) g.operations bs ∧
      List.Forall₂ (Offered g s.types.length d.store) (containersOf (placed g s.types.length)) es

section Build

variable {g : Graph} {n : Nat} {ps : List QualifiedName} {s s' : Store} {d : Draft} {cs : List Change}
variable {c : TypeId} {own : List Change}

theorem Offered.mono {x : Container × TypeId} (hs : s.Completes s') (h : Offered g n s x cs) :
    Offered g n s' x cs := by
  obtain ⟨own, ⟨sets, singletons, ms, hown, hsets, hsingletons, hms⟩, hlogged⟩ := h
  exact ⟨own, ⟨sets, singletons, ms, hown, hsets, hsingletons, hms.imp fun _ _ hm => hm.mono hs⟩, hlogged⟩

theorem Offered.others {x : Container × TypeId} (h : Offered g n s x cs) :
    ∀ u, u ≠ x.2 → about u cs = [] := by
  obtain ⟨own, -, hlogged⟩ := h
  exact hlogged.others

/-- A graph that is built leaves a draft that shows it. -/
theorem build_post {containers : List (Container × TypeId)}
    (hrun : build g { store := s } = .ok (containers, d)) :
    containers = containersOf (placed g s.types.length) ∧ Built g s d := by
  obtain ⟨declared, d₀, hdeclared, hrun⟩ := Build.bind_apply_eq_ok_iff.1 hrun
  rw [declareTypes_eq] at hdeclared
  obtain ⟨rfl, rfl⟩ := by simpa using hdeclared
  obtain ⟨_, d₁, hfill, hrun⟩ := Build.bind_apply_eq_ok_iff.1 hrun
  obtain ⟨_, d₂, hbound, hrun⟩ := Build.bind_apply_eq_ok_iff.1 hrun
  obtain ⟨_, d₃, hoffer, hrun⟩ := Build.bind_apply_eq_ok_iff.1 hrun
  obtain ⟨rfl, rfl⟩ := Prod.mk.inj (Build.pure_apply_eq_ok_iff.1 hrun)
  refine ⟨rfl, ?_⟩
  have hfilled := fillAll_post hfill
  obtain ⟨ps, hd₁⟩ := hfilled.declares
  obtain ⟨fs, rfl, hfs⟩ := hfilled
  obtain ⟨bs, rfl, hbs⟩ := (forM_yields (Q := Bound g s.types.length) (fun hs hb => hb.mono hs)
    addBound_yields hd₁).post hbound
  obtain ⟨es, rfl, hes⟩ := (forM_yields (Q := Offered g s.types.length) (fun hs hb => hb.mono hs)
    (fun hd => fillContainer_yields hd) (hd₁.replay _)).post hoffer
  have hsim := simulates_replay (bs.flatten ++ es.flatten) (isClosed_of_filled hfs) fun {x t} hx => by
    by_cases ht : t ∈ (structuredOf (placed g s.types.length)).map (·.2)
    · right
      obtain ⟨⟨k, t'⟩, hk, rfl⟩ := List.mem_map.1 ht
      obtain ⟨y, hy, hyk⟩ := mem_select.1 hk
      have hnone := not_mem_select hy (Declaration.container?_of_structured? hyk)
      rw [about_append, about_flatten_of_not_mem (fun h => Offered.others h) hes hnone, List.append_nil]
      intro y hy
      obtain ⟨cs, hcs, hy⟩ := List.mem_flatten.1 (List.mem_of_mem_filter hy)
      obtain ⟨o, -, ho⟩ := Alignment.exists_of_mem_right hbs hcs
      exact ho.forall_mem y hy
    · exact .inl (about_flatten_of_not_mem (fun h => Filled.others h) hfs ht)
  rw [Draft.replay_append, Draft.replay_append] at hsim
  refine ⟨fs, bs, es, by rw [Draft.replay_append, Draft.replay_append], ?_, ?_, hes⟩
  · refine Alignment.imp_of_mem hfs fun x cs hx hfilled => ?_
    obtain ⟨z, hz, -⟩ := mem_select.1 hx
    exact hfilled.mono (Draft.completes_replay.trans Draft.completes_replay) hsim ⟨z, hz⟩
  · exact hbs.imp fun _ _ hb => hb.mono Draft.completes_replay

end Build

/-! ## Classes -/

/-- A member of a declaration that becomes a property. -/
inductive Member where
  /-- A structural property. -/
  | structural (p : Edm.Property)
  /-- A navigation property. -/
  | navigation (p : Edm.NavigationProperty)
  /-- An entity set or a singleton. -/
  | offered (collection : Bool) (m : ContainerMember)

namespace Declaration

/-- What becomes its own properties. -/
def members : Declaration → List Member
  | type (.structured t) => t.properties.map .structural ++ t.navigation.map .navigation
  | type (.enum _) => []
  | container c => c.sets.map (.offered true) ++ c.singletons.map (.offered false)

/-- The paths of its key. -/
def keyPaths : Declaration → List String
  | type (.structured t) => t.key
  | _ => []

end Declaration

/-- The operations that become methods of a class by being bound to it. -/
def boundTo (g : Graph) (n : Nat) (c : TypeId) : List Operation :=
  g.operations.filter fun o =>
    match o.binding? with
    | none => false
    | some p => place? g n (targetName g p.type) = some c

/-- The operations that become methods of a class by being imported, with the names of the imports. -/
def importedBy (g : Graph) : Declaration → List (Operation × String)
  | .container c => c.imports.filterMap fun i =>
      ((g.operation? i.operation).filter fun o => !o.bound).map (·, i.name)
  | .type _ => []

/-- The property of a class that a member becomes. -/
def IsProperty (g : Graph) (n : Nat) (s : Store) (c : TypeId) : Member → Property → Prop
  | .structural p, y => ∃ x, y = owned c x ∧ IsStructural g n s p x
  | .navigation p, y => ∃ x, y = owned c x ∧ IsNavigation g n p x
  | .offered collection m, y => ∃ x, y = owned c x ∧ IsMember g n collection m x

/-- The method of a class that an operation becomes under a name. -/
def IsMethodOf (g : Graph) (n : Nat) (s : Store) (c : TypeId) (o : Operation × String) (t : TypeId) : Prop :=
  ∃ m, IsMethod g n s o.1 o.2 m ∧ s.type? t = some (ownedMethod c m)

/-- The class at a place shows a declaration. -/
structure Shows (g : Graph) (n : Nat) (s : Store) (x : Declaration) (c : TypeId) (k : ClassDetail) : Prop where
  /-- It has the name of the declaration. -/
  type? : s.type? c = some ⟨x.name, .structured k⟩
  /-- It is of the kind that the declaration tells. -/
  head : x.detail.SameHead k
  /-- It extends the class that the declaration names. -/
  base : Option.Rel (fun b u => place? g n (targetName g b) = some u) x.base? k.base
  /-- It has a property for each member. -/
  properties : List.Forall₂ (IsProperty g n s c) x.members ((s.declared c).map (·.2))
  /-- Its key consists of the properties that the key paths lead to. -/
  key : List.Forall₂ (fun path p => s.findProperty c path = .ok p) x.keyPaths k.key
  /-- It has a method for each operation bound to it, and then for each operation imported by it. -/
  methods : List.Forall₂ (IsMethodOf g n s c) ((boundTo g n c).map (·, "") ++ importedBy g x) k.methods

section Classes

variable {g : Graph} {n : Nat} {s : Store} {d : Draft} {x : Declaration} {c : TypeId} {cs : List Change}

theorem Shows.class? {k : ClassDetail} (h : Shows g n s x c k) : s.class? c = some k := by
  rw [Store.class?, h.type?]
  rfl

theorem Built.declares (h : Built g s d) : ∃ ps, Declares g s.types.length ps d := by
  obtain ⟨fs, bs, es, rfl, -⟩ := h
  exact ⟨_, (Declares.declareAll s).replay _⟩

/-- The bound operations give a class one method each, if they are bound to it. -/
theorem about_bound {os : List Operation} {bs : List (List Change)}
    (h : List.Forall₂ (Bound g n s) os bs) (c : TypeId) :
    ∃ ms : List (QualifiedName × MethodDetail),
      about c bs.flatten = ms.map (fun m => .method c m.1 m.2) ∧
        List.Forall₂ (fun o m => IsMethod g n s o "" m)
          (os.filter fun o => match o.binding? with
            | none => false
            | some p => place? g n (targetName g p.type) = some c) ms := by
  induction h with
  | nil => exact ⟨[], rfl, .nil⟩
  | @cons o cs os bs ho _ ih =>
      obtain ⟨ms, habout, hms⟩ := ih
      rw [List.flatten_cons, about_append, habout, List.filter_cons]
      unfold Bound at ho
      cases hp : o.binding? with
      | none =>
          rw [hp] at ho
          subst ho
          exact ⟨ms, rfl, hms⟩
      | some p =>
          rw [hp] at ho
          obtain ⟨u, m, hu, hm, hlogged⟩ := ho
          by_cases hc : u = c
          · subst hc
            refine ⟨m :: ms, by rw [hlogged.own]; rfl, ?_⟩
            simp only [hu, decide_true, if_true]
            exact .cons hm hms
          · have hne : ¬ place? g n (targetName g p.type) = some c := by
              rw [hu]
              exact fun he => hc (Option.some.inj he)
            refine ⟨ms, by rw [hlogged.others c (Ne.symm hc)]; rfl, ?_⟩
            simpa [hne] using hms

/-- The imports give their container one method each, unless their operation is bound. -/
theorem forall₂_importedBy {k : Container} {ms : List (Option (QualifiedName × MethodDetail))}
    (h : List.Forall₂ (IsImport g n s) k.imports ms) :
    List.Forall₂ (fun o m => IsMethod g n s o.1 o.2 m) (importedBy g (.container k)) (ms.filterMap id) := by
  rw [importedBy]
  generalize k.imports = is at h ⊢
  induction h with
  | nil => exact .nil
  | @cons i m is ms hi _ ih =>
      obtain ⟨o, ho, hm⟩ := hi
      rw [List.filterMap_cons, List.filterMap_cons, ho]
      split at hm
      · next hb =>
          subst hm
          have hnone : (some o).filter (fun o => !o.bound) = none := by simp [Option.filter, hb]
          rw [hnone]
          exact ih
      · next hb =>
          obtain ⟨x, rfl, hx⟩ := hm
          have hsome : (some o).filter (fun o => !o.bound) = some o := by simp [Option.filter, hb]
          rw [hsome]
          exact .cons hx ih

/-- A class shows its declaration if the changes about it give what the declaration demands. -/
theorem shows_of_about (hx : (x, c) ∈ placed g s.types.length)
    (hd : d = (declareAll (declarations g) { store := s }).replay cs)
    (hbase : Option.Rel (fun b u => place? g s.types.length (targetName g b) = some u) x.base?
      ((about c cs).filterMap Change.base?).getLast?)
    (hproperties : List.Forall₂ (fun m y => IsProperty g s.types.length d.store c m (owned c y.2)) x.members
      ((about c cs).filterMap Change.property?))
    (hkey : List.Forall₂ (fun path p => d.store.findProperty c path = .ok p) x.keyPaths
      ((about c cs).filterMap Change.key?))
    (hmethods : List.Forall₂ (fun o m => IsMethod g s.types.length d.store o.1 o.2 m)
      ((boundTo g s.types.length c).map (·, "") ++ importedBy g x)
      ((about c cs).filterMap Change.method?)) :
    ∃ k, Shows g s.types.length d.store x c k := by
  subst hd
  have hclass := class?_declareAll (d := { store := s }) hx
  obtain ⟨k, hk⟩ := Draft.class?_replay cs hclass
  obtain ⟨k', htype, hhead⟩ := ((Declares.declareAll s).replay cs).classes hx
  obtain rfl : k' = k := by
    have hk' := hk.class?
    rw [Store.class?, htype] at hk'
    exact Option.some.inj hk'
  obtain ⟨ids, hids, hnew⟩ := hk.methods
  refine ⟨k', htype, hhead, ?_, ?_, ?_, ?_⟩
  · rwa [hk.base, x.base_detail, Option.or_none]
  · rw [Draft.declared_replay hclass x.properties_detail, map_snd_gained, List.forall₂_map_right_iff]
    exact hproperties
  · rwa [hk.key, x.key_detail, List.nil_append]
  · rw [hids, x.methods_detail, List.nil_append]
    exact Alignment.comp hmethods hnew.flip

/-- Members of two kinds become properties, those of the one kind before those of the other. -/
theorem forall₂_members {α β : Type} {as : List α} {bs : List β} {xs ys : List Property} {a : α → Member}
    {b : β → Member} (hxs : List.Forall₂ (fun m y => IsProperty g n s c (a m) (owned c y)) as xs)
    (hys : List.Forall₂ (fun m y => IsProperty g n s c (b m) (owned c y)) bs ys) :
    List.Forall₂ (fun m y => IsProperty g n s c m (owned c y.2)) (as.map a ++ bs.map b)
      (((xs ++ ys).map (Change.property c)).filterMap Change.property?) := by
  simp only [List.map_append, List.filterMap_append, List.filterMap_map, Function.comp_def, Change.property?,
    List.filterMap_eq_map']
  refine List.rel_append ?_ ?_
  · rwa [List.forall₂_map_left_iff, List.forall₂_map_right_iff]
  · rwa [List.forall₂_map_left_iff, List.forall₂_map_right_iff]

section Kinds

variable {bound : List (QualifiedName × MethodDetail)}

/-- An enumeration has the methods of the operations bound to it. -/
theorem shows_enum {t : Edm.EnumType} (hx : (.type (.enum t), c) ∈ placed g s.types.length)
    (hd : d = (declareAll (declarations g) { store := s }).replay cs)
    (habout : about c cs = bound.map (fun m => .method c m.1 m.2))
    (hbound : List.Forall₂ (fun o m => IsMethod g s.types.length d.store o "" m)
      (boundTo g s.types.length c) bound) :
    ∃ k, Shows g s.types.length d.store (.type (.enum t)) c k := by
  refine shows_of_about hx hd ?_ ?_ ?_ ?_
  all_goals rw [habout]
  · simpa [Function.comp_def, Change.base?] using .none
  · simp [Function.comp_def, Change.property?, Declaration.members]
  · simp [Function.comp_def, Change.key?, Declaration.keyPaths]
  · simpa [Function.comp_def, Change.method?, importedBy] using hbound

/-- A structured type has its base, its members and its key, and the methods of the operations bound to it. -/
theorem shows_structured {t : StructuredType} (hx : (.type (.structured t), c) ∈ placed g s.types.length)
    (hd : d = (declareAll (declarations g) { store := s }).replay cs)
    (hown : IsFilling g s.types.length d.store t c own)
    (habout : about c cs = own ++ bound.map (fun m => .method c m.1 m.2))
    (hbound : List.Forall₂ (fun o m => IsMethod g s.types.length d.store o "" m)
      (boundTo g s.types.length c) bound) :
    ∃ k, Shows g s.types.length d.store (.type (.structured t)) c k := by
  obtain ⟨members, keys, rfl, ⟨base, xs, ys, rfl, hbase, hxs, hys⟩, hkeys⟩ := hown
  refine shows_of_about hx hd ?_ ?_ ?_ ?_
  all_goals rw [habout]
  · have hlast : base.toList.getLast? = base := by cases base <;> rfl
    simpa [Function.comp_def, Change.base?, Declaration.base?, hlast] using hbase
  · have hmembers := forall₂_members (s := d.store) (c := c) (a := Member.structural) (b := Member.navigation)
      (hxs.imp fun p y hy => ⟨y, rfl, hy⟩) (hys.imp fun p y hy => ⟨y, rfl, hy⟩)
    simpa [Function.comp_def, Change.property?, Declaration.members] using hmembers
  · simpa [Function.comp_def, Change.key?, Declaration.keyPaths] using hkeys
  · simpa [Function.comp_def, Change.method?, importedBy] using hbound

/-- A container has its members, and the methods of the operations bound to it before those of its imports. -/
theorem shows_container {k : Container} (hx : (.container k, c) ∈ placed g s.types.length)
    (hd : d = (declareAll (declarations g) { store := s }).replay cs)
    (hown : IsOffering g s.types.length d.store k c own)
    (habout : about c cs = bound.map (fun m => .method c m.1 m.2) ++ own)
    (hbound : List.Forall₂ (fun o m => IsMethod g s.types.length d.store o "" m)
      (boundTo g s.types.length c) bound) :
    ∃ x, Shows g s.types.length d.store (.container k) c x := by
  obtain ⟨sets, singletons, ms, rfl, hsets, hsingletons, hms⟩ := hown
  refine shows_of_about hx hd ?_ ?_ ?_ ?_
  all_goals rw [habout]
  · simpa [Function.comp_def, Change.base?] using .none
  · have hmembers := forall₂_members (s := d.store) (c := c) (a := Member.offered true) (b := Member.offered false)
      (hsets.imp fun m y hy => ⟨y, rfl, hy⟩) (hsingletons.imp fun m y hy => ⟨y, rfl, hy⟩)
    simpa [Function.comp_def, Change.property?, Declaration.members] using hmembers
  · simp [Function.comp_def, Change.key?, Declaration.keyPaths]
  · have hnone : (((sets ++ singletons).map (Change.property c)).filterMap Change.method?) = [] := by
      simp [Function.comp_def, Change.method?]
    rw [List.filterMap_append, List.filterMap_append, hnone, filterMap_method?, filterMap_method?,
      List.nil_append]
    refine List.rel_append ?_ (forall₂_importedBy hms)
    rwa [List.forall₂_map_left_iff]

end Kinds

/-- Each declared class of a built draft shows its declaration. -/
theorem Built.shows (h : Built g s d) (hx : (x, c) ∈ placed g s.types.length) :
    ∃ k, Shows g s.types.length d.store x c k := by
  obtain ⟨fs, bs, es, hd, hfs, hbs, hes⟩ := h
  obtain ⟨bound, hboundAbout, hbound⟩ := about_bound hbs c
  have hplaces : ((placed g s.types.length).map (·.2)).Nodup := nodup_placedFrom
  -- The changes about the class are those of its own filling or offering and those of the bound operations.
  have habout : about c (fs.flatten ++ (bs.flatten ++ es.flatten)) =
      about c fs.flatten ++ (bound.map (fun m => .method c m.1 m.2) ++ about c es.flatten) := by
    rw [about_append, about_append, hboundAbout]
  rcases x with (t | t) | k
  · have hfill := about_flatten_of_not_mem (fun h => Filled.others h) hfs (not_mem_select hx rfl)
    have hoffer := about_flatten_of_not_mem (fun h => Offered.others h) hes (not_mem_select hx rfl)
    exact shows_enum hx hd (by rw [habout, hfill, hoffer, List.nil_append, List.append_nil]) hbound
  · obtain ⟨fcs, ⟨own, hown, hlogged⟩, hfill⟩ :=
      about_flatten_of_mem (fun h => Filled.others h) hfs (nodup_select hplaces) (mem_select.2 ⟨_, hx, rfl⟩)
    have hoffer := about_flatten_of_not_mem (fun h => Offered.others h) hes (not_mem_select hx rfl)
    exact shows_structured hx hd hown (by rw [habout, hfill, hlogged.own, hoffer, List.append_nil]) hbound
  · have hfill := about_flatten_of_not_mem (fun h => Filled.others h) hfs (not_mem_select hx rfl)
    obtain ⟨ecs, ⟨own, hown, hlogged⟩, hoffer⟩ :=
      about_flatten_of_mem (fun h => Offered.others h) hes (nodup_select hplaces) (mem_select.2 ⟨_, hx, rfl⟩)
    exact shows_container hx hd hown (by rw [habout, hfill, hoffer, hlogged.own, List.nil_append]) hbound

/-! ### Properties and lineages -/

/-- The properties of a class are all there, each once. -/
theorem Built.map_fst_declared (h : Built g s d) (hx : (x, c) ∈ placed g s.types.length) :
    ∃ k, d.store.class? c = some k ∧ (d.store.declared c).map (·.1) = k.properties ∧ k.properties.Nodup := by
  obtain ⟨fs, bs, es, rfl, -⟩ := h
  have hclass := class?_declareAll (d := { store := s }) hx
  obtain ⟨k, hk⟩ := Draft.class?_replay (fs.flatten ++ (bs.flatten ++ es.flatten)) hclass
  have hproperties := hk.properties
  rw [x.properties_detail, List.nil_append] at hproperties
  refine ⟨k, hk.class?, ?_, ?_⟩
  · rw [Draft.declared_replay hclass x.properties_detail, hproperties]
  · rw [hproperties]
    exact nodup_gained

/-- A lineage that begins at a declared class stays among the declared classes. -/
theorem Built.exists_placed_of_mem_lineageUpTo (h : Built g s d) {m : Nat} {u : TypeId}
    (hx : (x, c) ∈ placed g s.types.length) (hu : u ∈ d.store.lineageUpTo m c) :
    ∃ y, (y, u) ∈ placed g s.types.length := by
  induction m generalizing x c with
  | zero => cases hu
  | succ m ih =>
      obtain ⟨k, hk⟩ := h.shows hx
      rw [Store.lineageUpTo, hk.class?] at hu
      rcases List.mem_cons.1 hu with rfl | hu
      · exact ⟨x, hx⟩
      · cases hb : k.base with
        | none => simp [hb] at hu
        | some b =>
            rw [hb] at hu
            obtain ⟨w, -, hplace⟩ := Alignment.exists_of_some_right (hb ▸ hk.base)
            obtain ⟨y, hy, -⟩ := exists_placed_of_place? hplace
            exact ih hy hu

/-- What a member becomes has no projection. -/
theorem IsProperty.assigned {m : Member} {y : Property} (h : IsProperty g n s c m y) :
    y.assigned = none := by
  cases m with
  | structural p =>
      obtain ⟨x, rfl, t, -, rfl⟩ := h
      rfl
  | navigation p =>
      obtain ⟨x, rfl, t, -, rfl⟩ := h
      rfl
  | offered collection m =>
      obtain ⟨x, rfl, t, -, rfl⟩ := h
      rfl

theorem IsProperty.owner {m : Member} {y : Property} (h : IsProperty g n s c m y) : y.owner = some c := by
  cases m with
  | structural p =>
      obtain ⟨x, rfl, -⟩ := h
      rfl
  | navigation p =>
      obtain ⟨x, rfl, -⟩ := h
      rfl
  | offered collection m =>
      obtain ⟨x, rfl, -⟩ := h
      rfl

theorem Built.assigned (h : Built g s d) (hx : (x, c) ∈ placed g s.types.length)
    {p : PropertyId × Property} (hp : p ∈ d.store.declared c) : p.2.assigned = none := by
  obtain ⟨k, hk⟩ := h.shows hx
  obtain ⟨m, -, hm⟩ := Alignment.exists_of_mem_right hk.properties (List.mem_map_of_mem hp)
  exact hm.assigned

end Classes

end EntityModel.Compilation
