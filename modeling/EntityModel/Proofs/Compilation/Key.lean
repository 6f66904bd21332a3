import EntityModel.Proofs.CodeModel.Lineage
import EntityModel.Proofs.Compilation.Stage

/-!
# Key paths in time

A key path is followed while the class of its type is being filled. Then the class itself and those filled
before it have their bases and properties, and all others are blank. Which paths lead to a property at that
point is told by the graph alone: a path `Finds` a property among some structured types if each name of it belongs
to a member of one of them, looked up along the bases. `IsStage.findProperty_iff` shows that this is what the
walk through the draft finds.
-/

namespace EntityModel.Compilation

open CodeModel
open Edm (Graph StructuredType NamedType)

/-! ## What a graph says about paths -/

/-- The structured types of a graph, in the order in which they are filled. -/
def structuredTypes (g : Graph) : List StructuredType := (declarations g).filterMap Declaration.structured?

/-- The first declaration with a name, if it is a structured type. -/
def structured? (g : Graph) (name : QualifiedName) : Option StructuredType :=
  (declaration? g name).bind Declaration.structured?

/-- One structured type extends another. -/
def Extends (g : Graph) (t u : StructuredType) : Prop :=
  ∃ base, given t.base = some base ∧ structured? g (targetName g base) = some u

/-- No chain of bases goes on forever. -/
def AcyclicBases (g : Graph) : Prop := WellFounded fun u t => Extends g t u

/-- No two types have the same name. -/
def DistinctTypes (g : Graph) : Prop := (g.types.map NamedType.name).Nodup

instance (g : Graph) : Decidable (DistinctTypes g) :=
  inferInstanceAs (Decidable (g.types.map NamedType.name).Nodup)

/-- The names of what becomes properties of a structured type, with their types as written. -/
def memberTypes (t : StructuredType) : List (String × String) :=
  t.properties.map (fun p => (p.name, p.type)) ++ t.navigation.map fun p => (p.name, p.type)

/-- The first member of a structured type with a name. -/
def member? (t : StructuredType) (name : String) : Option (String × String) :=
  (memberTypes t).find? fun m => m.1 = name

theorem fst_of_member? {t : StructuredType} {name : String} {m : String × String}
    (h : member? t name = some m) : m.1 = name := by
  rw [member?] at h
  simpa using List.find?_some h

/-- A structured type, or the nearest one that it extends, has a member with a name, of a type as written; all of
them are among some structured types. -/
inductive Nearest (g : Graph) (filled : List StructuredType) (name : String) :
    StructuredType → String → Prop where
  /-- The member is an own one. -/
  | own {t : StructuredType} {type : String} :
      t ∈ filled → member? t name = some (name, type) → Nearest g filled name t type
  /-- The member is one of the base. -/
  | inherited {t u : StructuredType} {type : String} :
      t ∈ filled → member? t name = none → Extends g t u → Nearest g filled name u type →
        Nearest g filled name t type

/-- A path of names leads from a structured type to a member among some structured types. -/
inductive Finds (g : Graph) (filled : List StructuredType) : StructuredType → List String → Prop where
  /-- The last name is that of a member. -/
  | last {t : StructuredType} {name type : String} : Nearest g filled name t type → Finds g filled t [name]
  /-- The path goes on from the type of a member. -/
  | step {t u : StructuredType} {name next type : String} {more : List String} :
      Nearest g filled name t type → (targetName g type).space ≠ primitiveSpace →
        structured? g (targetName g type) = some u → Finds g filled u (next :: more) →
          Finds g filled t (name :: next :: more)

/-- Each key path leads to a member among the types that are declared up to its own. -/
def KeysInTime (g : Graph) : Prop :=
  ∀ pre t post, structuredTypes g = pre ++ t :: post →
    ∀ path ∈ t.key, Finds g (pre ++ [t]) t (Text.segments '.' path)

/-! ## Stages -/

/-- The classes of some structured types have been filled, and all other declared classes are blank. -/
structure IsStage (g : Graph) (n : Nat) (filled : List (StructuredType × TypeId)) (s : Store) : Prop where
  /-- What has been filled has been declared. -/
  declared : ∀ x ∈ filled, (.type (.structured x.1), x.2) ∈ placed g n
  /-- What has been filled has its base and its properties. -/
  members : ∀ x ∈ filled, ∃ k, s.class? x.2 = some k ∧
    Option.Rel (fun b u => place? g n (targetName g b) = some u) (given x.1.base) k.base ∧
    List.Forall₂ (fun m p => p.2.name = m.1 ∧ Means g n s (targetName g m.2) p.2.type) (memberTypes x.1)
      (s.declared x.2)
  /-- The others are blank. -/
  blank : ∀ {x c}, (x, c) ∈ placed g n → c ∉ filled.map (·.2) →
    ∃ k, s.class? c = some k ∧ k.base = none ∧ s.declared c = []

section Places

variable {g : Graph} {n : Nat} {t u : StructuredType} {c b : TypeId} {name : QualifiedName}

theorem map_fst_structuredOf : (structuredOf (placed g n)).map (·.1) = structuredTypes g :=
  map_fst_select Declaration.structured? (declarations g)

theorem placed_of_structuredOf (h : (t, c) ∈ structuredOf (placed g n)) :
    (.type (.structured t), c) ∈ placed g n := by
  obtain ⟨x, hx, hxt⟩ := mem_select.1 h
  rcases x with (e | t') | k
  · cases hxt
  · obtain rfl := Option.some.inj hxt
    exact hx
  · cases hxt

theorem filterMap_type?_declarations : (declarations g).filterMap Declaration.type? = g.types := by
  rw [declarations, Graph.types, List.filterMap_flatMap]
  congr 1
  funext s
  rw [declarationsOf, List.filterMap_append, List.filterMap_map, List.filterMap_map]
  have hcontainers : s.containers.filterMap (Declaration.type? ∘ Declaration.container) = [] :=
    List.filterMap_eq_nil_iff.2 fun _ _ => rfl
  rw [hcontainers, List.append_nil]
  exact List.filterMap_some

/-- A type has one place if no two types have the same name. -/
theorem DistinctTypes.unique (h : DistinctTypes g) {x y : NamedType} (hx : (.type x, c) ∈ placed g n)
    (hy : (.type y, b) ∈ placed g n) (hname : x.name = y.name) : x = y ∧ c = b := by
  have hnames : (((select Declaration.type? (placed g n)).map (·.1)).map NamedType.name).Nodup := by
    rw [placed, map_fst_select, filterMap_type?_declarations]
    exact h
  rw [List.map_map] at hnames
  have hsame := List.inj_on_of_nodup_map hnames (mem_select.2 ⟨_, hx, rfl⟩) (mem_select.2 ⟨_, hy, rfl⟩) hname
  exact ⟨congrArg Prod.fst hsame, congrArg Prod.snd hsame⟩

theorem exists_place_of_structured? (n : Nat) (h : structured? g name = some u) :
    ∃ b, place? g n name = some b ∧ (.type (.structured u), b) ∈ placed g n := by
  obtain ⟨x, hx, hxu⟩ := Option.bind_eq_some_iff.1 h
  obtain ⟨b, hb, hplaced⟩ := exists_place n hx
  rcases x with (e | t) | k
  · cases hxu
  · obtain rfl := Option.some.inj hxu
    exact ⟨b, hb, hplaced⟩
  · cases hxu

theorem mem_of_structured? (h : structured? g name = some u) : u ∈ structuredTypes g := by
  obtain ⟨x, hx, hxu⟩ := Option.bind_eq_some_iff.1 h
  exact List.mem_filterMap.2 ⟨x, List.mem_of_find?_eq_some hx, hxu⟩

/-- No chain of bases goes on forever if each type has a higher rank than its base. -/
theorem acyclicBases_of_rank (rank : StructuredType → Nat)
    (h : ∀ t ∈ structuredTypes g, ∀ base ∈ given t.base, ∀ u ∈ structured? g (targetName g base), rank u < rank t) :
    AcyclicBases g := by
  have hacc : ∀ m t, rank t = m → t ∈ structuredTypes g → Acc (fun u t => Extends g t u) t := by
    intro m
    induction m using Nat.strongRecOn with
    | _ m ih =>
        rintro t rfl ht
        refine ⟨t, ?_⟩
        rintro u ⟨base, hbase, hu⟩
        exact ih (rank u) (h t ht base hbase u hu) u rfl (mem_of_structured? hu)
  refine ⟨fun t => ⟨t, ?_⟩⟩
  rintro u ⟨base, -, hu⟩
  exact hacc _ u rfl (mem_of_structured? hu)

end Places

section Walks

variable {g : Graph} {n : Nat} {filled : List (StructuredType × TypeId)} {s : Store} {x : Declaration}
variable {t : StructuredType} {c : TypeId} {name type : String} {e : PropertyId × Property} {p : PropertyId}
variable {path : List String}

/-- The first member with a name becomes the first property with it. -/
theorem member?_rel {es : List (PropertyId × Property)}
    (h : List.Forall₂ (fun m p => p.2.name = m.1 ∧ Means g n s (targetName g m.2) p.2.type) (memberTypes t) es) :
    Option.Rel (fun m p => p.2.name = m.1 ∧ Means g n s (targetName g m.2) p.2.type)
      (member? t name) (es.find? fun p => p.2.name = name) :=
  Alignment.find?_rel h fun _ _ hp => by rw [hp.1]

/-- What a walk finds along a lineage is a member in the sense of the graph. -/
theorem IsStage.nearest (h : IsStage g n filled s) {m : Nat} (hx : (x, c) ∈ placed g n)
    (he : (s.lineageUpTo m c).findSome? (fun u => s.ownProperty? u name) = some e) :
    ∃ t type, x = .type (.structured t) ∧ Nearest g (filled.map (·.1)) name t type ∧
      Means g n s (targetName g type) e.2.type := by
  induction m generalizing x c with
  | zero => cases he
  | succ m ih =>
      by_cases hc : c ∈ filled.map (·.2)
      · obtain ⟨⟨t, c⟩, ht, rfl⟩ := List.mem_map.1 hc
        obtain rfl := placedFrom_unique hx (h.declared _ ht)
        have hmem : t ∈ filled.map (·.1) := List.mem_map_of_mem ht
        obtain ⟨k, hk, hbase, hmembers⟩ := h.members _ ht
        rw [Store.lineageUpTo, hk, List.findSome?_cons] at he
        have hown : Option.Rel _ (member? t name) (s.ownProperty? c name) := member?_rel hmembers
        cases hp : s.ownProperty? c name with
        | some p =>
            rw [hp] at he hown
            obtain rfl := Option.some.inj he
            obtain ⟨⟨_, type⟩, hm, -, hmeans⟩ := Alignment.exists_of_some_right hown
            obtain rfl := fst_of_member? hm
            exact ⟨t, type, rfl, .own hmem hm, hmeans⟩
        | none =>
            rw [hp] at he hown
            cases hb : k.base with
            | none => simp [hb] at he
            | some b =>
                rw [hb] at he hbase
                obtain ⟨base, hgiven, hplace⟩ := Alignment.exists_of_some_right hbase
                obtain ⟨y, hy, hyb⟩ := exists_declaration hplace
                obtain ⟨u, type, rfl, hnearest, hmeans⟩ := ih hyb he
                refine ⟨t, type, rfl, .inherited hmem ((Alignment.eq_none_iff hown).2 rfl) ?_ hnearest, hmeans⟩
                exact ⟨base, hgiven, by rw [structured?, hy]; rfl⟩
      -- A class that has not been filled yet is blank, and the lineage ends there.
      · obtain ⟨k, hk, hbase, hnone⟩ := h.blank hx hc
        simp [Store.lineageUpTo, hk, hbase, Store.ownProperty?, hnone] at he

theorem IsStage.exists_mem (h : IsStage g n filled s) (hd : DistinctTypes g)
    (ht : (.type (.structured t), c) ∈ placed g n) (hmem : t ∈ filled.map (·.1)) : (t, c) ∈ filled := by
  obtain ⟨⟨t, c'⟩, hfilled, rfl⟩ := List.mem_map.1 hmem
  obtain ⟨-, rfl⟩ := hd.unique (h.declared _ hfilled) ht rfl
  exact hfilled

/-- What is a member in the sense of the graph is found by the walk. -/
theorem IsStage.nearest? (h : IsStage g n filled s) (hd : DistinctTypes g)
    (hlineage : ∀ {y b}, (y, b) ∈ placed g n → ∃ l, s.IsLineage b l)
    (hnearest : Nearest g (filled.map (·.1)) name t type) (ht : (.type (.structured t), c) ∈ placed g n) :
    ∃ e, s.nearest? c name = some e ∧ Means g n s (targetName g type) e.2.type := by
  induction hnearest generalizing c with
  | own hmem hm =>
      obtain ⟨k, hk, -, hmembers⟩ := h.members _ (h.exists_mem hd ht hmem)
      obtain ⟨l, hl⟩ := hlineage ht
      have hown : Option.Rel _ (member? _ name) (s.ownProperty? c name) := member?_rel hmembers
      rw [hm] at hown
      obtain ⟨e, he, -, hmeans⟩ := Alignment.exists_of_some_left hown
      refine ⟨e, ?_, hmeans⟩
      rw [Store.nearest?, hl.lineage_of_class hk, List.findSome?_cons, he]
  | inherited hmem hm hextends _ ih =>
      obtain ⟨k, hk, hbase, hmembers⟩ := h.members _ (h.exists_mem hd ht hmem)
      obtain ⟨l, hl⟩ := hlineage ht
      have hown : Option.Rel _ (member? _ name) (s.ownProperty? c name) := member?_rel hmembers
      obtain ⟨base, hgiven, hu⟩ := hextends
      obtain ⟨b, hb, hplaced⟩ := exists_place_of_structured? n hu
      rw [hgiven] at hbase
      obtain ⟨b', hkb, hb'⟩ := Alignment.exists_of_some_left hbase
      obtain rfl := Option.some.inj (hb.symm.trans hb')
      obtain ⟨e, he, hmeans⟩ := ih hplaced
      refine ⟨e, ?_, hmeans⟩
      rw [Store.nearest?, hl.lineage_of_class hk, List.findSome?_cons, (Alignment.eq_none_iff hown).1 hm, hkb]
      exact he

/-- A walk that succeeds has gone through members in the sense of the graph. -/
theorem IsStage.finds (h : IsStage g n filled s) (hx : (x, c) ∈ placed g n) (hp : s.follow c path = .ok p) :
    ∃ t, x = .type (.structured t) ∧ Finds g (filled.map (·.1)) t path := by
  induction path generalizing x c with
  | nil => simp [Store.follow] at hp
  | cons name more ih =>
      cases more with
      | nil =>
          rw [Store.follow] at hp
          cases he : s.nearest? c name with
          | none => simp [he] at hp
          | some e =>
              obtain ⟨t, type, rfl, hnearest, -⟩ := h.nearest hx he
              exact ⟨t, rfl, .last hnearest⟩
      | cons next more =>
          rw [Store.follow] at hp
          cases he : s.nearest? c name with
          | none => simp [he] at hp
          | some e =>
              obtain ⟨t, type, rfl, hnearest, hmeans⟩ := h.nearest hx he
              simp only [he] at hp
              split at hp
              · next hclass =>
                  unfold Means at hmeans
                  split at hmeans
                  · rw [Store.isClass, Store.class?, hmeans] at hclass
                    cases hclass
                  · next hspace =>
                      obtain ⟨y, hy, hye⟩ := exists_declaration hmeans
                      obtain ⟨u, rfl, hfinds⟩ := ih hye hp
                      refine ⟨t, rfl, .step hnearest hspace ?_ hfinds⟩
                      rw [structured?, hy]
                      rfl
              · cases hp

/-- A path of members in the sense of the graph can be walked. -/
theorem IsStage.follow (h : IsStage g n filled s) (hd : DistinctTypes g)
    (hlineage : ∀ {y b}, (y, b) ∈ placed g n → ∃ l, s.IsLineage b l)
    (hfinds : Finds g (filled.map (·.1)) t path) (ht : (.type (.structured t), c) ∈ placed g n) :
    ∃ p, s.follow c path = .ok p := by
  induction hfinds generalizing c with
  | last hnearest =>
      obtain ⟨e, he, -⟩ := h.nearest? hd hlineage hnearest ht
      exact ⟨e.1, by rw [Store.follow, he]⟩
  | step hnearest hspace hu _ ih =>
      obtain ⟨e, he, hmeans⟩ := h.nearest? hd hlineage hnearest ht
      obtain ⟨b, hb, hplaced⟩ := exists_place_of_structured? n hu
      rw [Means, if_neg hspace, hb] at hmeans
      obtain rfl := Option.some.inj hmeans
      obtain ⟨p, hp⟩ := ih hplaced
      have hclass : s.isClass e.2.type := by
        by_cases hc : e.2.type ∈ filled.map (·.2)
        · obtain ⟨y, hy, hye⟩ := List.mem_map.1 hc
          obtain ⟨k, hk, -⟩ := h.members _ hy
          rw [Store.isClass, ← hye, hk]
          rfl
        · obtain ⟨k, hk, -⟩ := h.blank hplaced hc
          rw [Store.isClass, hk]
          rfl
      refine ⟨p, ?_⟩
      rw [Store.follow, he]
      dsimp only
      rw [if_pos hclass, hp]

/-- A key path leads to a property exactly if it does in the sense of the graph. -/
theorem IsStage.findProperty_iff (h : IsStage g n filled s) (hd : DistinctTypes g)
    (hlineage : ∀ {y b}, (y, b) ∈ placed g n → ∃ l, s.IsLineage b l)
    (ht : (.type (.structured t), c) ∈ placed g n) {full : String} :
    (∃ p, s.findProperty c full = .ok p) ↔ Finds g (filled.map (·.1)) t (Text.segments '.' full) := by
  simp only [Store.findProperty, mapError_eq_ok_iff]
  constructor
  · rintro ⟨p, hp⟩
    obtain ⟨u, hu, hfinds⟩ := h.finds ht hp
    obtain rfl : t = u := by simpa using hu
    exact hfinds
  · intro hfinds
    exact h.follow hd hlineage hfinds ht

end Walks

/-! ## Lineages of a stage -/

/-- The bases of the declared classes are among those that the graph names. -/
def HasBases (g : Graph) (n : Nat) (s : Store) : Prop :=
  ∀ x c, (x, c) ∈ placed g n → ∃ k, s.class? c = some k ∧
    ∀ b ∈ k.base, ∃ base, x.base? = some base ∧ place? g n (targetName g base) = some b

section Lineages

variable {g : Graph} {n : Nat} {s : Store} {x : Declaration} {c : TypeId}

theorem HasBases.isLineage_of_blank (h : HasBases g n s) (hx : (x, c) ∈ placed g n) (hb : x.base? = none) :
    s.IsLineage c [c] := by
  obtain ⟨k, hk, hbase⟩ := h x c hx
  refine .last hk ?_
  cases hkb : k.base with
  | none => rfl
  | some b =>
      obtain ⟨base, hgiven, -⟩ := hbase b hkb
      rw [hb] at hgiven
      cases hgiven

/-- If no chain of bases goes on forever, each declared class has a lineage that ends. -/
theorem HasBases.exists_isLineage (h : HasBases g n s) (hacyclic : AcyclicBases g)
    (hx : (x, c) ∈ placed g n) : ∃ l, s.IsLineage c l := by
  have hstructured : ∀ t c, (.type (.structured t), c) ∈ placed g n → ∃ l, s.IsLineage c l := by
    intro t
    induction t using hacyclic.induction with
    | _ t ih =>
        intro c ht
        obtain ⟨k, hk, hbase⟩ := h _ c ht
        cases hb : k.base with
        | none => exact ⟨[c], .last hk hb⟩
        | some b =>
            obtain ⟨base, hgiven, hplace⟩ := hbase b hb
            obtain ⟨y, hy, hyb⟩ := exists_declaration hplace
            rcases y with (e | u) | k'
            · exact ⟨_, .step hk hb (h.isLineage_of_blank hyb rfl)⟩
            · obtain ⟨l, hl⟩ := ih u ⟨base, hgiven, by rw [structured?, hy]; rfl⟩ b hyb
              exact ⟨_, .step hk hb hl⟩
            · exact ⟨_, .step hk hb (h.isLineage_of_blank hyb rfl)⟩
  rcases x with (e | t) | k
  · exact ⟨_, h.isLineage_of_blank hx rfl⟩
  · exact hstructured t c hx
  · exact ⟨_, h.isLineage_of_blank hx rfl⟩

theorem IsStage.hasBases {filled : List (StructuredType × TypeId)} (h : IsStage g n filled s) :
    HasBases g n s := by
  intro x c hx
  by_cases hc : c ∈ filled.map (·.2)
  · obtain ⟨y, hy, rfl⟩ := List.mem_map.1 hc
    obtain rfl := placedFrom_unique hx (h.declared y hy)
    obtain ⟨k, hk, hbase, -⟩ := h.members y hy
    refine ⟨k, hk, fun b hb => ?_⟩
    rw [Option.mem_def.1 hb] at hbase
    obtain ⟨base, hgiven, hplace⟩ := Alignment.exists_of_some_right hbase
    exact ⟨base, hgiven, hplace⟩
  · obtain ⟨k, hk, hbase, -⟩ := h.blank hx hc
    refine ⟨k, hk, fun b hb => ?_⟩
    rw [hbase] at hb
    cases hb

end Lineages

/-! ## The stages of a compilation -/

section Stages

variable {g : Graph} {n : Nat} {s : Store} {pre post : List (StructuredType × TypeId)}
variable {x : StructuredType × TypeId} {t : StructuredType} {c : TypeId} {cs own : List Change}
variable {css : List (List Change)} {names : List QualifiedName}

/-- The changes that add the members of a type give its class the base and one property for each member. -/
theorem IsMembers.gives (h : IsMembers g n s t c own) (hlead : MembersLead g t) (ps : List PropertyId) :
    Option.Rel (fun b u => place? g n (targetName g b) = some u) (given t.base)
        ((own ++ ps.map (Change.key c)).filterMap Change.base?).getLast? ∧
      List.Forall₂ (fun m (y : Property) => y.name = m.1 ∧ Means g n s (targetName g m.2) y.type) (memberTypes t)
        (((own ++ ps.map (Change.key c)).filterMap Change.property?).map fun y => owned c y.2) := by
  obtain ⟨base, xs, ys, rfl, hbase, hxs, hys⟩ := h
  have hlast : base.toList.getLast? = base := by cases base <;> rfl
  constructor
  · simpa [Function.comp_def, Change.base?, hlast] using hbase
  · simp only [List.filterMap_append, List.filterMap_map, Function.comp_def, Change.property?,
      List.filterMap_none, List.filterMap_eq_map', List.nil_append, List.append_nil, List.map_append,
      List.map_map, memberTypes]
    refine List.rel_append ?_ ?_
    · rw [List.forall₂_map_left_iff, List.forall₂_map_right_iff]
      refine hxs.imp ?_
      rintro p _ ⟨u, hu, rfl⟩
      exact ⟨rfl, hu⟩
    · rw [List.forall₂_map_left_iff, List.forall₂_map_right_iff]
      refine Alignment.imp_of_mem hys ?_
      rintro p _ hp ⟨u, hu, rfl⟩
      exact ⟨rfl, by rwa [Means, if_neg (hlead.navigation p hp).1]⟩

/-- The changes about a class filled so far are its members, and behind them its key if that has been added. -/
theorem about_of_filled {s' s'' : Store} (hpre : (pre.map (·.2)).Nodup) (hnew : x.2 ∉ pre.map (·.2))
    (hs : s'.Completes s'') (hcss : List.Forall₂ (Filled g n s') pre css) (hown : IsMembers g n s'' x.1 x.2 own)
    (hlogged : Logged x.2 own names cs) {y : StructuredType × TypeId} (hy : y ∈ pre ++ [x]) :
    ∃ (members : List Change) (ps : List PropertyId),
      about y.2 (css.flatten ++ cs) = members ++ ps.map (.key y.2) ∧ IsMembers g n s'' y.1 y.2 members := by
  rw [about_append]
  rcases List.mem_append.1 hy with hy | hy
  · obtain ⟨cs', ⟨own', ⟨members, ps, rfl, hmembers, -⟩, hlogged'⟩, heq⟩ :=
      about_flatten_of_mem (fun h => Filled.others h) hcss hpre hy
    have hne : y.2 ≠ x.2 := fun he => hnew (he ▸ List.mem_map_of_mem hy)
    exact ⟨members, ps, by rw [heq, hlogged'.own, hlogged.others _ hne, List.append_nil], hmembers.mono hs⟩
  · obtain rfl := List.mem_singleton.1 hy
    refine ⟨own, [], ?_, hown⟩
    rw [about_flatten_of_not_mem (fun h => Filled.others h) hcss hnew, hlogged.own]
    simp

/-- When the members of a type have been added, the draft is at the stage where this type and those before it have
been filled. -/
theorem isStage_of_filled (hall : structuredOf (placed g s.types.length) = pre ++ x :: post)
    {d : Draft} {s' : Store} (hd : d = (declareAll (declarations g) { store := s }).replay (css.flatten ++ cs))
    (hs : s'.Completes d.store) (hlead : ∀ y ∈ pre ++ [x], MembersLead g y.1)
    (hcss : List.Forall₂ (Filled g s.types.length s') pre css)
    (hown : IsMembers g s.types.length d.store x.1 x.2 own) (hlogged : Logged x.2 own names cs) :
    IsStage g s.types.length (pre ++ [x]) d.store := by
  have hnodup : ((pre ++ x :: post).map (·.2)).Nodup := hall ▸ nodup_select nodup_placedFrom
  rw [List.map_append, List.map_cons, List.nodup_append] at hnodup
  obtain ⟨hpre, -, happart⟩ := hnodup
  have hnew : x.2 ∉ pre.map (·.2) := fun hx => happart _ hx _ List.mem_cons_self rfl
  have hdeclared : ∀ y ∈ pre ++ [x], (.type (.structured y.1), y.2) ∈ placed g s.types.length := by
    intro y hy
    refine placed_of_structuredOf (hall ▸ ?_)
    rcases List.mem_append.1 hy with hy | hy
    · exact List.mem_append_left _ hy
    · obtain rfl := List.mem_singleton.1 hy
      simp
  refine ⟨hdeclared, fun y hy => ?_, fun {z c} hz hc => ?_⟩
  · obtain ⟨k, hk, hbase, hproperties⟩ := exists_class_replay (css.flatten ++ cs) (hdeclared y hy)
    obtain ⟨members, ps, habout, hmembers⟩ := about_of_filled hpre hnew hs hcss hown hlogged hy
    obtain ⟨hrel, hall⟩ := hmembers.gives (hlead y hy) ps
    rw [← hd] at hk hproperties
    rw [← habout, ← hbase] at hrel
    rw [← habout, ← hproperties, List.forall₂_map_right_iff] at hall
    exact ⟨k, hk, hrel, hall⟩
  · obtain ⟨k, hk, hbase, hproperties⟩ := exists_class_replay (css.flatten ++ cs) hz
    rw [List.map_append, List.mem_append, not_or] at hc
    have hne : c ≠ x.2 := fun he => hc.2 (by simp [he])
    have hnone : about c (css.flatten ++ cs) = [] := by
      rw [about_append, about_flatten_of_not_mem (fun h => Filled.others h) hcss hc.1, hlogged.others c hne]
      rfl
    rw [hnone] at hbase hproperties
    rw [← hd] at hk hproperties
    exact ⟨k, hk, hbase, List.map_eq_nil_iff.1 hproperties⟩

end Stages

end EntityModel.Compilation
