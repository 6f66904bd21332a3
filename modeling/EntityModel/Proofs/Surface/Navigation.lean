import EntityModel.Compilation.Attempt
import EntityModel.Proofs.CodeModel.Lineage
import EntityModel.Proofs.Outcome
import EntityModel.Surface.Basic

/-!
# Navigation and lookup

What a name means on a class is told in two ways. The lookup takes the first property with the name along the
lineage. The navigation of a surface takes the first navigation property with it. Both pass over the same
properties, those of the lineage from the nearest class on, so they differ exactly where a structural property comes
before a navigation property of the same name (`Hides`). There the surface shows the hidden property under the name
(`displays_nearest_iff`). It never shows two properties under one name, and it leaves out no navigation property
that the lookup finds.
-/

namespace EntityModel.Surface

open CodeModel

/-! ## The first properties with their names -/

section Unseen

variable {seen : List String} {ps : List (PropertyId × Property)} {p : PropertyId × Property}

/-- A navigation property with a name. -/
def leadsBy (name : String) (p : PropertyId × Property) : Bool := p.2.navigation && p.2.name = name

@[simp] theorem leadsBy_eq_true {name : String} : leadsBy name p = true ↔ p.2.navigation = true ∧ p.2.name = name := by
  simp [leadsBy]

/-- What is seen is the first navigation property with its name, if the name is not used before. -/
theorem mem_unseen_iff : p ∈ unseen seen ps ↔ p.2.name ∉ seen ∧ ps.find? (leadsBy p.2.name) = some p := by
  induction ps generalizing seen with
  | nil => simp [unseen]
  | cons q qs ih =>
      rw [unseen, List.find?_cons]
      -- The first property is either seen, and hides those with its name, or makes no difference.
      by_cases hseen : q.2.navigation = true ∧ q.2.name ∉ seen
      · obtain ⟨hnavigation, hfresh⟩ := hseen
        have hkeep : (!q.2.navigation || seen.contains q.2.name) = false := by simp [hnavigation, hfresh]
        rw [hkeep, if_neg Bool.false_ne_true, List.mem_cons, ih, List.mem_cons, not_or]
        by_cases hname : q.2.name = p.2.name
        · have hfirst : leadsBy p.2.name q = true := leadsBy_eq_true.2 ⟨hnavigation, hname⟩
          rw [hfirst, ← hname]
          simp [hfresh, eq_comm]
        · have hother : leadsBy p.2.name q = false := by simp [leadsBy, hname]
          have hne : p ≠ q := fun h => hname (h ▸ rfl)
          rw [hother]
          simp [hne, Ne.symm hname]
      · have hdrop : (!q.2.navigation || seen.contains q.2.name) = true := by
          cases hnavigation : q.2.navigation <;> simp_all
        rw [hdrop, if_pos rfl, ih]
        refine and_congr_right fun hfresh => ?_
        have hother : leadsBy p.2.name q = false := by
          rw [← Bool.not_eq_true, leadsBy_eq_true]
          rintro ⟨hnavigation, hname⟩
          exact hseen ⟨hnavigation, hname ▸ hfresh⟩
        rw [hother]

/-- No name is seen twice. -/
theorem nodup_unseen : ((unseen seen ps).map (·.2.name)).Nodup := by
  induction ps generalizing seen with
  | nil => exact List.nodup_nil
  | cons q qs ih =>
      rw [unseen]
      split
      · exact ih
      · refine List.nodup_cons.2 ⟨fun hmem => ?_, ih⟩
        obtain ⟨p, hp, hname⟩ := List.mem_map.1 hmem
        exact (mem_unseen_iff.1 hp).1 (hname ▸ List.mem_cons_self)

end Unseen

/-! ## Along a lineage -/

/-- An entry shows a property: its type, whether it leads to a collection, whether it can be expanded, and what can
be done with it. -/
structure Displays (s : Store) (p : Property) (e : Navigation) : Prop where
  type : e.type = s.fullName p.type
  collection : e.collection = p.collection
  expandable : e.expandable = supports p .expand
  accessors : e.accessors = accessors s p

/-- Along some classes a structural property comes before the first navigation property of the same name. -/
structure Hides (s : Store) (l : List TypeId) (p q : PropertyId × Property) : Prop where
  /-- It is the first property with the name. -/
  first : (l.flatMap s.declared).find? (fun x => x.2.name = q.2.name) = some p
  /-- It does not lead to other entities. -/
  structural : p.2.navigation = false
  /-- The other one is the first navigation property with the name. -/
  hidden : (l.flatMap s.declared).find? (leadsBy q.2.name) = some q

section Lineages

variable {s : Store} {t : TypeId} {l : List TypeId} {p : PropertyId × Property} {name : String}

/-- A navigation property that comes first among all properties with its name comes first among the navigation
properties with it. -/
theorem find?_leadsBy {ps : List (PropertyId × Property)} (h : ps.find? (fun x => x.2.name = name) = some p)
    (hp : p.2.navigation = true) : ps.find? (leadsBy name) = some p := by
  obtain ⟨hname, before, after, rfl, hbefore⟩ := List.find?_eq_some_iff_append.1 h
  refine List.find?_eq_some_iff_append.2 ⟨by simpa [hp] using hname, before, after, rfl, fun x hx => ?_⟩
  have hne : x.2.name ≠ name := by simpa using hbefore x hx
  simp [leadsBy, hne]

theorem mem_navigationProperties_iff (h : s.IsLineage t l) :
    p ∈ navigationProperties s t ↔ (l.flatMap s.declared).find? (leadsBy p.2.name) = some p := by
  rw [navigationProperties, mem_unseen_iff, h.lineage_eq]
  simp

theorem displays_navigationEntry : Displays s p.2 (navigationEntry s p.2) := ⟨rfl, rfl, rfl, rfl⟩

/-- Under each name there is at most one entry, and there is one if the lookup finds a navigation property, which it
displays. All entries display what the lookup finds exactly if those do whose property is hidden. -/
theorem displays_nearest_iff (h : s.IsLineage t l) :
    ((navigation s t).map (·.name)).Nodup ∧
      (∀ name p, s.nearest? t name = some p → p.2.navigation = true →
        ∃ e ∈ navigation s t, e.name = name ∧ Displays s p.2 e) ∧
      ((∀ e ∈ navigation s t, ∃ p, s.nearest? t e.name = some p ∧ Displays s p.2 e) ↔
        ∀ p q, Hides s l p q → Displays s p.2 (navigationEntry s q.2)) := by
  refine ⟨?_, fun name p hp hnavigation => ?_, fun hall p q hhides => ?_, fun hhidden e he => ?_⟩
  · rw [navigation, List.map_map]
    exact nodup_unseen
  · rw [h.nearest?_eq] at hp
    obtain rfl : p.2.name = name := by simpa using List.find?_some hp
    have hmem := (mem_navigationProperties_iff h).2 (find?_leadsBy hp hnavigation)
    exact ⟨_, List.mem_map_of_mem hmem, rfl, displays_navigationEntry⟩
  · have hmem := (mem_navigationProperties_iff h).2 hhides.hidden
    obtain ⟨p', hp', hdisplays⟩ := hall _ (List.mem_map_of_mem hmem)
    rw [h.nearest?_eq] at hp'
    obtain rfl := Option.some.inj (hp'.symm.trans hhides.first)
    exact hdisplays
  · obtain ⟨q, hq, rfl⟩ := List.mem_map.1 he
    have hfirst := (mem_navigationProperties_iff h).1 hq
    -- The entry's own property has the name, so the lookup finds one, if perhaps another.
    obtain ⟨p, hp⟩ : ∃ p, (l.flatMap s.declared).find? (fun x => x.2.name = q.2.name) = some p :=
      Option.isSome_iff_exists.1 (List.find?_isSome.2 ⟨q, List.mem_of_find?_eq_some hfirst, by simp⟩)
    refine ⟨p, (h.nearest?_eq _).trans hp, ?_⟩
    cases hnavigation : p.2.navigation with
    | false => exact hhidden p q ⟨hp, hnavigation, hfirst⟩
    | true =>
        obtain rfl := Option.some.inj ((find?_leadsBy hp hnavigation).symm.trans hfirst)
        exact displays_navigationEntry

end Lineages

/-! ## Redefinitions -/

section Redefinitions

open Compilation (compileGraph)
open Edm (Graph)

/-- A graph with a type that has a link, and another one that extends it and has members of its own. -/
def linkGraph (properties : List Edm.Property) (navigation : List Edm.NavigationProperty) : Graph :=
  { schemas :=
      [{ space := "NS",
         entities := [
          { name := ⟨"NS", "Base"⟩, kind := .entity, key := ["ID"],
            properties := [{ name := "ID", type := "Edm.Int32" }],
            navigation := [{ name := "Link", type := "NS.Base" }] },
          { name := ⟨"NS", "Derived"⟩, kind := .entity, base := some "NS.Base", properties, navigation }],
         containers := [
          { name := ⟨"NS", "Service"⟩,
            sets := [{ name := "Items", type := "NS.Derived", container := "NS.Service" }] }] }] }

/-- The place of the type that extends the other one. -/
def derivedPlace : TypeId := ⟨1⟩

/-- The lineage of the type that extends the other one. -/
def derivedLineage : List TypeId := [⟨1⟩, ⟨0⟩]

theorem isLineage_derived {s : Store} (hbase : (s.class? ⟨1⟩).map (·.base) = some (some ⟨0⟩))
    (hlast : (s.class? ⟨0⟩).map (·.base) = some none) : s.IsLineage derivedPlace derivedLineage := by
  obtain ⟨k, hk, hkb⟩ := Option.map_eq_some_iff.1 hbase
  obtain ⟨k', hk', hkb'⟩ := Option.map_eq_some_iff.1 hlast
  exact .step hk hkb (.last hk' hkb')

/-- Where a link is declared anew as a link, the surface shows the nearest one. -/
theorem displays_nearest_of_redefined :
    ∃ r, compileGraph {} none [] {}
        (linkGraph [] [{ name := "Link", type := "NS.Derived", collection := true }]) = .ok r ∧
      r.store.IsLineage derivedPlace derivedLineage ∧
      (navigation r.store derivedPlace).map (·.name) = ["Link"] ∧
      ∀ e ∈ navigation r.store derivedPlace,
        ∃ p, r.store.nearest? derivedPlace e.name = some p ∧ Displays r.store p.2 e := by
  have hcompiles : (compileGraph {} none [] {}
      (linkGraph [] [{ name := "Link", type := "NS.Derived", collection := true }])).toOption.any (fun r =>
        (r.store.class? ⟨1⟩).map (·.base) = some (some ⟨0⟩) ∧ (r.store.class? ⟨0⟩).map (·.base) = some none ∧
        (navigation r.store derivedPlace).map (·.name) = ["Link"] ∧
        ∀ p ∈ derivedLineage.flatMap r.store.declared, ∀ q ∈ derivedLineage.flatMap r.store.declared,
          p.2.name = q.2.name → p.2.navigation = q.2.navigation) = true := by decide +kernel
  obtain ⟨r, hr, hfacts⟩ := exists_of_any_toOption hcompiles
  obtain ⟨hbase, hlast, hnames, hsame⟩ := of_decide_eq_true hfacts
  have hlineage := isLineage_derived hbase hlast
  refine ⟨r, hr, hlineage, hnames, (displays_nearest_iff hlineage).2.2.2 fun p q hhides => ?_⟩
  have hname : p.2.name = q.2.name := by simpa using List.find?_some hhides.first
  have hnavigation := hsame p (List.mem_of_find?_eq_some hhides.first) q
    (List.mem_of_find?_eq_some hhides.hidden) hname
  have hq := (leadsBy_eq_true.1 (List.find?_some hhides.hidden)).1
  rw [hhides.structural, hq] at hnavigation
  cases hnavigation

/-- Where a link is declared anew as a structural property, the surface still shows the link, although the lookup
finds the structural property. -/
theorem displays_nearest_of_hidden :
    ∃ r, compileGraph {} none [] {} (linkGraph [{ name := "Link", type := "Edm.String" }] []) = .ok r ∧
      r.store.IsLineage derivedPlace derivedLineage ∧
      ∃ e ∈ navigation r.store derivedPlace, ∃ p, r.store.nearest? derivedPlace e.name = some p ∧
        p.2.navigation = false ∧ ¬ Displays r.store p.2 e := by
  have hcompiles : (compileGraph {} none [] {}
      (linkGraph [{ name := "Link", type := "Edm.String" }] [])).toOption.any (fun r =>
        (r.store.class? ⟨1⟩).map (·.base) = some (some ⟨0⟩) ∧ (r.store.class? ⟨0⟩).map (·.base) = some none ∧
        ∃ e ∈ navigation r.store derivedPlace, ∃ p ∈ r.store.nearest? derivedPlace e.name,
          p.2.navigation = false ∧ e.type ≠ r.store.fullName p.2.type) = true := by decide +kernel
  obtain ⟨r, hr, hfacts⟩ := exists_of_any_toOption hcompiles
  obtain ⟨hbase, hlast, e, he, p, hp, hstructural, htype⟩ := of_decide_eq_true hfacts
  exact ⟨r, hr, isLineage_derived hbase hlast, e, he, p, hp, hstructural, fun hdisplays => htype hdisplays.type⟩

end Redefinitions

end EntityModel.Surface
