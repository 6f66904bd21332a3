import EntityModel.Proofs.Compilation.Rearrangement
import EntityModel.Proofs.Csdl.Document

/-!
# Where declarations are

A schema gives its namespace to whatever is declared in it. So the declarations of a graph that has been read from a
document are located in the namespaces of their schemas (`located_of_readText`).
-/

namespace EntityModel.Csdl

open Compilation (Located declarationsOf)
open Edm (Graph Schema)

/-! ## Schemas -/

/-- The class that a part declares is in a namespace. -/
def SchemaPart.IsIn (space : String) : SchemaPart → Prop
  | structured t => t.name.space = space
  | enum t => t.name.space = space
  | container c _ => c.name.space = space
  | _ => True

section Schemas

variable {ctx : Context} {space : String} {e : Xml.Element}

theorem readStructured_ensures (kind : Edm.StructuredKind) :
    (readStructured ctx space kind e).Ensures fun t => t.name.space = space := by
  unfold readStructured
  repeat refine Reading.ensures_bind fun _ => ?_
  exact Reading.ensures_pure rfl

theorem readEnum_ensures : (readEnum ctx space e).Ensures fun t => t.name.space = space := by
  unfold readEnum
  repeat refine Reading.ensures_bind fun _ => ?_
  exact Reading.ensures_pure rfl

theorem readContainer_ensures : (readContainer ctx space e).Ensures fun c => c.1.name.space = space := by
  unfold readContainer
  repeat refine Reading.ensures_bind fun _ => ?_
  exact Reading.ensures_pure rfl

theorem readSchemaPart_ensures :
    (readSchemaPart ctx space e).Ensures fun part => ∀ p ∈ part, p.IsIn space := by
  unfold readSchemaPart
  split
  · exact (readStructured_ensures _).map fun t ht p hp => by cases hp; exact ht
  · exact (readStructured_ensures _).map fun t ht p hp => by cases hp; exact ht
  · exact readEnum_ensures.map fun t ht p hp => by cases hp; exact ht
  · exact Reading.ensures_true.map fun t _ p hp => by cases hp; trivial
  · exact Reading.ensures_true.map fun o _ p hp => by cases hp; trivial
  · exact Reading.ensures_true.map fun o _ p hp => by cases hp; trivial
  · exact Reading.ensures_pure fun p hp => by cases hp; trivial
  · exact readContainer_ensures.map fun c hc p hp => by cases hp; exact hc
  · exact Reading.ensures_bind fun _ => Reading.ensures_pure fun p hp => by cases hp
  · exact Reading.ensures_pure fun p hp => by cases hp

theorem SchemaPart.isIn_structured? {p : SchemaPart} {kind : Edm.StructuredKind} {t : Edm.StructuredType}
    (h : p.IsIn space) (ht : p.structured? kind = some t) : t.name.space = space := by
  cases p with
  | structured u =>
      obtain ⟨-, ht⟩ := Option.ite_none_right_eq_some.1 ht
      obtain rfl := Option.some.inj ht
      exact h
  | _ => cases ht

theorem SchemaPart.isIn_enum? {p : SchemaPart} {t : Edm.EnumType} (h : p.IsIn space) (ht : p.enum? = some t) :
    t.name.space = space := by
  cases p with
  | enum u =>
      obtain rfl := Option.some.inj ht
      exact h
  | _ => cases ht

theorem SchemaPart.isIn_container? {p : SchemaPart} {c : Edm.Container} (h : p.IsIn space)
    (hc : p.container? = some c) : c.name.space = space := by
  cases p with
  | container u _ =>
      obtain rfl := Option.some.inj hc
      exact h
  | _ => cases hc

theorem schemaOfParts_isIn {short : Option String} {parts : List SchemaPart} (h : ∀ p ∈ parts, p.IsIn space) :
    ∀ x ∈ declarationsOf (schemaOfParts space short parts), x.name.space = space := by
  have hstructured : ∀ (kind : Edm.StructuredKind), ∀ t ∈ parts.filterMap (·.structured? kind),
      t.name.space = space := by
    intro kind t ht
    obtain ⟨p, hp, hpt⟩ := List.mem_filterMap.1 ht
    exact SchemaPart.isIn_structured? (h p hp) hpt
  intro x hx
  rcases List.mem_append.1 hx with hx | hx
  · obtain ⟨t, ht, rfl⟩ := List.mem_map.1 hx
    rcases List.mem_append.1 ht with ht | ht
    · obtain ⟨e, he, rfl⟩ := List.mem_map.1 ht
      obtain ⟨p, hp, hpe⟩ := List.mem_filterMap.1 he
      exact SchemaPart.isIn_enum? (h p hp) hpe
    · obtain ⟨u, hu, rfl⟩ := List.mem_map.1 ht
      rcases List.mem_append.1 hu with hu | hu
      · exact hstructured _ u hu
      · exact hstructured _ u hu
  · obtain ⟨c, hc, rfl⟩ := List.mem_map.1 hx
    obtain ⟨p, hp, hpc⟩ := List.mem_filterMap.1 hc
    exact SchemaPart.isIn_container? (h p hp) hpc

theorem readSchema_ensures :
    (readSchema ctx e).Ensures fun s => ∀ x ∈ declarationsOf s, x.name.space = s.space := by
  unfold readSchema
  dsimp only
  split
  · rintro s ⟨notes, hs⟩
    cases hs
  · refine Reading.ensures_bind fun _ => ?_
    refine (Reading.ensures_mapM fun c _ => readSchemaPart_ensures).bind fun parts hparts => ?_
    refine Reading.ensures_pure (schemaOfParts_isIn fun p hp => ?_)
    obtain ⟨part, hpart, rfl⟩ := List.mem_filterMap.1 hp
    exact hparts _ hpart p rfl

end Schemas

/-! ## Documents -/

section Documents

variable {g : Graph}

theorem located_of_readRoot {root : Xml.Element} (h : readRoot root = .ok g) : Located g := by
  obtain ⟨o, -, hschemas⟩ := gives_of_readRoot h
  exact Reading.ensures_mapM (fun e _ => readSchema_ensures) g.schemas hschemas

/-- What a document declares is in the namespaces of its schemas. -/
theorem located_of_readText {text : String} (h : readText text = .ok g) : Located g := by
  obtain ⟨bytes, root, -, -, -, hroot⟩ := readText_eq_ok_iff.1 h
  exact located_of_readRoot hroot

end Documents

end EntityModel.Csdl
