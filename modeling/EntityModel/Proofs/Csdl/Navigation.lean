import EntityModel.Proofs.Csdl.Spelling
import EntityModel.Proofs.Csdl.Stray
import Mathlib.Data.List.Induction

/-!
# Navigation properties that end at a role

In the older dialect a navigation property has no type but names an association and a role. Where the association is
declared does not matter: the property leads to the last end with the role in the last association with the name
(`targetEnd?`), whatever schema that is in. If there is no such end, the document is not read. A navigation property
with a type has nothing to do with associations (`resolvesNavigation`).

A missing end is noted while the type is read and becomes a fault only once all schemas have been read. So what is shown
of each reader is that it makes such a note (`Reading.NotesSome`), and that a graph is made only where there is none.
-/

namespace EntityModel.Csdl

open Xml (Element)
open Edm (Graph Schema StructuredKind StructuredType NavigationProperty)

/-! ## What a document says -/

/-- The schemas of a document with a given root, in the order of the document. -/
def schemasOf (root : Element) : List Element :=
  if root.localName = "Edmx" then
    (root.childrenNamed ["DataServices"]).flatMap fun d => d.childrenNamed ["Schema"]
  else if root.localName = "Schema" then [root]
  else []

/-- The aliases of a document. -/
def aliasesOf (root : Element) : Aliases :=
  includedAliases (if root.localName = "Edmx" then inclusions root else []) ++ schemaAliases (schemasOf root)

/-- The associations of a document by full name, in the order of the document. -/
def associationsOf (root : Element) : List (String × Element) :=
  (schemasOf root).flatMap fun s => (s.childrenNamed ["Association"]).map fun a =>
    (s.attributeD "Namespace" ++ "." ++ a.attributeD "Name", a)

/-- The last end with a role in the last association with a full name. -/
def lastEnd? (root : Element) (relationship role : String) : Option Element :=
  ((associationsOf root).filter fun a => a.1 = relationship).getLast?.bind fun a =>
    ((a.2.childrenNamed ["End"]).filter fun x => x.attributeD "Role" = role).getLast?

/-- The end that a navigation property without a type leads to. -/
def targetEnd? (root e : Element) : Option Element :=
  lastEnd? root ((aliasesOf root).reference e "Relationship") (e.attributeD "ToRole")

/-- How many there are at an end, as written. -/
def multiplicityOf (x : Element) : String := (x.attribute? "Multiplicity").getD "1"

/-- The name of the elements that declare types of a kind. -/
def typeElement : StructuredKind → String
  | .entity => "EntityType"
  | .complex => "ComplexType"

/-- The navigation properties of the types of a document. -/
def navigationElements (root : Element) : List Element :=
  (schemasOf root).flatMap fun s =>
    (s.childrenNamed ["EntityType", "ComplexType"]).flatMap fun t => t.childrenNamed ["NavigationProperty"]

/-- The structured types of a schema that are of a kind. -/
def typesOfKind (s : Schema) : StructuredKind → List StructuredType
  | .entity => s.entities
  | .complex => s.complexes

/-- Where a navigation property of a document leads: without a type to the end that it names, with a type there. -/
def LeadsAsWritten (root e : Element) (p : NavigationProperty) : Prop :=
  if e.attributeD "Type" = "" then
    ∃ x, targetEnd? root e = some x ∧ p.type = (aliasesOf root).reference x "Type" ∧
      (p.collection = true ↔ multiplicityOf x = "*") ∧ (p.nullable = true ↔ multiplicityOf x ≠ "1")
  else
    p.type = (TypeReference.ofText ((aliasesOf root).reference e "Type")).element ∧
      p.collection = (TypeReference.ofText ((aliasesOf root).reference e "Type")).collection ∧
      Literal.boolD true (e.attribute? "Nullable") = .ok p.nullable

/-- A navigation property is the one that an element of a document describes. -/
structure IsWrittenNavigation (root e : Element) (p : NavigationProperty) : Prop where
  name : p.name = e.attributeD "Name"
  partner : p.partner = e.attribute? "Partner"
  containsTarget : Literal.boolD false (e.attribute? "ContainsTarget") = .ok p.containsTarget
  leads : LeadsAsWritten root e p

/-- The navigation properties of a document are resolved wherever their associations are declared. -/
structure ResolvesNavigation (root : Element) : Prop where
  /-- If the end of a navigation property is unknown, the document is not read, and the fault is a foreseen one if all
  names around the schemas are names. -/
  unknown : (∃ e ∈ navigationElements root, e.attributeD "Type" = "" ∧ targetEnd? root e = none) →
    (∀ g, readRoot root ≠ .ok g) ∧
      ((∃ fault, readRoot root = .error (.foreseen fault)) ↔ ∀ e ∈ surroundings root, e.name.stray? = none)
  /-- If the document is read, each navigation property leads where it says. -/
  known : ∀ g, readRoot root = .ok g → List.Forall₂ (fun s schema => ∀ kind, List.Forall₂ (fun t type =>
      List.Forall₂ (IsWrittenNavigation root) (t.childrenNamed ["NavigationProperty"]) type.navigation)
    (s.childrenNamed [typeElement kind]) (typesOfKind schema kind)) (schemasOf root) g.schemas
  /-- A navigation property with a type is read the same whatever associations there are. -/
  typed : ∀ e ∈ navigationElements root, e.attributeD "Type" ≠ "" → ∀ ctx owner associations,
    readNavigation { ctx with associations } owner e = readNavigation ctx owner e

/-! ## Outlines -/

section Outlines

variable {root : Element} {o : Outline} {aliases : Aliases} {relationship role : String}

theorem outline_of_ok (h : outline root = .ok o) :
    o.schemas = schemasOf root ∧ o.context.aliases = aliasesOf root := by
  obtain ⟨hstray, hname | hname⟩ := root_of_outline h
  · obtain rfl := Except.ok.inj ((outline_package hname hstray).symm.trans h)
    simp [Outline.context, aliasesOf, schemasOf, hname]
  · obtain rfl := Except.ok.inj ((outline_schema hname hstray).symm.trans h)
    simp [Outline.context, aliasesOf, schemasOf, hname]

/-- What is found first from behind is the last one that passes. -/
theorem lookup_reverse_map {α β : Type} (key : α → String) (value : α → β) (as : List α) (k : String) :
    (as.map fun a => (key a, value a)).reverse.lookup k = ((as.filter fun a => key a = k).getLast?).map value := by
  induction as using List.reverseRecOn with
  | nil => rfl
  | append_singleton as a ih =>
      rw [List.map_append, List.reverse_append, List.filter_append, List.getLast?_append]
      by_cases ha : key a = k
      · simp [ha]
      · have hne : (k == key a) = false := by simpa using Ne.symm ha
        simpa [ha, List.lookup_cons, hne] using ih

/-- In a document whose associations have names the end that is found is the last one. -/
theorem end?_eq (hnamed : ∀ a ∈ associationsOf root, (a.2.attribute? "Name").isSome) :
    Associations.end? ((schemasOf root).flatMap (schemaAssociations aliases)) relationship role =
      (lastEnd? root relationship role).map fun x => ⟨aliases.reference x "Type", multiplicityOf x⟩ := by
  have hall : (schemasOf root).flatMap (schemaAssociations aliases) =
      (associationsOf root).map fun a => (a.1, associationEnds aliases a.2) := by
    rw [associationsOf, List.map_flatMap]
    refine List.flatMap_congr fun s hs => ?_
    rw [schemaAssociations, List.map_map]
    refine List.map_congr_left fun a ha => ?_
    obtain ⟨name, hname⟩ := Option.isSome_iff_exists.1
      (hnamed (_, a) (List.mem_flatMap.2 ⟨s, hs, List.mem_map.2 ⟨a, ha, rfl⟩⟩))
    simp [Element.attributeD, show a.attribute? "Name" = some name from hname]
  rw [hall, Associations.end?, lookup_reverse_map, lastEnd?]
  cases ((associationsOf root).filter fun a => a.1 = relationship).getLast? with
  | none => rfl
  | some a =>
      rw [Option.map_some, Option.bind_some, Option.bind_some, associationEnds]
      exact lookup_reverse_map _ (fun x => (⟨aliases.reference x "Type", multiplicityOf x⟩ : AssociationEnd)) _ _

end Outlines

/-! ## Navigation properties -/

section Properties

variable {ctx : Context} {root e : Element} {owner : String} {p : NavigationProperty}

/-- A context agrees with a document if it has its aliases and finds the ends of its associations. -/
structure Agrees (root : Element) (ctx : Context) : Prop where
  aliases : ctx.aliases = aliasesOf root
  ends : ∀ relationship role, ctx.associations.end? relationship role =
    (lastEnd? root relationship role).map fun x => ⟨(aliasesOf root).reference x "Type", multiplicityOf x⟩

theorem agrees_context {o : Outline} (hnamed : ∀ a ∈ associationsOf root, (a.2.attribute? "Name").isSome)
    (h : outline root = .ok o) : Agrees root o.context := by
  obtain ⟨hschemas, haliases⟩ := outline_of_ok h
  refine ⟨haliases, fun relationship role => ?_⟩
  rw [← end?_eq hnamed, ← haliases, ← hschemas]
  rfl

theorem readTarget_of_known {x : AssociationEnd} (htype : e.attributeD "Type" = "")
    (hend : ctx.associations.end? (ctx.aliases.reference e "Relationship") (e.attributeD "ToRole") = some x) :
    readTarget ctx p e = pure { p with type := x.type, collection := x.isMany, nullable := x.isOptional } := by
  rw [readTarget, if_neg (not_not.2 htype)]
  dsimp only
  rw [hend]

theorem readTarget_of_unknown (htype : e.attributeD "Type" = "")
    (hend : ctx.associations.end? (ctx.aliases.reference e "Relationship") (e.attributeD "ToRole") = none) :
    readTarget ctx p e = Reading.note (.deferred (.unknownAssociation p.name (ctx.aliases.reference e "Relationship")
      (e.attributeD "ToRole"))) >>= fun _ => pure p := by
  rw [readTarget, if_neg (not_not.2 htype)]
  dsimp only
  rw [hend]

theorem readTarget_of_typed (htype : e.attributeD "Type" ≠ "") :
    readTarget ctx p e = Reading.flag true e "Nullable" >>= fun nullable =>
      pure { p with type := (ctx.typeReference e).element, collection := (ctx.typeReference e).collection, nullable } := by
  rw [readTarget, if_pos htype]

/-- A navigation property leads to its end if that is known, and to its type if it has one. -/
theorem leadsAsWritten_of_gives {p' : NavigationProperty} (h : Agrees root ctx)
    (hknown : e.attributeD "Type" = "" → targetEnd? root e ≠ none) (hgives : (readTarget ctx p e).Gives p') :
    (p'.name = p.name ∧ p'.partner = p.partner ∧ p'.containsTarget = p.containsTarget) ∧ LeadsAsWritten root e p' := by
  unfold LeadsAsWritten
  by_cases htype : e.attributeD "Type" = ""
  · obtain ⟨x, hx⟩ := Option.ne_none_iff_exists'.1 (hknown htype)
    have hend := h.ends ((aliasesOf root).reference e "Relationship") (e.attributeD "ToRole")
    rw [← targetEnd?, hx, Option.map_some, ← h.aliases] at hend
    rw [readTarget_of_known htype hend, h.aliases] at hgives
    obtain rfl := Reading.gives_pure_iff.1 hgives
    rw [if_pos htype]
    refine ⟨⟨rfl, rfl, rfl⟩, x, hx, ?_, by simp [AssociationEnd.isMany], by simp [AssociationEnd.isOptional]⟩
    dsimp only
  · rw [readTarget_of_typed htype, Context.typeReference, h.aliases] at hgives
    obtain ⟨nullable, hnullable, hgives⟩ := Reading.gives_bind_iff.1 hgives
    generalize TypeReference.ofText ((aliasesOf root).reference e "Type") = r at hgives ⊢
    obtain rfl := Reading.gives_pure_iff.1 hgives
    rw [if_neg htype]
    exact ⟨⟨rfl, rfl, rfl⟩, rfl, rfl, Reading.gives_flag_iff.1 hnullable⟩

theorem isWrittenNavigation_of_gives (h : Agrees root ctx)
    (hknown : e.attributeD "Type" = "" → targetEnd? root e ≠ none) (hgives : (readNavigation ctx owner e).Gives p) :
    IsWrittenNavigation root e p := by
  obtain ⟨containsTarget, hcontains, hgives⟩ := Reading.gives_bind_iff.1 hgives
  obtain ⟨p', hp', hgives⟩ := Reading.gives_bind_iff.1 hgives
  obtain ⟨-, -, hgives⟩ := Reading.gives_bind_iff.1 hgives
  obtain rfl := Reading.gives_pure_iff.1 hgives
  obtain ⟨⟨hname, hpartner, hcontained⟩, hleads⟩ := leadsAsWritten_of_gives h hknown hp'
  exact ⟨hname, hpartner, by rw [hcontained]; exact Reading.gives_flag_iff.1 hcontains, hleads⟩

/-- Reading a navigation property whose end is unknown leaves a note of that. -/
theorem readNavigation_notes (h : Agrees root ctx) (htype : e.attributeD "Type" = "") (hnone : targetEnd? root e = none) :
    (readNavigation ctx owner e).NotesSome fun n => n.deferred?.isSome := by
  have hend := h.ends ((aliasesOf root).reference e "Relationship") (e.attributeD "ToRole")
  rw [← targetEnd?, hnone, Option.map_none, ← h.aliases] at hend
  refine Reading.notesSome_bind fun containsTarget => Reading.NotesSome.bind ?_
  rw [readTarget_of_unknown htype hend]
  refine Reading.NotesSome.bind (Reading.notesSome_note ?_)
  rfl

theorem readNavigation_of_typed (htype : e.attributeD "Type" ≠ "") (associations : Associations) :
    readNavigation { ctx with associations } owner e = readNavigation ctx owner e := by
  rw [readNavigation, readNavigation]
  simp only [readTarget_of_typed htype]
  rfl

end Properties

/-! ## Types and schemas -/

section Schemas

variable {ctx : Context} {root e c : Element} {space : String} {kind : StructuredKind}

theorem readStructured_gives {t : StructuredType} (h : (readStructured ctx space kind e).Gives t) :
    t.kind = kind ∧ ∃ owner, List.Forall₂ (fun f p => (readNavigation ctx owner f).Gives p)
      (e.childrenNamed ["NavigationProperty"]) t.navigation := by
  obtain ⟨isAbstract, -, h⟩ := Reading.gives_bind_iff.1 h
  obtain ⟨isOpen, -, h⟩ := Reading.gives_bind_iff.1 h
  obtain ⟨hasStream, -, h⟩ := Reading.gives_bind_iff.1 h
  obtain ⟨key, -, h⟩ := Reading.gives_bind_iff.1 h
  obtain ⟨properties, -, h⟩ := Reading.gives_bind_iff.1 h
  obtain ⟨navigation, hnavigation, h⟩ := Reading.gives_bind_iff.1 h
  obtain ⟨-, -, h⟩ := Reading.gives_bind_iff.1 h
  obtain rfl := Reading.gives_pure_iff.1 h
  exact ⟨rfl, _, Reading.forall₂_of_gives_children hnavigation⟩

/-- The elements that declare types of a kind add a type of this kind to the schema, and no other element does. -/
theorem readSchemaPart_gives_structured {part : Option SchemaPart} (kind : StructuredKind)
    (h : (readSchemaPart ctx space e).Gives part) :
    if e.localName = typeElement kind then
      ∃ t, part = some (.structured t) ∧ (readStructured ctx space kind e).Gives t
    else part.bind (·.structured? kind) = none := by
  unfold readSchemaPart at h
  split at h
  case h_1 hname =>
    obtain ⟨t, ht, rfl⟩ := Reading.gives_map_iff.1 h
    have hkind := (readStructured_gives ht).1
    cases kind with
    | entity => simpa [hname, typeElement] using ht
    | complex => simp [hname, typeElement, SchemaPart.structured?, hkind]
  case h_2 hname =>
    obtain ⟨t, ht, rfl⟩ := Reading.gives_map_iff.1 h
    have hkind := (readStructured_gives ht).1
    cases kind with
    | entity => simp [hname, typeElement, SchemaPart.structured?, hkind]
    | complex => simpa [hname, typeElement] using ht
  -- What is no `map`: a term, annotations, and names that are not known.
  case h_7 hname =>
    rw [if_neg (by cases kind <;> simp [hname, typeElement]), ← Reading.gives_pure_iff.1 h]
    rfl
  case h_9 hname =>
    obtain ⟨-, -, h⟩ := Reading.gives_bind_iff.1 h
    rw [if_neg (by cases kind <;> simp [hname, typeElement]), ← Reading.gives_pure_iff.1 h]
    rfl
  case h_10 hentity hcomplex _ _ _ _ _ _ _ =>
    have hne : e.localName ≠ typeElement kind := by
      cases kind with
      | entity => exact hentity
      | complex => exact hcomplex
    rw [if_neg hne, ← Reading.gives_pure_iff.1 h]
    rfl
  all_goals next hname =>
    obtain ⟨_, -, rfl⟩ := Reading.gives_map_iff.1 h
    rw [if_neg (by cases kind <;> simp [hname, typeElement])]
    rfl

/-- The types of a schema stand in the order of their elements. -/
theorem readSchema_gives_structured {s : Schema} (kind : StructuredKind) (h : (readSchema ctx e).Gives s) :
    List.Forall₂ (fun f t => (readStructured ctx (e.attributeD "Namespace") kind f).Gives t)
      (e.childrenNamed [typeElement kind]) (typesOfKind s kind) := by
  unfold readSchema at h
  dsimp only at h
  split at h
  · obtain ⟨notes, h⟩ := h
    cases h
  · obtain ⟨-, -, h⟩ := Reading.gives_bind_iff.1 h
    obtain ⟨parts, hparts, h⟩ := Reading.gives_bind_iff.1 h
    obtain rfl := Reading.gives_pure_iff.1 h
    have htypes : typesOfKind (schemaOfParts (e.attributeD "Namespace") (e.attribute? "Alias") (parts.filterMap id)) kind =
        parts.filterMap fun part => part.bind (·.structured? kind) := by
      cases kind <;> exact List.filterMap_filterMap ..
    rw [htypes]
    refine Alignment.filter_filterMap_rel (Reading.gives_mapM_iff.1 hparts) ?_ ?_
    · intro f part hread hf
      have hgives := readSchemaPart_gives_structured kind hread
      rw [if_pos (by simpa using hf)] at hgives
      obtain ⟨t, rfl, ht⟩ := hgives
      exact ⟨t, by simp [SchemaPart.structured?, (readStructured_gives ht).1], ht⟩
    · intro f part hread hf
      have hgives := readSchemaPart_gives_structured kind hread
      rwa [if_neg (by simpa using hf)] at hgives

/-- A schema is not read without a note if the end of a navigation property in it is unknown. -/
theorem readSchema_notes {t : Element} (h : Agrees root ctx) (ht : t ∈ e.childrenNamed ["EntityType", "ComplexType"])
    (hc : c ∈ t.childrenNamed ["NavigationProperty"]) (htype : c.attributeD "Type" = "")
    (hnone : targetEnd? root c = none) : (readSchema ctx e).NotesSome fun n => n.deferred?.isSome := by
  have hstructured : ∀ space kind, (readStructured ctx space kind t).NotesSome fun n => n.deferred?.isSome := by
    intro space kind
    refine Reading.notesSome_bind fun _ => Reading.notesSome_bind fun _ => Reading.notesSome_bind fun _ =>
      Reading.notesSome_bind fun _ => Reading.notesSome_bind fun _ => Reading.NotesSome.bind ?_
    exact Reading.notesSome_children hc (readNavigation_notes h htype hnone)
  obtain ⟨hmem, hname⟩ := List.mem_filter.1 ht
  have hname : t.localName = "EntityType" ∨ t.localName = "ComplexType" := by simpa using hname
  unfold readSchema
  dsimp only
  split
  · exact Reading.notesSome_fault _
  · refine Reading.notesSome_bind fun _ => Reading.NotesSome.bind (Reading.notesSome_mapM hmem ?_)
    rcases hname with hname | hname
    · simp only [readSchemaPart, hname]
      exact (hstructured _ _).map _
    · simp only [readSchemaPart, hname]
      exact (hstructured _ _).map _

end Schemas

/-! ## Documents -/

section Documents

variable {root : Element} {g : Graph}

/-- A document is not read if the end of a navigation property is unknown. -/
theorem readRoot_ne_ok (hnamed : ∀ a ∈ associationsOf root, (a.2.attribute? "Name").isSome) {e : Element}
    (he : e ∈ navigationElements root) (htype : e.attributeD "Type" = "") (hnone : targetEnd? root e = none) :
    readRoot root ≠ .ok g := by
  intro hread
  obtain ⟨o, ho, -⟩ := gives_of_readRoot hread
  obtain ⟨schemas, notes, hschemas, hclean, -⟩ := (readRoot_eq_ok_iff ho).1 hread
  obtain ⟨s, hs, he⟩ := List.mem_flatMap.1 he
  obtain ⟨t, ht, he⟩ := List.mem_flatMap.1 he
  rw [← (outline_of_ok ho).1] at hs
  obtain ⟨n, hn, hdeferred⟩ := Reading.notesSome_mapM hs
    (readSchema_notes (agrees_context hnamed ho) ht he htype hnone) _ _ hschemas
  simp [hclean n hn] at hdeferred

/-- A document that is not read has a fault that is foreseen exactly if all names around its schemas are names. -/
theorem exists_foreseen_iff (h : ∀ g, readRoot root ≠ .ok g) :
    (∃ fault, readRoot root = .error (.foreseen fault)) ↔ ∀ e ∈ surroundings root, e.name.stray? = none := by
  have hunforeseen : (∃ cause, readRoot root = .error (.unforeseen cause)) ↔
      ∃ text, ((surroundings root).findSome? fun e => e.name.stray?) = some text := by
    simp only [readRoot_eq_unforeseen_iff, outline_eq_unforeseen_iff]
    constructor
    · rintro ⟨cause, text, htext, -⟩
      exact ⟨text, htext⟩
    · rintro ⟨text, htext⟩
      exact ⟨_, text, htext, rfl⟩
  rw [← List.findSome?_eq_none_iff, Option.eq_none_iff_forall_ne_some, ← not_exists, ← hunforeseen]
  cases hread : readRoot root with
  | ok g => exact absurd hread (h g)
  | error mishap => cases mishap <;> simp

/-- Where the associations of a document have names, its navigation properties are resolved wherever these are
declared. -/
theorem resolvesNavigation (hnamed : ∀ a ∈ associationsOf root, (a.2.attribute? "Name").isSome) :
    ResolvesNavigation root := by
  constructor
  case unknown =>
    rintro ⟨e, he, htype, hnone⟩
    have hne : ∀ g, readRoot root ≠ .ok g := fun g => readRoot_ne_ok hnamed he htype hnone
    exact ⟨hne, exists_foreseen_iff hne⟩
  case known =>
    intro g hread
    obtain ⟨o, ho, hschemas⟩ := gives_of_readRoot hread
    have hagrees := agrees_context hnamed ho
    rw [← (outline_of_ok ho).1]
    refine Alignment.imp_of_mem (Reading.gives_mapM_iff.1 hschemas) fun s schema hs hschema kind => ?_
    refine Alignment.imp_of_mem (readSchema_gives_structured kind hschema) fun t type ht htype => ?_
    obtain ⟨owner, hnavigation⟩ := (readStructured_gives htype).2
    refine Alignment.imp_of_mem hnavigation fun e p he hp => isWrittenNavigation_of_gives hagrees ?_ hp
    intro huntyped hnone
    have hmem : e ∈ navigationElements root := by
      rw [(outline_of_ok ho).1] at hs
      refine List.mem_flatMap.2 ⟨s, hs, List.mem_flatMap.2 ⟨t, ?_, he⟩⟩
      obtain ⟨htmem, hname⟩ := List.mem_filter.1 ht
      have hname : t.localName = typeElement kind := by simpa using hname
      refine List.mem_filter.2 ⟨htmem, ?_⟩
      rw [hname]
      cases kind <;> simp [typeElement]
    exact readRoot_ne_ok hnamed hmem huntyped hnone hread
  case typed => exact fun e _ htype ctx owner associations => readNavigation_of_typed htype associations

end Documents

/-! ## An association behind the type, in another schema -/

/-- The element of an association with some ends, each with its role, type and multiplicity. -/
def associationElement (name : String) (ends : List (String × String × String)) : Element :=
  plainElement "" "Association" [("Name", name)] (ends.map fun x =>
    plainElement "" "End" [("Role", x.1), ("Type", x.2.1), ("Multiplicity", x.2.2)] [])

/-- A package in which a type has two navigation properties that name one role, of which the second has a type as well.
The association is declared behind the type, twice, and the second time it has the role twice. -/
def linkDocument (role : String) (beside : List Element) : Element :=
  let parts := [("Name", "Parts"), ("Relationship", "B.Link"), ("ToRole", role)]
  let whole := [("Name", "Whole"), ("Relationship", "B.Link"), ("ToRole", role), ("Type", "N.T")]
  plainElement "" "Edmx" [] (beside ++ [plainElement "" "DataServices" [] [
    plainElement "" "Schema" [("Namespace", "N")] [plainElement "" "EntityType" [("Name", "T")]
      [plainElement "" "NavigationProperty" parts [], plainElement "" "NavigationProperty" whole []]],
    plainElement "" "Schema" [("Namespace", "N.B"), ("Alias", "B")]
      [associationElement "Link" [("Part", "B.Old", "1")],
       associationElement "Link" [("Part", "B.Piece", "1"), ("Part", "B.Part", "*")]]]])

/-- An element whose label is not bound. -/
def unboundElement : Element := plainElement "" "m:X" [] []

/-- The navigation properties of the entity types that are read of a document, each with where it leads. -/
def navigationRead (root : Element) : Option (List (String × String × Bool × Bool)) :=
  (readRoot root).toOption.map fun g => g.schemas.flatMap fun s => s.entities.flatMap fun t =>
    t.navigation.map fun p => (p.name, p.type, p.collection, p.nullable)

/-- The property without a type leads to the last end, the other one to its type; for a role that no end has the
document is not read. -/
theorem resolvesNavigation_of_link :
    (∀ a ∈ associationsOf (linkDocument "Part" []), (a.2.attribute? "Name").isSome) ∧
      ResolvesNavigation (linkDocument "Part" []) ∧
      navigationRead (linkDocument "Part" []) =
        some [("Parts", "N.B.Part", true, true), ("Whole", "N.T", false, true)] ∧
      (∀ a ∈ associationsOf (linkDocument "Lost" []), (a.2.attribute? "Name").isSome) ∧
      ∃ fault, readRoot (linkDocument "Lost" []) = .error (.foreseen fault) := by
  have hpart : ∀ a ∈ associationsOf (linkDocument "Part" []), (a.2.attribute? "Name").isSome := by decide
  have hlost : ∀ a ∈ associationsOf (linkDocument "Lost" []), (a.2.attribute? "Name").isSome := by decide
  have hunknown : ∃ e ∈ navigationElements (linkDocument "Lost" []),
      e.attributeD "Type" = "" ∧ (targetEnd? (linkDocument "Lost" []) e).isNone = true := by decide
  simp only [Option.isNone_iff_eq_none] at hunknown
  exact ⟨hpart, resolvesNavigation hpart, by decide, hlost,
    ((resolvesNavigation hlost).unknown hunknown).2.2 (by decide)⟩

/-- With an element beside the schemas whose label is not bound the unknown end is not what is reported, and the cause is
not a foreseen one. -/
theorem not_foreseen_of_unbound :
    (∀ a ∈ associationsOf (linkDocument "Lost" [unboundElement]), (a.2.attribute? "Name").isSome) ∧
      (∃ e ∈ navigationElements (linkDocument "Lost" [unboundElement]),
        e.attributeD "Type" = "" ∧ targetEnd? (linkDocument "Lost" [unboundElement]) e = none) ∧
      ¬ ∃ fault, readRoot (linkDocument "Lost" [unboundElement]) = .error (.foreseen fault) := by
  have hnamed : ∀ a ∈ associationsOf (linkDocument "Lost" [unboundElement]), (a.2.attribute? "Name").isSome := by
    decide
  have hunknown : ∃ e ∈ navigationElements (linkDocument "Lost" [unboundElement]),
      e.attributeD "Type" = "" ∧ (targetEnd? (linkDocument "Lost" [unboundElement]) e).isNone = true := by decide
  simp only [Option.isNone_iff_eq_none] at hunknown
  have hstray : ¬ ∀ e ∈ surroundings (linkDocument "Lost" [unboundElement]), e.name.stray? = none := by decide
  refine ⟨hnamed, hunknown, fun hforeseen => ?_⟩
  obtain ⟨e, he, htype, hnone⟩ := hunknown
  exact hstray ((exists_foreseen_iff fun g => readRoot_ne_ok hnamed he htype hnone).1 hforeseen)

end EntityModel.Csdl
