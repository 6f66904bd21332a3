import EntityModel.Proofs.Csdl.Alias
import EntityModel.Proofs.Csdl.Likeness

/-!
# When it does not matter how a reference is spelt

A reference may be written with an alias or with the namespace that the alias stands for. If each alias of a document
stands for the same as its namespace does, then nothing that is read depends on the spelling
(`readRoot_eq_of_respelled`). If one does not, there is a document with the same aliases in which the spelling of one
reference shows (`faithful_of_specimens`).
-/

namespace EntityModel.Csdl

open Xml (Name Attribute Element)
open Edm
open Text (BeginsPlain)

/-! ## Documents spelt in two ways -/

/-- An attribute is the same in both elements, or a reference or target that says the same. -/
def RespelledAttribute (aliases : Aliases) (element : String) (a a' : Attribute) : Prop :=
  a'.name = a.name ∧
    (a'.value = a.value ∨
      IsReference element a.name ∧ aliases.Respells a.value a'.value ∨
      IsTarget element a.name ∧ aliases.RespellsTarget a.value a'.value)

/-- Two trees differ only in how their references are spelt. -/
def Respelled (aliases : Aliases) : Element → Element → Prop :=
  Alike fun n => List.Forall₂ (RespelledAttribute aliases n.localName)

/-- The aliases of a document are the given ones, if it gets as far as having any. -/
def HasAliases (root : Element) (aliases : Aliases) : Prop := ∀ o, outline root = .ok o → o.context.aliases = aliases

section Respelled

variable {aliases : Aliases} {root root' : Element}

theorem respelled_refl (e : Element) : Respelled aliases e e :=
  Alike.refl (fun _ _ => List.forall₂_same.2 fun _ _ => ⟨rfl, .inl rfl⟩) e

theorem not_isReference_of_isTarget {element : String} {a : Name} (h : IsTarget element a) : ¬ IsReference element a := by
  obtain ⟨-, -, hname⟩ := h
  simp [IsReference, referenceAttributes, hname]

/-- References that say the same make the same sense where each alias stands for the same as its namespace. -/
theorem sense_eq_of_respelled (hfaithful : aliases.Faithful) {element : String} {a a' : Attribute}
    (h : RespelledAttribute aliases element a a') :
    sense aliases element a.name a'.value = sense aliases element a.name a.value := by
  obtain ⟨-, hsame | ⟨hreference, hrespells⟩ | ⟨htarget, hrespells⟩⟩ := h
  · rw [hsame]
  · obtain ⟨hqualify, hne, hne'⟩ := Aliases.qualify_eq_of_respells hfaithful hrespells
    simp [sense, hreference, hqualify, hne, hne']
  · obtain ⟨hqualify, hne, hne'⟩ := Aliases.qualifyTarget_eq_of_respells hfaithful hrespells
    simp [sense, htarget, not_isReference_of_isTarget htarget, hqualify, hne, hne']

theorem sameSense_of_respelled (hfaithful : aliases.Faithful) {n : Name} {as as' : List Attribute}
    (h : List.Forall₂ (RespelledAttribute aliases n.localName) as as') : SameSense aliases n as as' := by
  intro a
  have hfound : Option.Rel (RespelledAttribute aliases n.localName) (as.find? fun x => x.name = a)
      (as'.find? fun x => x.name = a) := Alignment.find?_rel h fun x x' hx => by rw [hx.1]
  generalize hx : as.find? (fun x => x.name = a) = o, as'.find? (fun x => x.name = a) = o' at hfound ⊢
  cases hfound with
  | none => rfl
  | @some x x' hrespelled =>
      obtain rfl : x.name = a := by simpa using List.find?_some hx
      exact congrArg some (sense_eq_of_respelled hfaithful hrespelled)

/-- Where each alias stands for the same as its namespace, it does not matter how the references of a document are
spelt. -/
theorem readRoot_eq_of_respelled (hfaithful : aliases.Faithful) (haliases : HasAliases root aliases)
    (h : Respelled aliases root root') : readRoot root' = readRoot root :=
  readRoot_eq_of_alike haliases (h.mono fun _ _ _ => sameSense_of_respelled hfaithful)

end Respelled

/-! ## A document with given aliases -/

/-- An element without a text, whose attributes are without a namespace. -/
def plainElement (space name : String) (attributes : List (String × String)) (children : List Element) : Element :=
  .mk ⟨space, name⟩ (attributes.map fun a => ⟨⟨"", a.1⟩, a.2⟩) "" children

/-- The element that includes a namespace under an alias. -/
def includeElement (p : String × String) : Element :=
  plainElement packageSpace "Include" [("Alias", p.1), ("Namespace", p.2)] []

/-- The declaration of a term whose type is a reference. -/
def termElement (reference : String) : Element := plainElement schemaSpace "Term" [("Type", reference)] []

/-- A schema that declares one term. -/
def schemaElement (reference : String) : Element :=
  plainElement schemaSpace "Schema" [("Namespace", "S")] [termElement reference]

def referenceElement (aliases : Aliases) : Element :=
  plainElement packageSpace "Reference" [] (aliases.map includeElement)

def servicesElement (reference : String) : Element :=
  plainElement packageSpace "DataServices" [] [schemaElement reference]

/-- A package with given aliases in which one reference is made. -/
def specimen (aliases : Aliases) (reference : String) : Element :=
  plainElement packageSpace "Edmx" [] [referenceElement aliases, servicesElement reference]

section Specimen

variable {aliases : Aliases} {reference : String}

section PlainElements

variable {space name key : String} {attributes : List (String × String)} {children : List Element}

theorem attribute?_plainElement :
    (plainElement space name attributes children).attribute? key =
      (attributes.find? fun a => a.1 = key).map (·.2) := by
  simp [plainElement, Element.attribute?, Element.attributeIn?, Element.attributes, List.find?_map, Function.comp_def]

theorem stray?_plainElement (hspace : '\x7d' ∉ space.toList) (hname : ':' ∉ name.toList) :
    (plainElement space name attributes children).name.stray? = none := by
  simp [plainElement, Element.name, Name.stray?, Text.cutFirst_eq_none_iff.2 hspace, hname]

end PlainElements

theorem inclusions_specimen (hnamed : ∀ p ∈ aliases, p.1 ≠ "") :
    inclusions (specimen aliases reference) = aliases.map fun p => (some p.1, p.2) := by
  have hreferences : (specimen aliases reference).childrenNamed ["Reference"] = [referenceElement aliases] := rfl
  have hincludes : (referenceElement aliases).childrenNamed ["Include"] = aliases.map includeElement := by
    refine List.filter_eq_self.2 fun c hc => ?_
    obtain ⟨p, -, rfl⟩ := List.mem_map.1 hc
    rfl
  rw [inclusions, hreferences, List.flatMap_singleton, hincludes, List.map_map]
  refine List.map_congr_left fun p hp => ?_
  simp [includeElement, Element.attributeD, attribute?_plainElement, nonEmpty?, hnamed p hp]

theorem outline_specimen (hnamed : ∀ p ∈ aliases, p.1 ≠ "") :
    outline (specimen aliases reference) =
      .ok ⟨"4.0", aliases.map fun p => (some p.1, p.2), [schemaElement reference]⟩ := by
  have hsurroundings : surroundings (specimen aliases reference) =
      specimen aliases reference :: (referenceElement aliases :: (aliases.map includeElement ++
        [servicesElement reference]) ++ [schemaElement reference]) := rfl
  have hplain : ∀ e ∈ surroundings (specimen aliases reference), e.name.stray? = none := by
    intro e he
    rw [hsurroundings] at he
    simp only [List.mem_cons, List.mem_append, List.mem_map, List.not_mem_nil, or_false] at he
    rcases he with rfl | (rfl | ⟨p, -, rfl⟩ | rfl) | rfl <;> exact stray?_plainElement (by decide) (by decide)
  have hstray : ((surroundings (specimen aliases reference)).findSome? fun e => e.name.stray?) = none :=
    List.findSome?_eq_none_iff.2 hplain
  unfold outline
  rw [hstray, inclusions_specimen hnamed]
  rfl

theorem context_specimen {o : Outline} (hnamed : ∀ p ∈ aliases, p.1 ≠ "")
    (h : outline (specimen aliases reference) = .ok o) : o.context = ⟨aliases, []⟩ := by
  rw [outline_specimen hnamed] at h
  cases h
  have hincluded : includedAliases (aliases.map fun p => (some p.1, p.2)) = aliases := by
    rw [includedAliases, List.filterMap_map]
    exact List.filterMap_some
  have hschemas : schemaAliases [schemaElement reference] = [] := by
    simp [schemaAliases, schemaElement, Element.attributeD, attribute?_plainElement, nonEmpty?]
  rw [Outline.context, hincluded, hschemas, List.append_nil]
  rfl

theorem hasAliases_specimen (hnamed : ∀ p ∈ aliases, p.1 ≠ "") : HasAliases (specimen aliases reference) aliases := by
  intro o ho
  rw [context_specimen hnamed ho]

/-- The schema of a specimen, with the full name of its reference. -/
def specimenSchema (full : String) : Schema := { space := "S", terms := [⟨⟨"S", ""⟩, full, []⟩] }

theorem readSchema_specimen {ctx : Context} :
    readSchema ctx (schemaElement reference) = pure (specimenSchema (ctx.aliases.qualify reference)) := by
  have hspace : (schemaElement reference).attributeD "Namespace" = "S" := by
    simp [schemaElement, Element.attributeD, attribute?_plainElement]
  have halias : (schemaElement reference).attribute? "Alias" = none := by
    simp [schemaElement, attribute?_plainElement]
  have hinspect : Reading.inspect (surveyed (schemaElement reference)) = pure () := by
    have hsurveyed : surveyed (schemaElement reference) = [termElement reference] := rfl
    rw [hsurveyed, Reading.inspect, List.forM_eq_forM, List.forM_cons, Reading.look, termElement,
      stray?_plainElement (by decide) (by decide)]
    rfl
  have hterm : readTerm ctx "S" (termElement reference) =
      ⟨⟨"S", ""⟩, ctx.aliases.qualify reference, []⟩ := by
    have hwords : Text.words "" = [] := by decide
    simp [readTerm, termElement, Aliases.reference, Element.attributeD, attribute?_plainElement, hwords]
  have hparts : (schemaElement reference).children.mapM (readSchemaPart ctx "S") =
      pure [some (.term ⟨⟨"S", ""⟩, ctx.aliases.qualify reference, []⟩)] := by
    rw [← hterm]
    rfl
  rw [readSchema, hspace, hinspect, halias, hparts]
  rfl

/-- What is read of a document is told by the full name of the reference. -/
theorem readRoot_specimen (hnamed : ∀ p ∈ aliases, p.1 ≠ "") :
    readRoot (specimen aliases reference) =
      .ok {
        version := "4.0", references := .ofList (referencesOf (aliases.map fun p => (some p.1, p.2))),
        schemas := [specimenSchema (aliases.qualify reference)] } := by
  have houtline : outline (specimen aliases reference) = .ok _ := outline_specimen hnamed
  rw [readRoot_of_outline houtline, context_specimen hnamed houtline, List.mapM_cons, readSchema_specimen]
  rfl

/-- Documents with the same aliases in which a reference is spelt in two ways differ only in that. -/
theorem respelled_specimen {reference' : String} (h : aliases.Respells reference reference') :
    Respelled aliases (specimen aliases reference) (specimen aliases reference') := by
  have htype : IsReference "Term" ⟨"", "Type"⟩ := by decide
  have hterm : Respelled aliases (termElement reference) (termElement reference') :=
    .mk (.cons ⟨rfl, .inr (.inl ⟨htype, h⟩)⟩ .nil) .nil
  have hschema : Respelled aliases (schemaElement reference) (schemaElement reference') :=
    .mk (.cons ⟨rfl, .inl rfl⟩ .nil) (.cons hterm .nil)
  have hservices : Respelled aliases (servicesElement reference) (servicesElement reference') :=
    .mk .nil (.cons hschema .nil)
  exact .mk .nil (.cons (respelled_refl _) (.cons hservices .nil))

/-- If the spelling never shows, each alias stands for the same as its namespace. -/
theorem faithful_of_specimens (hnamed : ∀ p ∈ aliases, p.1 ≠ "")
    (h : ∀ v v', aliases.Respells v v' → readRoot (specimen aliases v') = readRoot (specimen aliases v)) :
    aliases.Faithful := by
  intro p hp hplain hplain'
  have hspells := spells_of_beginsPlain hplain
  have hspells' := spells_of_beginsPlain hplain'
  have hread := h _ _ ⟨p, hp, "T", false, .inl ⟨hspells, hspells'⟩⟩
  rw [readRoot_specimen hnamed, readRoot_specimen hnamed, Aliases.qualify_of_spells hspells,
    Aliases.qualify_of_spells hspells'] at hread
  simpa [specimenSchema, TypeReference.text] using hread.symm

end Specimen

/-! ## The spelling of references -/

section Spelling

/-- Nothing that is read depends on how references are spelt exactly if each alias stands for the same as its
namespace. Where each alias is declared for one namespace and has no dot, that is so exactly if the aliases leave these
namespaces alone. A reference with a namespace is stored as it is written exactly if they leave that one alone. -/
theorem readRoot_respelled_iff {aliases : Aliases} (hnamed : ∀ p ∈ aliases, p.1 ≠ "") :
    ((∀ root root', HasAliases root aliases → Respelled aliases root root' → readRoot root' = readRoot root) ↔
        aliases.Faithful) ∧
      ((∀ p ∈ aliases, ∀ q ∈ aliases, p.1 = q.1 → p.2 = q.2) → (∀ p ∈ aliases, '.' ∉ p.1.toList) →
        (aliases.Faithful ↔ ∀ p ∈ aliases, BeginsPlain p.1 → BeginsPlain p.2 → aliases.Spares p.2)) ∧
      ∀ space, (∀ name collection v, Spells space name collection v →
          aliases.qualify v = TypeReference.text ⟨space ++ "." ++ name, collection⟩) ↔
        (BeginsPlain space → aliases.Spares space) := by
  refine ⟨⟨fun hlaw => ?_, fun hfaithful _ _ => readRoot_eq_of_respelled hfaithful⟩, Aliases.faithful_iff,
    fun _ => Aliases.forall_qualify_eq_iff⟩
  exact faithful_of_specimens hnamed fun v v' hrespells =>
    hlaw _ _ (hasAliases_specimen hnamed) (respelled_specimen hrespells)

/-- Two aliases, of which one begins a namespace but stands for itself. -/
def sparingAliases : Aliases := [("A", "S.A"), ("S", "S")]

/-- It does not matter how a reference to `S.A.T` is spelt. -/
theorem readRoot_eq_of_sparing :
    (∀ p ∈ sparingAliases, p.1 ≠ "") ∧ sparingAliases.Respells "A.T" "S.A.T" ∧
      readRoot (specimen sparingAliases "S.A.T") = readRoot (specimen sparingAliases "A.T") := by
  have hnamed : ∀ p ∈ sparingAliases, p.1 ≠ "" := by decide
  have hrespells : sparingAliases.Respells "A.T" "S.A.T" :=
    ⟨("A", "S.A"), by decide, "T", false, .inl ⟨by decide, by decide⟩⟩
  have hfunctional : ∀ p ∈ sparingAliases, ∀ q ∈ sparingAliases, p.1 = q.1 → p.2 = q.2 := by decide
  have hspares : ∀ p ∈ sparingAliases, sparingAliases.Spares p.2 := by decide
  obtain ⟨hlaw, hfaithful, -⟩ := readRoot_respelled_iff hnamed
  have hsame : sparingAliases.Faithful := (hfaithful hfunctional (by decide)).2 fun p hp _ _ => hspares p hp
  exact ⟨hnamed, hrespells, hlaw.2 hsame _ _ (hasAliases_specimen hnamed) (respelled_specimen hrespells)⟩

/-- A schema whose alias is the first segment of its namespace, with two types, the second derived from a base. -/
def nestedSchema (base : String) : Element :=
  plainElement schemaSpace "Schema" [("Namespace", "A.B"), ("Alias", "A")]
    [plainElement schemaSpace "EntityType" [("Name", "T")] [],
     plainElement schemaSpace "EntityType" [("Name", "U"), ("BaseType", base)] []]

/-- The bases of the entity types that are read of a document. -/
def basesRead (root : Element) : Option (List (Option String)) :=
  (readRoot root).toOption.map fun g => g.schemas.flatMap fun s => s.entities.map (·.base)

/-- With the alias the reference leads to `A.B.T`, but with the namespace to `A.B.B.T`. -/
theorem not_readRoot_eq_of_nested :
    HasAliases (nestedSchema "A.T") [("A", "A.B")] ∧
      Respelled [("A", "A.B")] (nestedSchema "A.T") (nestedSchema "A.B.T") ∧
      basesRead (nestedSchema "A.T") = some [none, some "A.B.T"] ∧
      basesRead (nestedSchema "A.B.T") = some [none, some "A.B.B.T"] ∧
      readRoot (nestedSchema "A.B.T") ≠ readRoot (nestedSchema "A.T") := by
  have halias : basesRead (nestedSchema "A.T") = some [none, some "A.B.T"] := by decide
  have hspace : basesRead (nestedSchema "A.B.T") = some [none, some "A.B.B.T"] := by decide
  refine ⟨?_, ?_, halias, hspace, fun hsame => ?_⟩
  · intro o ho
    obtain rfl := Except.ok.inj ho
    decide
  · have hbase : IsReference "EntityType" ⟨"", "BaseType"⟩ := by decide
    have hrespells : Aliases.Respells [("A", "A.B")] "A.T" "A.B.T" :=
      ⟨("A", "A.B"), by decide, "T", false, .inl ⟨by decide, by decide⟩⟩
    have hderived : Respelled [("A", "A.B")]
        (plainElement schemaSpace "EntityType" [("Name", "U"), ("BaseType", "A.T")] [])
        (plainElement schemaSpace "EntityType" [("Name", "U"), ("BaseType", "A.B.T")] []) :=
      .mk (.cons ⟨rfl, .inl rfl⟩ (.cons ⟨rfl, .inr (.inl ⟨hbase, hrespells⟩)⟩ .nil)) .nil
    exact .mk (.cons ⟨rfl, .inl rfl⟩ (.cons ⟨rfl, .inl rfl⟩ .nil)) (.cons (respelled_refl _) (.cons hderived .nil))
  · have hbases : basesRead (nestedSchema "A.B.T") = basesRead (nestedSchema "A.T") := by
      rw [basesRead, hsame, basesRead]
    rw [halias, hspace] at hbases
    exact absurd hbases (by decide)

end Spelling

end EntityModel.Csdl
