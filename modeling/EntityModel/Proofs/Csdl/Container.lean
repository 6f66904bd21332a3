import EntityModel.Proofs.Csdl.Document

/-!
# Containers and their imports in a document

The containers of a graph stand in the order of their elements in the document. An import that names no operation
declares one: the operation is in the graph with the signature that is written on the element, and the container
has an import that refers to it by its name (`offersOwn_of_readRoot`). By the name alone, though, so it is left to
whoever looks the operation up which of several operations with the name is found.
-/

namespace EntityModel.Csdl

open Xml (Element)
open Edm

/-! ## Imports that declare an operation -/

/-- The kind of import that an element is, if it is one. -/
def importKind? (e : Element) : Option OperationKind :=
  match e.localName with
  | "FunctionImport" => some .function
  | "ActionImport" => some .action
  | _ => none

/-- An import that names no operation declares one. -/
def DeclaresOperation (e : Element) : Prop := ∃ kind ∈ importKind? e, e.attributeD (importAttribute kind) = ""

instance : DecidablePred DeclaresOperation := fun e =>
  inferInstanceAs (Decidable (∃ kind ∈ importKind? e, e.attributeD (importAttribute kind) = ""))

/-- An import is invoked with the method GET, or it is said to have no side effects. -/
def IsRequest (e : Element) : Prop :=
  importMethod e = "GET" ∨ Literal.boolD true (e.attribute? "IsSideEffecting") = .ok false

instance : DecidablePred IsRequest := fun _ => inferInstanceAs (Decidable (_ ∨ _))

/-- A parameter is the one that an element describes. -/
structure IsWrittenParameter (aliases : Aliases) (e : Element) (p : Parameter) : Prop where
  name : p.name = e.attributeD "Name"
  type : p.type = (TypeReference.ofText (aliases.reference e "Type")).element
  collection : p.collection = (TypeReference.ofText (aliases.reference e "Type")).collection

/-- An operation is the one that an import declares. -/
structure IsDeclaredBy (aliases : Aliases) (space : String) (e : Element) (o : Operation) : Prop where
  /-- It is in the namespace of the schema. -/
  name : o.name = ⟨space, e.attributeD "Name"⟩
  kind : o.kind = .function ↔ IsRequest e
  bound : Literal.boolD false (e.attribute? "IsBindable") = .ok o.bound
  parameters : List.Forall₂ (IsWrittenParameter aliases) (e.childrenNamed ["Parameter"]) o.parameters
  returns : o.returns = nonEmpty? (aliases.reference e "ReturnType")

/-- For each import among the child elements of a container that declares an operation, the operation is there, and the
container has an import with its name. -/
def OffersOwn (aliases : Aliases) (space : String) (e : Element) (c : Container) (os : List Operation) : Prop :=
  ∀ f ∈ e.children, DeclaresOperation f → ∃ i ∈ c.imports, ∃ o ∈ os,
    IsDeclaredBy aliases space f o ∧ i.name = f.attributeD "Name" ∧ i.operation = o.name.dotted

theorem OffersOwn.mono {aliases : Aliases} {space : String} {e : Element} {c : Container} {os os' : List Operation}
    (hos : os ⊆ os') (h : OffersOwn aliases space e c os) : OffersOwn aliases space e c os' := by
  intro f hf hdeclares
  obtain ⟨i, hi, o, ho, hfacts⟩ := h f hf hdeclares
  exact ⟨i, hi, o, hos ho, hfacts⟩

section Imports

variable {ctx : Context} {space : String} {e : Element}

theorem isWrittenParameter_of_gives {p : Parameter} (h : (readParameter ctx e).Gives p) :
    IsWrittenParameter ctx.aliases e p := by
  unfold readParameter Context.typeReference at h
  generalize hreference : TypeReference.ofText (ctx.aliases.reference e "Type") = r at h
  obtain ⟨nullable, -, h⟩ := Reading.gives_bind_iff.1 h
  obtain rfl := Reading.gives_pure_iff.1 h
  exact ⟨rfl, by rw [hreference], by rw [hreference]⟩

theorem isDeclaredBy_of_gives {o : Operation} (h : (readImportedOperation ctx space e).Gives o) :
    IsDeclaredBy ctx.aliases space e o := by
  obtain ⟨sideEffecting, hside, h⟩ := Reading.gives_bind_iff.1 h
  obtain ⟨bound, hbound, h⟩ := Reading.gives_bind_iff.1 h
  obtain ⟨composable, -, h⟩ := Reading.gives_bind_iff.1 h
  obtain ⟨parameters, hparameters, h⟩ := Reading.gives_bind_iff.1 h
  obtain rfl := Reading.gives_pure_iff.1 h
  refine ⟨rfl, ?_, Reading.gives_flag_iff.1 hbound, ?_, by dsimp only⟩
  · rw [IsRequest, Reading.gives_flag_iff.1 hside]
    cases sideEffecting <;> simp
  · exact (Reading.forall₂_of_gives_children hparameters).imp fun _ _ => isWrittenParameter_of_gives

/-- An import that names no operation gives the one that it declares, and refers to it by its name. -/
theorem readImport_gives {kind : OperationKind} {i : OperationImport} {declared : Option Operation}
    (hown : e.attributeD (importAttribute kind) = "") (h : (readImport ctx space kind e).Gives (i, declared)) :
    ∃ o, declared = some o ∧ IsDeclaredBy ctx.aliases space e o ∧ i.name = e.attributeD "Name" ∧
      i.operation = o.name.dotted := by
  rw [readImport, if_neg (not_not.2 hown)] at h
  obtain ⟨o, ho, h⟩ := Reading.gives_bind_iff.1 h
  obtain ⟨rfl, rfl⟩ := Prod.mk.inj (Reading.gives_pure_iff.1 h)
  exact ⟨o, rfl, isDeclaredBy_of_gives ho, rfl, rfl⟩

/-- An import that declares an operation adds both to its container. -/
theorem readContainerPart_gives {name : QualifiedName} {part : Option ContainerPart} (hown : DeclaresOperation e)
    (h : (readContainerPart ctx name e).Gives part) :
    ∃ i o, part = some (.imported i (some o)) ∧ IsDeclaredBy ctx.aliases name.space e o ∧
      i.name = e.attributeD "Name" ∧ i.operation = o.name.dotted := by
  obtain ⟨kind, hkind, hown⟩ := hown
  obtain ⟨-, -, h⟩ := Reading.gives_bind_iff.1 h
  have hread : ((fun i => some (ContainerPart.imported i.1 i.2)) <$> readImport ctx name.space kind e).Gives part := by
    unfold importKind? at hkind
    split at hkind
    · next hname =>
        obtain rfl := Option.some.inj hkind
        rw [hname] at h
        exact h
    · next hname =>
        obtain rfl := Option.some.inj hkind
        rw [hname] at h
        exact h
    · cases hkind
  obtain ⟨⟨i, declared⟩, hi, rfl⟩ := Reading.gives_map_iff.1 hread
  obtain ⟨o, rfl, ho⟩ := readImport_gives hown hi
  exact ⟨i, o, rfl, ho⟩

theorem offersOwn_of_gives {c : Container} {os : List Operation} (h : (readContainer ctx space e).Gives (c, os)) :
    OffersOwn ctx.aliases space e c os := by
  obtain ⟨parts, hparts, h⟩ := Reading.gives_bind_iff.1 h
  obtain ⟨-, -, h⟩ := Reading.gives_bind_iff.1 h
  obtain ⟨rfl, rfl⟩ := Prod.mk.inj (Reading.gives_pure_iff.1 h)
  intro f hf hown
  obtain ⟨part, hpart, hread⟩ := Alignment.exists_of_mem_left (Reading.gives_mapM_iff.1 hparts) hf
  obtain ⟨i, o, rfl, ho⟩ := readContainerPart_gives hown hread
  have hmem : ContainerPart.imported i (some o) ∈ parts.filterMap id := List.mem_filterMap.2 ⟨_, hpart, rfl⟩
  exact ⟨i, List.mem_filterMap.2 ⟨_, hmem, rfl⟩, o, List.mem_filterMap.2 ⟨_, hmem, rfl⟩, ho⟩

end Imports

/-! ## Containers of a document -/

/-- The elements of the containers of a document, each with the namespace of its schema. -/
def containerElements (o : Outline) : List (String × Element) :=
  o.schemas.flatMap fun s => (s.childrenNamed ["EntityContainer"]).map (s.attributeD "Namespace", ·)

section Schemas

variable {ctx : Context} {space : String} {e : Element}

/-- The element of a container adds a container to the schema, and no other element does. -/
theorem readSchemaPart_gives {part : Option SchemaPart} (h : (readSchemaPart ctx space e).Gives part) :
    if e.localName = "EntityContainer" then
      ∃ c os, part = some (.container c os) ∧ OffersOwn ctx.aliases space e c os
    else part.bind (·.container?) = none := by
  unfold readSchemaPart at h
  split at h
  -- First the container, then what is no `map`: a term, annotations, and names that are not known.
  case h_8 hname =>
    rw [if_pos hname]
    obtain ⟨⟨c, os⟩, hc, rfl⟩ := Reading.gives_map_iff.1 h
    exact ⟨c, os, rfl, offersOwn_of_gives hc⟩
  case h_7 hname =>
    rw [if_neg (by simp [hname]), ← Reading.gives_pure_iff.1 h]
    rfl
  case h_9 hname =>
    obtain ⟨-, -, h⟩ := Reading.gives_bind_iff.1 h
    rw [if_neg (by simp [hname]), ← Reading.gives_pure_iff.1 h]
    rfl
  case h_10 _ _ _ _ _ _ _ hname _ =>
    rw [if_neg hname, ← Reading.gives_pure_iff.1 h]
    rfl
  all_goals next hname =>
    obtain ⟨_, -, rfl⟩ := Reading.gives_map_iff.1 h
    rw [if_neg (by simp [hname])]
    rfl

/-- The containers of a schema stand in the order of their elements, and the operations that their imports declare are
among those of the schema. -/
theorem readSchema_gives {s : Schema} (h : (readSchema ctx e).Gives s) :
    List.Forall₂ (fun f c => OffersOwn ctx.aliases (e.attributeD "Namespace") f c s.operations)
      (e.childrenNamed ["EntityContainer"]) s.containers := by
  unfold readSchema at h
  dsimp only at h
  split at h
  · obtain ⟨notes, h⟩ := h
    cases h
  · obtain ⟨-, -, h⟩ := Reading.gives_bind_iff.1 h
    obtain ⟨parts, hparts, h⟩ := Reading.gives_bind_iff.1 h
    obtain rfl := Reading.gives_pure_iff.1 h
    have hcontainers : (parts.filterMap id).filterMap SchemaPart.container? =
        parts.filterMap fun part => part.bind (·.container?) := by
      rw [List.filterMap_filterMap]
      rfl
    change List.Forall₂ _ (e.children.filter _) ((parts.filterMap id).filterMap SchemaPart.container?)
    rw [hcontainers]
    refine Alignment.filter_filterMap_rel (Alignment.and_mem_right (Reading.gives_mapM_iff.1 hparts)) ?_ ?_
    · rintro f part ⟨hpart, hread⟩ hf
      have hname : f.localName = "EntityContainer" := by simpa using hf
      have hgives := readSchemaPart_gives hread
      rw [if_pos hname] at hgives
      obtain ⟨c, os, rfl, hoffers⟩ := hgives
      refine ⟨c, rfl, hoffers.mono fun o ho => ?_⟩
      exact List.mem_flatMap.2 ⟨.container c os, List.mem_filterMap.2 ⟨_, hpart, rfl⟩, ho⟩
    · rintro f part ⟨-, hread⟩ hf
      have hname : f.localName ≠ "EntityContainer" := by simpa using hf
      have hgives := readSchemaPart_gives hread
      rwa [if_neg hname] at hgives

/-- The containers of a graph stand in the order of their elements in the document, and the operations that their
imports declare are in the graph. -/
theorem offersOwn_of_readRoot {root : Element} {o : Outline} {g : Graph} (ho : outline root = .ok o)
    (h : readRoot root = .ok g) :
    List.Forall₂ (fun x c => OffersOwn o.context.aliases x.1 x.2 c g.operations) (containerElements o)
      g.containers := by
  obtain ⟨o', ho', hschemas⟩ := gives_of_readRoot h
  obtain rfl := Except.ok.inj (ho.symm.trans ho')
  rw [containerElements, Graph.containers]
  refine Alignment.flatMap_rel (Alignment.and_mem_right (Reading.gives_mapM_iff.1 hschemas)) ?_
  rintro e s ⟨hs, hread⟩
  rw [List.forall₂_map_left_iff]
  refine (readSchema_gives hread).imp fun f c hoffers => hoffers.mono fun p hp => ?_
  exact List.mem_flatMap.2 ⟨s, hs, hp⟩

end Schemas

end EntityModel.Csdl
