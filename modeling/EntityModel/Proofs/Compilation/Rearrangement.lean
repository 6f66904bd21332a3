import EntityModel.Proofs.Compilation.Success
import Mathlib.Data.List.Perm.Basic

/-!
# Rearranged graphs

The types of a schema may be listed in another order. If no two types have the same name, every name still leads
to the same declaration, so whatever is said of references says the same of both graphs. The classes of the types
stand in other places then; `Counterpart` tells which class of the one compilation stands for which of the other.
The classes of containers stay where they are, since a schema declares its containers behind its types.
-/

namespace EntityModel.Compilation

open CodeModel
open Edm (Graph Schema StructuredType NamedType Container Operation OperationImport)

/-- Two schemas declare the same, but their enumerations, complex types and entity types may each be listed in
another order. -/
structure Reordered (a b : Schema) : Prop where
  space : b.space = a.space
  shortName : b.shortName = a.shortName
  enums : a.enums.Perm b.enums
  complexes : a.complexes.Perm b.complexes
  entities : a.entities.Perm b.entities
  definitions : b.definitions = a.definitions
  operations : b.operations = a.operations
  terms : b.terms = a.terms
  containers : b.containers = a.containers

/-- Two graphs differ at most in the order in which the schemas list their types. -/
structure Rearranged (g g' : Graph) : Prop where
  version : g'.version = g.version
  references : g'.references = g.references
  annotations : g'.annotations = g.annotations
  schemas : List.Forall₂ Reordered g.schemas g'.schemas

/-- What a schema declares is in its namespace. -/
def Located (g : Graph) : Prop := ∀ s ∈ g.schemas, ∀ x ∈ declarationsOf s, x.name.space = s.space

instance (g : Graph) : Decidable (Located g) :=
  inferInstanceAs (Decidable (∀ s ∈ g.schemas, ∀ x ∈ declarationsOf s, x.name.space = s.space))

/-! ## Schemas -/

section Schemas

variable {a b : Schema} {as bs : List Schema} {g g' : Graph}

theorem Reordered.types (h : Reordered a b) : a.types.Perm b.types :=
  (h.enums.map _).append ((h.complexes.append h.entities).map _)

theorem Reordered.declarationsOf (h : Reordered a b) : (declarationsOf a).Perm (declarationsOf b) := by
  unfold Compilation.declarationsOf
  rw [h.containers]
  exact (h.types.map _).append_right _

end Schemas

/-! ## What does not depend on the order -/

section Invariance

variable {g g' : Graph} {name : QualifiedName}

theorem Rearranged.operations (h : Rearranged g g') : g'.operations = g.operations :=
  Alignment.flatMap_eq h.schemas fun _ _ hs => hs.operations

theorem Rearranged.containers (h : Rearranged g g') : g'.containers = g.containers :=
  Alignment.flatMap_eq h.schemas fun _ _ hs => hs.containers

theorem Rearranged.types (h : Rearranged g g') : g.types.Perm g'.types :=
  Alignment.flatMap_perm h.schemas fun _ _ hs => hs.types

theorem Rearranged.declarations (h : Rearranged g g') : (declarations g).Perm (declarations g') :=
  Alignment.flatMap_perm h.schemas fun _ _ hs => hs.declarationsOf

theorem Rearranged.structuredTypes (h : Rearranged g g') : (structuredTypes g).Perm (structuredTypes g') :=
  h.declarations.filterMap _

theorem Rearranged.operation? (h : Rearranged g g') (full : String) : g'.operation? full = g.operation? full := by
  rw [Graph.operation?, h.operations]
  rfl

theorem Rearranged.annotationWith? (h : Rearranged g g') : g'.annotationWith? = g.annotationWith? := by
  funext target term
  simp only [Graph.annotationWith?, Graph.annotationsOf, Graph.recorded, h.annotations]

theorem Rearranged.targetName (h : Rearranged g g') : targetName g' = targetName g := by
  have hdefinitions : g'.schemas.flatMap (·.definitions) = g.schemas.flatMap (·.definitions) :=
    Alignment.flatMap_eq h.schemas fun _ _ hs => hs.definitions
  funext reference
  simp only [Compilation.targetName, referredName, effectiveName, Graph.definition?, hdefinitions]

theorem Rearranged.isDeclared (h : Rearranged g g') : IsDeclared g' name ↔ IsDeclared g name :=
  exists_congr fun _ => and_congr_left fun _ => h.declarations.symm.mem_iff

theorem Rearranged.distinctTypes (h : Rearranged g g') (hd : DistinctTypes g) : DistinctTypes g' :=
  (h.types.map _).nodup_iff.1 hd

theorem Rearranged.leadsToType (h : Rearranged g g') : LeadsToType g' name ↔ LeadsToType g name :=
  or_congr_right h.isDeclared

theorem Rearranged.leadsToClass (h : Rearranged g g') : LeadsToClass g' name ↔ LeadsToClass g name :=
  and_congr_right fun _ => h.isDeclared

theorem Rearranged.membersLead (h : Rearranged g g') {t : StructuredType} (ht : MembersLead g t) :
    MembersLead g' t where
  base := by simpa only [h.targetName, h.leadsToClass] using ht.base
  properties := by simpa only [h.targetName, h.leadsToType] using ht.properties
  navigation := by simpa only [h.targetName, h.leadsToClass] using ht.navigation

theorem Rearranged.signatureLeads (h : Rearranged g g') {o : Operation} (ho : SignatureLeads g o) :
    SignatureLeads g' o where
  returns := by simpa only [resultName, h.targetName, h.leadsToType] using ho.returns
  parameters := by simpa only [h.targetName, h.leadsToType] using ho.parameters

theorem Rearranged.boundLeads (h : Rearranged g g') {o : Operation} (ho : BoundLeads g o) : BoundLeads g' o := by
  intro p hp
  obtain ⟨hclass, hsignature⟩ := ho p hp
  rw [h.targetName]
  exact ⟨h.leadsToClass.2 hclass, h.signatureLeads hsignature⟩

theorem Rearranged.importLeads (h : Rearranged g g') {i : OperationImport} (hi : ImportLeads g i) :
    ImportLeads g' i := by
  obtain ⟨o, ho, hsignature⟩ := hi
  exact ⟨o, (h.operation? _).trans ho, fun hb => h.signatureLeads (hsignature hb)⟩

theorem Rearranged.containerLeads (h : Rearranged g g') {x : Container} (hx : ContainerLeads g x) :
    ContainerLeads g' x where
  sets := by simpa only [h.targetName, h.leadsToClass] using hx.sets
  singletons := by simpa only [h.targetName, h.leadsToClass] using hx.singletons
  imports i hi := h.importLeads (hx.imports i hi)

/-- Where references lead does not depend on the order of the types. -/
theorem Rearranged.leads (h : Rearranged g g') (hg : References g) : References g' where
  members t ht := h.membersLead (hg.members t (h.structuredTypes.mem_iff.2 ht))
  bound o ho := h.boundLeads (hg.bound o (h.operations ▸ ho))
  containers x hx := h.containerLeads (hg.containers x (h.containers ▸ hx))

/-- The namespaces of the declarations stand in the same order. -/
theorem Rearranged.map_space (h : Rearranged g g') (hg : Located g) :
    (Compilation.declarations g').map (·.name.space) = (Compilation.declarations g).map (·.name.space) := by
  have hspaces : ∀ {as bs : List Schema}, List.Forall₂ Reordered as bs →
      (∀ s ∈ as, ∀ x ∈ declarationsOf s, x.name.space = s.space) →
      (bs.flatMap declarationsOf).map (·.name.space) = (as.flatMap declarationsOf).map (·.name.space) := by
    intro as bs hall
    induction hall with
    | nil => exact fun _ => rfl
    | @cons a b as bs hs _ ih =>
        intro hlocated
        have ha : ∀ x ∈ declarationsOf a, x.name.space = a.space := hlocated a List.mem_cons_self
        have hb : ∀ x ∈ declarationsOf b, x.name.space = a.space :=
          fun x hx => ha x (hs.declarationsOf.mem_iff.2 hx)
        have hfirst : (declarationsOf b).map (·.name.space) = (declarationsOf a).map (·.name.space) := by
          rw [List.map_congr_left hb, List.map_congr_left ha, List.map_const', List.map_const',
            hs.declarationsOf.length_eq]
        rw [List.flatMap_cons, List.flatMap_cons, List.map_append, List.map_append, hfirst,
          ih fun s hs => hlocated s (List.mem_cons_of_mem _ hs)]
  exact hspaces h.schemas hg

end Invariance

end EntityModel.Compilation
