import EntityModel.Proofs.Compilation.Likeness
import EntityModel.Proofs.Compilation.Service

/-!
# Circles of base classes

A class of a model extends another exactly as its declaration says, and no compilation asks whether the declared
bases go round in a circle. So a compiled model is free of circles, and the walks along its bases end, exactly
if the declarations are free of them (`acyclic_of_compile_iff`).
-/

namespace EntityModel.Compilation

open CodeModel
open Edm (Graph StructuredType)
open Relation (TransGen)

section Drafts

variable {g : Graph} {s : Store} {d : Draft} {t u : StructuredType} {c b : TypeId}
variable {l : List TypeId}

theorem Built.mem_types_of_extends (hb : Built g s d) (hc : c ∈ d.registry.types) (h : d.store.Extends c b) :
    b ∈ d.registry.types := by
  obtain ⟨k, hk, hkb⟩ := h
  obtain ⟨ps, hd⟩ := hb.declares
  obtain ⟨x, -, hshow⟩ := hb.exists_shows hc hk
  obtain ⟨base, -, hplace⟩ := Alignment.exists_of_some_right (hkb ▸ hshow.base)
  obtain ⟨y, hy, -⟩ := exists_placed_of_place? hplace
  exact hd.mem_types_of_placed hy

theorem Built.exists_extends (hb : Built g s d) (ht : (.type (.structured t), c) ∈ placed g s.types.length)
    (h : Extends g t u) : ∃ b, d.store.Extends c b ∧ (.type (.structured u), b) ∈ placed g s.types.length := by
  obtain ⟨base, hgiven, hu⟩ := h
  obtain ⟨b, hplace, hub⟩ := exists_place_of_structured? s.types.length hu
  obtain ⟨k, hk⟩ := hb.shows ht
  have hbase := hk.base
  rw [Declaration.base?, hgiven] at hbase
  obtain ⟨b', hkb, hplace'⟩ := Alignment.exists_of_some_left hbase
  obtain rfl := Option.some.inj (hplace.symm.trans hplace')
  exact ⟨b, ⟨k, hk.class?, hkb⟩, hub⟩

/-- A declaration whose class has a lineage that ends has only chains of bases that end. -/
theorem Built.acc_of_isLineage (hb : Built g s d) (hl : d.store.IsLineage c l)
    (ht : (.type (.structured t), c) ∈ placed g s.types.length) : Acc (fun u t => Extends g t u) t := by
  induction hl generalizing t with
  | nil hnone =>
      obtain ⟨k, hk⟩ := hb.shows ht
      rw [hk.class?] at hnone
      cases hnone
  | last hk hnone =>
      refine ⟨t, fun u hu => ?_⟩
      obtain ⟨b, ⟨k, hk', hkb⟩, -⟩ := hb.exists_extends ht hu
      obtain rfl := Option.some.inj (hk.symm.trans hk')
      rw [hnone] at hkb
      cases hkb
  | step hk hb' _ ih =>
      refine ⟨t, fun u hu => ?_⟩
      obtain ⟨b, ⟨k, hk', hkb⟩, hub⟩ := hb.exists_extends ht hu
      obtain rfl := Option.some.inj (hk.symm.trans hk')
      obtain rfl := Option.some.inj (hb'.symm.trans hkb)
      exact ih hub

theorem Built.forall_isLineage_iff (hb : Built g s d) :
    (∀ t ∈ d.registry.types, ∃ l, d.store.IsLineage t l) ↔ AcyclicBases g := by
  obtain ⟨ps, hd⟩ := hb.declares
  constructor
  · intro h
    refine ⟨fun t => ⟨t, ?_⟩⟩
    rintro u ⟨base, -, hu⟩
    obtain ⟨b, -, hub⟩ := exists_place_of_structured? s.types.length hu
    obtain ⟨l, hl⟩ := h b (hd.mem_types_of_placed hub)
    exact hb.acc_of_isLineage hl hub
  · intro hacyclic t ht
    rcases exists_placed_or_primitive hd ht with ⟨x, hx⟩ | ⟨name, hname⟩
    · exact hb.exists_isLineage hacyclic hx
    · exact ⟨[], .nil (by rw [Store.class?, hname]; rfl)⟩

/-- No registered class stands on a circle exactly if the lineage of each ends. -/
theorem Built.forall_not_transGen_iff (hb : Built g s d) :
    (∀ t ∈ d.registry.types, ¬ TransGen d.store.Extends t t) ↔
      ∀ t ∈ d.registry.types, ∃ l, d.store.IsLineage t l := by
  constructor
  · intro h t ht
    refine Store.exists_isLineage_iff.2 fun u hu => h u ?_
    induction hu with
    | refl => exact ht
    | tail _ hextends ih => exact hb.mem_types_of_extends ih hextends
  · intro h t ht
    obtain ⟨l, hl⟩ := h t ht
    exact hl.not_transGen

end Drafts

/-- No registered class of a compiled service stands on a circle of base classes exactly if the declarations have no
such circle, and under the same condition each lineage ends. -/
theorem acyclic_of_compile_iff {settings : Settings} {vocabulary : Option SourceFile}
    {metadata : Option (Table String String)} {s : Store} {r : Compiled}
    (h : compile settings vocabulary metadata s = .compiled r) :
    ((∀ t ∈ r.model.registry.types, ¬ TransGen r.store.Extends t t) ↔ AcyclicBases r.graph) ∧
      ((∀ t ∈ r.model.registry.types, ∃ l, r.store.IsLineage t l) ↔ AcyclicBases r.graph) := by
  obtain ⟨m, document, g, d, terms, -, -, hpassed⟩ := compile_eq_compiled_iff.1 h
  obtain ⟨-, hb⟩ := build_post hpassed.built
  have hclass : ∀ u, r.store.class? u = d.store.class? u := by
    intro u
    rw [Store.class?, Store.type?, types_of_restrict hpassed.restricted]
    rfl
  have hextends : r.store.Extends = d.store.Extends := by
    funext t b
    simp only [Store.Extends, hclass]
  have hlineage : ∀ t, (∃ l, r.store.IsLineage t l) ↔ ∃ l, d.store.IsLineage t l := by
    intro t
    exact exists_congr fun l => ⟨.of_class? fun u => (hclass u).symm, .of_class? hclass⟩
  rw [hpassed.model, hpassed.graph, hextends]
  simp only [hlineage]
  exact ⟨hb.forall_not_transGen_iff.trans hb.forall_isLineage_iff, hb.forall_isLineage_iff⟩

/-- An entity type that extends another one. -/
def straightDocument : String :=
  "<Schema Namespace='NS'><EntityType Name='A' BaseType='NS.B'/><EntityType Name='B'/></Schema>"

/-- The number of bases of a type in the example. -/
def straightRank (t : StructuredType) : Nat := if t.base.isSome then 1 else 0

set_option maxRecDepth 100000 in
/-- Where one type extends another there is no circle. -/
theorem acyclic_of_straight :
    ∃ r, compile {} none (some [("$metadata", straightDocument)]) {} = .compiled r ∧
      r.model.registry.types.length = 2 ∧ ∀ t ∈ r.model.registry.types, ¬ TransGen r.store.Extends t t := by
  have hcompiles : ((compile {} none (some [("$metadata", straightDocument)]) {}).result?.any fun r : Compiled =>
      decide (r.model.registry.types.length = 2) &&
        decide (∀ t ∈ structuredTypes r.graph, ∀ base ∈ given t.base,
          ∀ u ∈ structured? r.graph (targetName r.graph base), straightRank u < straightRank t)) = true := by
    decide +kernel
  obtain ⟨r, hr, hgraph⟩ := Attempt.exists_of_any_result? hcompiles
  rw [Bool.and_eq_true, decide_eq_true_eq, decide_eq_true_eq] at hgraph
  exact ⟨r, hr, hgraph.1, (acyclic_of_compile_iff hr).1.2 (acyclicBases_of_rank straightRank hgraph.2)⟩

/-- Two entity types that extend each other. -/
def circularDocument : String :=
  "<Schema Namespace='NS' xmlns='http://docs.oasis-open.org/odata/ns/edm'>" ++
    "<EntityType Name='A' BaseType='NS.B'/><EntityType Name='B' BaseType='NS.A'/></Schema>"

set_option maxRecDepth 100000 in
/-- A model with a circle is compiled all the same, and a walk along its bases does not end. -/
theorem transGen_of_circular :
    ∃ r, compile {} none (some [("$metadata", circularDocument)]) {} = .compiled r ∧
      ∃ t ∈ r.model.registry.types, TransGen r.store.Extends t t ∧ ¬ ∃ l, r.store.IsLineage t l := by
  have hcompiles : ((compile {} none (some [("$metadata", circularDocument)]) {}).result?.any fun r : Compiled =>
      decide (⟨0⟩ ∈ r.model.registry.types ∧ r.store.Extends ⟨0⟩ ⟨1⟩ ∧ r.store.Extends ⟨1⟩ ⟨0⟩)) = true := by
    decide +kernel
  obtain ⟨r, hr, hmodel⟩ := Attempt.exists_of_any_result? hcompiles
  obtain ⟨hmem, hfirst, hsecond⟩ := of_decide_eq_true hmodel
  have hcircle : TransGen r.store.Extends ⟨0⟩ ⟨0⟩ := (TransGen.single hfirst).tail hsecond
  refine ⟨r, hr, ⟨0⟩, hmem, hcircle, ?_⟩
  rintro ⟨l, hl⟩
  exact hl.not_transGen hcircle

end EntityModel.Compilation
