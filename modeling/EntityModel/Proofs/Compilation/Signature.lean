import EntityModel.Proofs.Compilation.Depiction
import EntityModel.Proofs.Compilation.Import
import EntityModel.Proofs.Csdl.Container

/-!
# Signatures of imports

In the older dialect an import declares its operation itself. The document, the graph and the model each have a
signature for it: names, types and order of the parameters, the result, and the method with which it is requested.
From the element to the operation and from an operation to its method nothing of it is lost. In between the
operation is looked up by its name, so an element has a method with its signature exactly if some import of the
container, or a bound operation, happens to lead to such an operation (`hasMethod_of_import_iff`). Of two imports with
one name the second finds the operation of the first (`not_hasMethod_of_second_import`).
-/

namespace EntityModel.Compilation

open CodeModel
open Csdl (Aliases Outline containerElements DeclaresOperation IsRequest IsWrittenParameter IsDeclaredBy)
open Edm (Graph Operation OperationImport Container)
open Xml (Element)

/-! ## Signatures -/

/-- The signature of an operation, its types by name. -/
structure Signature where
  /-- The parameters in order, each with its name and type, and whether it takes a collection. -/
  parameters : List (String × QualifiedName × Bool)
  /-- The type of the result. -/
  returns : Option QualifiedName
  /-- The result is a collection. -/
  collection : Bool
  /-- The method with which it is requested. -/
  verb : String
  deriving DecidableEq, Repr

namespace Signature

/-- The signature of a method. -/
def ofMethod (s : Store) (m : MethodDetail) : Signature :=
  { parameters := m.parameters.map fun p => (p.name, s.nameOf p.type, p.collection),
    returns := m.returns.map s.nameOf, collection := m.collection, verb := m.verbs }

/-- The signature of the method that an operation becomes. -/
def ofOperation (g : Graph) (o : Operation) : Signature :=
  { parameters := (methodParameters o).map fun p => (p.name, targetName g p.type, p.collection),
    returns := (given o.returns).map (resultName g), collection := returnsCollection o, verb := methodVerb o }

/-- The signature that is written on an import. -/
def ofElement (g : Graph) (aliases : Aliases) (e : Element) : Signature :=
  let result := Csdl.nonEmpty? (aliases.reference e "ReturnType")
  { parameters := (e.childrenNamed ["Parameter"]).map fun p =>
      let r := TypeReference.ofText (aliases.reference p "Type")
      (p.attributeD "Name", targetName g r.element, r.collection),
    returns := result.map (resultName g),
    collection := (result.map fun r => (TypeReference.ofText r).collection).getD false,
    verb := if IsRequest e then "GET" else "POST" }

end Signature

/-- The name, within the namespace, of the method that an operation becomes under the name of an import. -/
def methodName (o : Operation × String) : String := if o.2 = "" then o.1.name.name else o.2

/-- A class has a method with a name and a signature. -/
def HasMethod (s : Store) (c : TypeId) (name : String) (x : Signature) : Prop :=
  ∃ k ∈ s.class? c, ∃ t ∈ k.methods, ∃ entry ∈ s.type? t, entry.name.name = name ∧
    ∃ m ∈ entry.shape.method?, Signature.ofMethod s m = x

instance (s : Store) (c : TypeId) (name : String) (x : Signature) : Decidable (HasMethod s c name x) :=
  inferInstanceAs (Decidable (∃ k ∈ s.class? c, ∃ t ∈ k.methods, ∃ entry ∈ s.type? t, entry.name.name = name ∧
    ∃ m ∈ entry.shape.method?, Signature.ofMethod s m = x))

section Signatures

variable {g : Graph} {n : Nat} {ps : List QualifiedName} {s : Store} {d : Draft} {c t : TypeId} {aliases : Aliases}
variable {space name : String} {e : Element} {o : Operation} {m : QualifiedName × MethodDetail} {x : Signature}

theorem IsMethod.signature (h : Declares g n ps d) (hm : IsMethod g n d.store o name m) :
    m.1.name = methodName (o, name) ∧ Signature.ofMethod d.store m.2 = Signature.ofOperation g o := by
  obtain ⟨returns, parameters, hreturns, hparameters, rfl⟩ := hm
  refine ⟨rfl, ?_⟩
  have hp : parameters.map (fun p => (p.name, d.store.nameOf p.type, p.collection)) =
      (methodParameters o).map fun p => (p.name, targetName g p.type, p.collection) := by
    refine Alignment.map_eq hparameters fun p q hq => ?_
    obtain ⟨t, ht, rfl⟩ := hq
    rw [h.nameOf_of_means ht]
  have hr : returns.map d.store.nameOf = (given o.returns).map (resultName g) := by
    generalize given o.returns = result at hreturns ⊢
    cases hreturns with
    | none => rfl
    | some ht => rw [Option.map_some, Option.map_some, h.nameOf_of_means ht]
  rw [Signature.ofMethod, Signature.ofOperation, hp, hr]

theorem IsMethodOf.hasMethod_iff {p : Operation × String} (h : Declares g n ps d)
    (hm : IsMethodOf g n d.store c p t) :
    (∃ entry ∈ d.store.type? t, entry.name.name = name ∧
        ∃ m ∈ entry.shape.method?, Signature.ofMethod d.store m = x) ↔
      methodName p = name ∧ Signature.ofOperation g p.1 = x := by
  obtain ⟨m, hm, ht⟩ := hm
  obtain ⟨hname, hsignature⟩ := IsMethod.signature h hm
  rw [ht, ← hname, ← hsignature]
  constructor
  · rintro ⟨entry, hentry, hname, m', hm', hx⟩
    obtain rfl := Option.some.inj hentry
    obtain rfl := Option.some.inj hm'
    exact ⟨hname, hx⟩
  · rintro ⟨hname, hx⟩
    exact ⟨_, rfl, hname, _, rfl, hx⟩

/-- An operation has the signature that is written on the import that declares it. -/
theorem signature_of_isDeclaredBy (h : IsDeclaredBy aliases space e o) (hbound : o.bound = false) :
    Signature.ofOperation g o = Signature.ofElement g aliases e := by
  have hparameters : (methodParameters o).map (fun p => (p.name, targetName g p.type, p.collection)) =
      (Signature.ofElement g aliases e).parameters := by
    rw [methodParameters, hbound]
    refine Alignment.map_eq h.parameters fun f p hp => ?_
    rw [hp.name, hp.type, hp.collection]
  have hgiven : given o.returns = Csdl.nonEmpty? (aliases.reference e "ReturnType") := by
    rw [h.returns, given, Csdl.nonEmpty?]
    split <;> simp_all
  have hverb : methodVerb o = if IsRequest e then "GET" else "POST" := by
    rw [methodVerb]
    cases hkind : o.kind with
    | function => rw [if_pos (h.kind.1 hkind)]
    | action => rw [if_neg fun hrequest => by simp [h.kind.2 hrequest] at hkind]
  rw [Signature.ofOperation, hparameters, returnsCollection, hgiven, hverb]
  rfl

/-! ## Methods of service classes -/

/-- A method with a name and a signature comes from an operation that is bound to the class or imported by it. -/
theorem Built.hasMethod_iff {y : Declaration} (hb : Built g s d) (hy : (y, c) ∈ placed g s.types.length) :
    HasMethod d.store c name x ↔
      ∃ p ∈ (boundTo g s.types.length c).map (·, "") ++ importedBy g y,
        methodName p = name ∧ Signature.ofOperation g p.1 = x := by
  obtain ⟨ps, hd⟩ := hb.declares
  obtain ⟨k, hk⟩ := hb.shows hy
  constructor
  · rintro ⟨k', hk', t, ht, hentry⟩
    obtain rfl := Option.some.inj (hk.class?.symm.trans hk')
    obtain ⟨p, hp, hmethod⟩ := Alignment.exists_of_mem_right hk.methods ht
    exact ⟨p, hp, (IsMethodOf.hasMethod_iff hd hmethod).1 hentry⟩
  · rintro ⟨p, hp, hfacts⟩
    obtain ⟨t, ht, hmethod⟩ := Alignment.exists_of_mem_left hk.methods hp
    exact ⟨k, hk.class?, t, ht, (IsMethodOf.hasMethod_iff hd hmethod).2 hfacts⟩

theorem mem_importedBy_container {container : Container} {p : Operation × String} :
    p ∈ importedBy g (.container container) ↔
      ∃ i ∈ container.imports, ∃ o ∈ g.operation? i.operation, o.bound = false ∧ (o, i.name) = p := by
  rw [importedBy, List.mem_filterMap]
  refine exists_congr fun i => and_congr_right fun _ => ?_
  cases g.operation? i.operation with
  | none => simp
  | some o => cases hbound : o.bound <;> simp [Option.filter, hbound]

/-- Methods are seen in the types of a store alone. -/
theorem hasMethod_of_types {s' : Store} (h : s'.types = s.types) :
    HasMethod s' c name x ↔ HasMethod s c name x := by
  obtain ⟨types, properties⟩ := s
  obtain ⟨types', properties'⟩ := s'
  dsimp only at h
  subst h
  rfl

end Signatures

/-! ## Imports of a document -/

/-- The root of the document that is to be compiled. A blank document has none. -/
def documentRoot? (settings : Settings) (metadata : Option (Table String String)) : Option Element := do
  let (_, document) ← (documentOf settings metadata).toOption
  let bytes ← Text.utf8? document
  if bytes.all Csdl.isBlankByte then none else Xml.Document.read? bytes

/-- An element of a document is an import that declares an operation, which is not bound. -/
structure IsOwnImport (r : Compiled) (outline : Outline) (x : String × Element) (c : TypeId) (e : Element) : Prop where
  /-- It belongs to a container, whose class stands in its place among the service classes. -/
  container : (x, c) ∈ (containerElements outline).zip (r.model.registry.types.filter (Model.isService r.store))
  child : e ∈ x.2.children
  declares : DeclaresOperation e
  /-- It is not bindable. -/
  bound : Literal.boolD false (e.attribute? "IsBindable") = .ok false

/-- Some import of a container finds first an operation that gives it a method with a name and a signature. -/
def IsFound (g : Graph) (imports : List OperationImport) (name : String) (x : Signature) : Prop :=
  ∃ i ∈ imports, ∃ o ∈ g.operation? i.operation,
    o.bound = false ∧ methodName (o, i.name) = name ∧ Signature.ofOperation g o = x

instance (g : Graph) (imports : List OperationImport) (name : String) (x : Signature) :
    Decidable (IsFound g imports name x) :=
  inferInstanceAs (Decidable (∃ i ∈ imports, ∃ o ∈ g.operation? i.operation,
    o.bound = false ∧ methodName (o, i.name) = name ∧ Signature.ofOperation g o = x))

section Imports

variable {settings : Settings} {vocabulary : Option SourceFile} {metadata : Option (Table String String)} {s : Store}
variable {r : Compiled} {root e : Element} {outline : Outline} {x : String × Element} {c : TypeId}

theorem documentRoot?_eq_some_iff :
    documentRoot? settings metadata = some root ↔ ∃ m document bytes, documentOf settings metadata = .ok (m, document) ∧
      Text.utf8? document = some bytes ∧ bytes.all Csdl.isBlankByte = false ∧
      Xml.Document.read? bytes = some root := by
  simp only [documentRoot?, Option.bind_eq_bind, Option.bind_eq_some_iff, Prod.exists, toOption_eq_some_iff,
    Option.ite_none_left_eq_some, Bool.not_eq_true, exists_and_left]

theorem eq_some_of_documentOf {m : Table String String} {document : String}
    (h : documentOf settings metadata = .ok (m, document)) : metadata = some m := by
  unfold documentOf at h
  split at h
  · cases h
  · split at h
    · cases h
    · rw [(Prod.mk.inj (Except.ok.inj h)).1]

/-- A service is compiled from the root of its document. -/
theorem compile_eq_compiled_iff_root :
    compile settings vocabulary metadata s = .compiled r ↔
      ∃ root m g d terms, documentRoot? settings metadata = some root ∧ metadata = some m ∧
        Csdl.readRoot root = .ok g ∧ Passed settings vocabulary m s g r d terms := by
  rw [compile_eq_compiled_iff]
  simp only [documentRoot?_eq_some_iff, Csdl.readText_eq_ok_iff]
  constructor
  · rintro ⟨m, document, g, d, terms, hdocument, ⟨bytes, root, hbytes, hblank, hroot, hgraph⟩, hpassed⟩
    exact ⟨root, m, g, d, terms, ⟨m, document, bytes, hdocument, hbytes, hblank, hroot⟩,
      eq_some_of_documentOf hdocument, hgraph, hpassed⟩
  · rintro ⟨root, m, g, d, terms, ⟨m', document, bytes, hdocument, hbytes, hblank, hroot⟩, hm, hgraph, hpassed⟩
    obtain rfl := Option.some.inj (hm.symm.trans (eq_some_of_documentOf hdocument))
    exact ⟨m, document, g, d, terms, hdocument, ⟨bytes, root, hbytes, hblank, hroot, hgraph⟩, hpassed⟩

/-- An import that declares an operation has a method with its own name and signature exactly if some import of the
container finds an operation with the signature under the name that it looks for, or such an operation is bound to the
class. The operation that is declared is there, but what counts is which one is found first. -/
theorem hasMethod_of_import_iff (h : compile settings vocabulary metadata s = .compiled r)
    (hroot : documentRoot? settings metadata = some root) (houtline : Csdl.outline root = .ok outline)
    (himport : IsOwnImport r outline x c e) :
    ∃ container, (container, c) ∈ r.graph.containers.zip (r.model.registry.types.filter (Model.isService r.store)) ∧
      (∃ i ∈ container.imports, i.name = e.attributeD "Name" ∧ ∃ o ∈ r.graph.operations,
        i.operation = o.name.dotted ∧ o.bound = false ∧
          Signature.ofOperation r.graph o = Signature.ofElement r.graph outline.context.aliases e) ∧
      (HasMethod r.store c (e.attributeD "Name") (Signature.ofElement r.graph outline.context.aliases e) ↔
        IsFound r.graph container.imports (e.attributeD "Name")
          (Signature.ofElement r.graph outline.context.aliases e) ∨
        ∃ o ∈ boundTo r.graph s.types.length c, o.name.name = e.attributeD "Name" ∧
          Signature.ofOperation r.graph o = Signature.ofElement r.graph outline.context.aliases e) := by
  obtain ⟨root', m, g, d, terms, hroot', -, hgraph, hpassed⟩ := compile_eq_compiled_iff_root.1 h
  obtain rfl := Option.some.inj (hroot.symm.trans hroot')
  obtain ⟨container, hoffers, hcontainer⟩ :=
    Alignment.exists_of_mem_zip (Csdl.offersOwn_of_readRoot houtline hgraph) himport.container
  rw [hpassed.graph]
  refine ⟨container, hcontainer, ?_, ?_⟩
  · obtain ⟨i, hi, o, ho, hdeclared, hname, hoperation⟩ := hoffers e himport.child himport.declares
    have hunbound : o.bound = false := Except.ok.inj (hdeclared.bound.symm.trans himport.bound)
    exact ⟨i, hi, hname, o, ho, hoperation, hunbound, signature_of_isDeclaredBy hdeclared hunbound⟩
  · -- Restrictions leave the types alone, so the methods are those of the draft.
    rw [hpassed.zip_services] at hcontainer
    obtain ⟨-, hb⟩ := build_post hpassed.built
    rw [hasMethod_of_types (types_of_restrict hpassed.restricted),
      hb.hasMethod_iff (placed_of_containersOf hcontainer)]
    simp only [List.mem_append, or_and_right, exists_or]
    rw [or_comm]
    refine or_congr ?_ ?_
    · constructor
      · rintro ⟨p, hp, hname, hsignature⟩
        obtain ⟨i, hi, o, ho, hbound, rfl⟩ := mem_importedBy_container.1 hp
        exact ⟨i, hi, o, ho, hbound, hname, hsignature⟩
      · rintro ⟨i, hi, o, ho, hbound, hname, hsignature⟩
        exact ⟨(o, i.name), mem_importedBy_container.2 ⟨i, hi, o, ho, hbound, rfl⟩, hname, hsignature⟩
    · simp [methodName]

/-- A schema with a container that has two imports of one name. -/
def overloadedDocument : String :=
  "<Schema Namespace='N'><EntityContainer><FunctionImport Name='F'/><FunctionImport Name='F' ReturnType='Edm.Guid'/>" ++
    "</EntityContainer></Schema>"

/-- The metadata of a service with nothing but the document. -/
def overloadedMetadata : Table String String := [("$metadata", overloadedDocument)]

set_option maxRecDepth 100000 in
set_option synthInstance.maxSize 400 in
/-- One of the imports is found under its own name, and the other one has no method. -/
theorem exists_overloaded_imports :
    ∃ r root outline x c e e', compile {} none (some overloadedMetadata) {} = .compiled r ∧
      documentRoot? {} (some overloadedMetadata) = some root ∧ Csdl.outline root = .ok outline ∧
      (IsOwnImport r outline x c e ∧ ∀ container ∈ r.graph.containers, IsFound r.graph container.imports
        (e.attributeD "Name") (Signature.ofElement r.graph outline.context.aliases e)) ∧
      IsOwnImport r outline x c e' ∧
      ¬ HasMethod r.store c (e'.attributeD "Name") (Signature.ofElement r.graph outline.context.aliases e') := by
  have hfacts : ∃ root ∈ documentRoot? {} (some overloadedMetadata), ∃ outline ∈ (Csdl.outline root).toOption,
      ∃ g ∈ (Csdl.readRoot root).toOption, ∃ r ∈ (compileGraph {} none overloadedMetadata {} g).toOption,
      ∃ p ∈ (containerElements outline).zip (r.model.registry.types.filter (Model.isService r.store)),
      (∃ e ∈ p.1.2.children, (DeclaresOperation e ∧ Literal.boolD false (e.attribute? "IsBindable") = .ok false) ∧
        ∀ container ∈ r.graph.containers, IsFound r.graph container.imports (e.attributeD "Name")
          (Signature.ofElement r.graph outline.context.aliases e)) ∧
      ∃ e ∈ p.1.2.children, (DeclaresOperation e ∧ Literal.boolD false (e.attribute? "IsBindable") = .ok false) ∧
        ¬ HasMethod r.store p.2 (e.attributeD "Name") (Signature.ofElement r.graph outline.context.aliases e) := by
    decide +kernel
  obtain ⟨root, hroot, outline, houtline, g, hg, r, hr, ⟨x, c⟩, hx, ⟨e, he, ⟨hdeclares, hbound⟩, hfound⟩, e', he',
    ⟨hdeclares', hbound'⟩, hnone⟩ := hfacts
  obtain ⟨d, terms, hpassed⟩ := compileGraph_eq_ok_iff.1 (toOption_eq_some_iff.1 hr)
  exact ⟨r, root, outline, x, c, e, e',
    compile_eq_compiled_iff_root.2 ⟨root, _, g, d, terms, hroot, rfl, toOption_eq_some_iff.1 hg, hpassed⟩, hroot,
    toOption_eq_some_iff.1 houtline, ⟨⟨hx, he, hdeclares, hbound⟩, hfound⟩, ⟨hx, he', hdeclares', hbound'⟩, hnone⟩

/-- The first import has its method. -/
theorem hasMethod_of_first_import :
    ∃ r root outline x c e, compile {} none (some overloadedMetadata) {} = .compiled r ∧
      documentRoot? {} (some overloadedMetadata) = some root ∧ Csdl.outline root = .ok outline ∧
      IsOwnImport r outline x c e ∧
      HasMethod r.store c (e.attributeD "Name") (Signature.ofElement r.graph outline.context.aliases e) := by
  obtain ⟨r, root, outline, x, c, e, -, hr, hroot, houtline, ⟨himport, hfound⟩, -⟩ := exists_overloaded_imports
  obtain ⟨container, hcontainer, -, hiff⟩ := hasMethod_of_import_iff hr hroot houtline himport
  exact ⟨r, root, outline, x, c, e, hr, hroot, houtline, himport,
    hiff.2 (.inl (hfound container (List.of_mem_zip hcontainer).1))⟩

/-- The second import has no method with its own signature, although its operation is in the graph. -/
theorem not_hasMethod_of_second_import :
    ∃ r root outline x c e, compile {} none (some overloadedMetadata) {} = .compiled r ∧
      documentRoot? {} (some overloadedMetadata) = some root ∧ Csdl.outline root = .ok outline ∧
      IsOwnImport r outline x c e ∧
      ¬ HasMethod r.store c (e.attributeD "Name") (Signature.ofElement r.graph outline.context.aliases e) := by
  obtain ⟨r, root, outline, x, c, -, e, hr, hroot, houtline, -, himport, hnone⟩ := exists_overloaded_imports
  exact ⟨r, root, outline, x, c, e, hr, hroot, houtline, himport, hnone⟩

end Imports

end EntityModel.Compilation
