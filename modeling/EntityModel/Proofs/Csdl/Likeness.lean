import EntityModel.Proofs.Csdl.Document

/-!
# Elements that read alike

Readers see a reference only through its full name, and apart from that they ask whether it is there and whether it is
empty. So two trees that differ in references with the same full name read alike (`readRoot_eq_of_alike`). There
is one lemma for each reader, in the order in which readers call each other.
-/

namespace EntityModel.Csdl

open Xml (Name Attribute Element)
open Edm

/-! ## Trees that differ in attributes -/

/-- Two trees have the same names and texts, and attributes that are related for each element. -/
inductive Alike (R : Name → List Attribute → List Attribute → Prop) : Element → Element → Prop where
  | mk {n : Name} {as as' : List Attribute} {t : String} {cs cs' : List Element} :
      R n as as' → List.Forall₂ (Alike R) cs cs' → Alike R (.mk n as t cs) (.mk n as' t cs')

namespace Alike

variable {R S : Name → List Attribute → List Attribute → Prop} {e e' : Element}

theorem induct {P : Element → Element → Prop}
    (h : ∀ {n as as' t cs cs'}, R n as as' → List.Forall₂ (fun c c' => Alike R c c' ∧ P c c') cs cs' →
      P (.mk n as t cs) (.mk n as' t cs')) (halike : Alike R e e') : P e e' :=
  -- Elements hold lists of elements, so there is a second motive, for lists that are related.
  @Alike.rec R (fun e e' _ => P e e') (fun cs cs' _ => List.Forall₂ (fun c c' => Alike R c c' ∧ P c c') cs cs')
    (fun hr _ ih => h hr ih) .nil (fun hc _ hp ih => .cons ⟨hc, hp⟩ ih) e e' halike

theorem mono (himp : ∀ n as as', R n as as' → S n as as') (h : Alike R e e') : Alike S e e' :=
  h.induct fun hr hcs => .mk (himp _ _ _ hr) (hcs.imp fun _ _ hc => hc.2)

theorem refl (hrefl : ∀ n as, R n as as) (e : Element) : Alike R e e := by
  obtain ⟨n, as, t, cs⟩ := e
  exact .mk (hrefl n as) (List.forall₂_same.2 fun c _ => refl hrefl c)

theorem name (h : Alike R e e') : e'.name = e.name := by
  cases h
  rfl

theorem localName (h : Alike R e e') : e'.localName = e.localName := by
  rw [Element.localName, Element.localName, h.name]

theorem attributes (h : Alike R e e') : R e.name e.attributes e'.attributes := by
  cases h with
  | mk hr _ => exact hr

theorem children (h : Alike R e e') : List.Forall₂ (Alike R) e.children e'.children := by
  cases h with
  | mk _ hcs => exact hcs

theorem childrenNamed (h : Alike R e e') (names : List String) :
    List.Forall₂ (Alike R) (e.childrenNamed names) (e'.childrenNamed names) :=
  List.rel_filter (fun _ _ hc => by dsimp only; rw [hc.localName]) h.children

end Alike

/-! ## What readers see of an attribute -/

/-- The attributes that refer to a type, an operation, an association or a term. -/
def referenceAttributes : List String :=
  ["BaseType", "Type", "EntityType", "ReturnType", "Relationship", "Function", "Action", "Term"]

/-- An attribute of an element is a reference. Only a type definition refers to its underlying type. -/
def IsReference (element : String) (a : Name) : Prop :=
  a.space = "" ∧ (a.localName ∈ referenceAttributes ∨ element = "TypeDefinition" ∧ a.localName = "UnderlyingType")

instance (element : String) (a : Name) : Decidable (IsReference element a) := inferInstanceAs (Decidable (_ ∧ _))

/-- An attribute of an element is the target of annotations. -/
def IsTarget (element : String) (a : Name) : Prop := a.space = "" ∧ element = "Annotations" ∧ a.localName = "Target"

instance (element : String) (a : Name) : Decidable (IsTarget element a) := inferInstanceAs (Decidable (_ ∧ _))

/-- What readers see of the value of an attribute: whether it is empty, and what it says. -/
def sense (aliases : Aliases) (element : String) (a : Name) (v : String) : Bool × String :=
  (v = "",
    if IsReference element a then aliases.qualify v
    else if IsTarget element a then aliases.qualifyTarget v
    else v)

/-- The attributes of an element make the same sense. -/
def SameSense (aliases : Aliases) (n : Name) (as as' : List Attribute) : Prop :=
  ∀ a : Name, ((as'.find? fun x => x.name = a).map fun x => sense aliases n.localName a x.value) =
    (as.find? fun x => x.name = a).map fun x => sense aliases n.localName a x.value

/-- An attribute with a name is no reference in any element. -/
def IsPlain (name : String) : Prop := name ∉ "UnderlyingType" :: "Target" :: referenceAttributes

instance : DecidablePred IsPlain := fun _ => inferInstanceAs (Decidable (_ ∉ _))

section Attributes

variable {aliases : Aliases} {e e' : Element} {space name : String}

theorem sense_eq (h : Alike (SameSense aliases) e e') (a : Name) :
    (e'.attributeIn? a.space a.localName).map (sense aliases e.localName a) =
      (e.attributeIn? a.space a.localName).map (sense aliases e.localName a) := by
  rw [Element.attributeIn?, Element.attributeIn?, Option.map_map, Option.map_map]
  exact h.attributes a

/-- What is neither a reference nor a target is the same. -/
theorem attributeIn?_eq (h : Alike (SameSense aliases) e e') (hreference : ¬ IsReference e.localName ⟨space, name⟩)
    (htarget : ¬ IsTarget e.localName ⟨space, name⟩) : e'.attributeIn? space name = e.attributeIn? space name := by
  have hsense := congrArg (Option.map Prod.snd) (sense_eq h ⟨space, name⟩)
  simpa [Function.comp_def, sense, hreference, htarget] using hsense

theorem attribute?_eq (h : Alike (SameSense aliases) e e') (hname : IsPlain name) :
    e'.attribute? name = e.attribute? name := by
  simp only [IsPlain, List.mem_cons, not_or] at hname
  refine attributeIn?_eq h ?_ ?_
  · simp [IsReference, hname]
  · simp [IsTarget, hname]

theorem attributeD_eq (h : Alike (SameSense aliases) e e') (hname : IsPlain name) :
    e'.attributeD name = e.attributeD name := by
  rw [Element.attributeD, Element.attributeD, attribute?_eq h hname]

theorem flag_eq (h : Alike (SameSense aliases) e e') (hname : IsPlain name) (fallback : Bool) :
    Reading.flag fallback e' name = Reading.flag fallback e name := by
  rw [Reading.flag, Reading.flag, attribute?_eq h hname]

theorem sense_attributeD (h : Alike (SameSense aliases) e e') (name : String) :
    sense aliases e.localName ⟨"", name⟩ (e'.attributeD name) =
      sense aliases e.localName ⟨"", name⟩ (e.attributeD name) := by
  have hsense := sense_eq h ⟨"", name⟩
  rw [Element.attributeD, Element.attributeD, Element.attribute?, Element.attribute?]
  dsimp only at hsense
  generalize e'.attributeIn? "" name = o', e.attributeIn? "" name = o at hsense ⊢
  cases o with
  | none => rw [Option.map_eq_none_iff.1 hsense]
  | some v =>
      obtain ⟨v', rfl, hv⟩ := Option.map_eq_some_iff.1 hsense
      exact hv

/-- An attribute is empty in both elements or in none. -/
theorem attributeD_eq_empty_iff (h : Alike (SameSense aliases) e e') (name : String) :
    e'.attributeD name = "" ↔ e.attributeD name = "" := by
  have hempty := congrArg Prod.fst (sense_attributeD h name)
  simpa [sense] using hempty

theorem reference_eq_of_isReference (h : Alike (SameSense aliases) e e') (hreference : IsReference e.localName ⟨"", name⟩) :
    aliases.reference e' name = aliases.reference e name := by
  have hfull := congrArg Prod.snd (sense_attributeD h name)
  simpa [sense, hreference, Aliases.reference] using hfull

/-- A reference has the same full name. -/
theorem reference_eq (h : Alike (SameSense aliases) e e') (hname : name ∈ referenceAttributes) :
    aliases.reference e' name = aliases.reference e name := reference_eq_of_isReference h ⟨rfl, .inl hname⟩

/-- The target of annotations is the same. -/
theorem qualifyTarget_eq (h : Alike (SameSense aliases) e e') (hannotations : e.localName = "Annotations") :
    aliases.qualifyTarget (e'.attributeD "Target") = aliases.qualifyTarget (e.attributeD "Target") := by
  have hfull := congrArg Prod.snd (sense_attributeD h "Target")
  have hreference : ¬ IsReference e.localName ⟨"", "Target"⟩ := by simp [IsReference, referenceAttributes]
  have htarget : IsTarget e.localName ⟨"", "Target"⟩ := ⟨rfl, hannotations, rfl⟩
  simpa [sense, hreference, htarget] using hfull

end Attributes

/-! ## Annotations -/

section Annotations

variable {aliases : Aliases} {e e' : Element} {α : Type}

theorem look_eq {R : Name → List Attribute → List Attribute → Prop} (h : Alike R e e') :
    Reading.look e' = Reading.look e := by
  rw [Reading.look, Reading.look, h.name]

/-- Child elements are read alike if each of them is. -/
theorem children_eq {R : Name → List Attribute → List Attribute → Prop} {names : List String}
    {read read' : Element → Reading α} (h : Alike R e e') (hread : ∀ c c', Alike R c c' → read' c' = read c) :
    Reading.children names read' e' = Reading.children names read e := by
  rw [Reading.children, Reading.children, Alignment.mapM_eq h.children]
  intro c c' hc
  rw [look_eq hc, hc.localName, hread c c' hc]

theorem attributes_eq (h : Alike (SameSense aliases) e e') {names : List String} (hnames : ∀ name ∈ names, IsPlain name) :
    (names.findSome? fun k => (e'.attribute? k).map (k, ·)) = names.findSome? fun k => (e.attribute? k).map (k, ·) := by
  induction names with
  | nil => rfl
  | cons k names ih =>
      rw [List.findSome?_cons, List.findSome?_cons, attribute?_eq h (hnames k List.mem_cons_self),
        ih fun name hname => hnames name (List.mem_cons_of_mem _ hname)]

theorem valueAttribute?_eq (h : Alike (SameSense aliases) e e') : valueAttribute? e' = valueAttribute? e := by
  rw [valueAttribute?, valueAttribute?, attributes_eq h (by decide), attributes_eq h (by decide)]

/-- The expression and the value that two elements give are read alike. -/
def ReadsAlike (aliases : Aliases) (e e' : Element) : Prop :=
  readExpression aliases e' = readExpression aliases e ∧ readValue aliases e' = readValue aliases e

section Lists

variable {cs cs' : List Element}
variable (hcs : List.Forall₂ (fun c c' => Alike (SameSense aliases) c c' ∧ ReadsAlike aliases c c') cs cs')

include hcs

theorem readElements_eq : readElements aliases cs' = readElements aliases cs := by
  induction hcs with
  | nil => rfl
  | cons hc _ ih => rw [readElements, readElements, hc.2.1, ih]

theorem readProperties_eq : readProperties aliases cs' = readProperties aliases cs := by
  induction hcs with
  | nil => rfl
  | cons hc _ ih =>
      rw [readProperties, readProperties, look_eq hc.1, hc.1.localName, attributeD_eq hc.1 (by decide), hc.2.2, ih]

theorem readFirst_eq : readFirst aliases cs' = readFirst aliases cs := by
  induction hcs with
  | nil => rfl
  | cons hc _ ih => rw [readFirst, readFirst, hc.2.1, ih]

end Lists

theorem readsAlike (h : Alike (SameSense aliases) e e') : ReadsAlike aliases e e' := by
  refine Alike.induct (P := ReadsAlike aliases) (fun {n as as' t cs cs'} hr hcs => ?_) h
  have helement : Alike (SameSense aliases) (.mk n as t cs) (.mk n as' t cs') :=
    .mk hr (hcs.imp fun _ _ hc => hc.1)
  constructor
  · rw [readExpression, readExpression, look_eq helement, readElements_eq hcs, readProperties_eq hcs,
      reference_eq helement (by decide)]
  · rw [readValue, readValue, valueAttribute?_eq helement, readFirst_eq hcs]

theorem readAnnotated_eq (h : Alike (SameSense aliases) e e') : readAnnotated aliases e' = readAnnotated aliases e := by
  have hterm : aliases.reference e' "Term" = aliases.reference e "Term" := reference_eq h (by decide)
  have hqualifier : e'.attribute? "Qualifier" = e.attribute? "Qualifier" := attribute?_eq h (by decide)
  simp only [readAnnotated, attributeD_eq_empty_iff h, (readsAlike h).2, hterm, hqualifier]

theorem noteAnnotations_eq (h : Alike (SameSense aliases) e e') (target : String) :
    noteAnnotations aliases target e' = noteAnnotations aliases target e := by
  rw [noteAnnotations, noteAnnotations, Alignment.mapM_eq h.children]
  intro c c' hc
  rw [look_eq hc, hc.localName, readAnnotated_eq hc]

end Annotations

/-! ## Types -/

section Types

variable {ctx : Context} {e e' : Element} {space owner : String}

theorem typeReference_eq (h : Alike (SameSense ctx.aliases) e e') : ctx.typeReference e' = ctx.typeReference e := by
  rw [Context.typeReference, Context.typeReference, reference_eq h (by decide)]

theorem readProperty_eq (h : Alike (SameSense ctx.aliases) e e') :
    readProperty ctx owner e' = readProperty ctx owner e := by
  simp (disch := decide) only [readProperty, typeReference_eq h, flag_eq h, attributeD_eq h, attribute?_eq h,
    noteAnnotations_eq h]

theorem readTarget_eq (h : Alike (SameSense ctx.aliases) e e') (p : NavigationProperty) :
    readTarget ctx p e' = readTarget ctx p e := by
  simp (disch := decide) only [readTarget, ne_eq, attributeD_eq_empty_iff h, typeReference_eq h, flag_eq h,
    reference_eq h, attributeD_eq h]

theorem readNavigation_eq (h : Alike (SameSense ctx.aliases) e e') :
    readNavigation ctx owner e' = readNavigation ctx owner e := by
  simp (disch := decide) only [readNavigation, flag_eq h, attributeD_eq h, attribute?_eq h, readTarget_eq h,
    noteAnnotations_eq h]

theorem readKey_eq (h : Alike (SameSense ctx.aliases) e e') : readKey e' = readKey e := by
  have hreferences : ∀ c c', Alike (SameSense ctx.aliases) c c' →
      Reading.children ["PropertyRef"] (fun r => pure (r.attributeD "Name")) c' =
        Reading.children ["PropertyRef"] (fun r => pure (r.attributeD "Name")) c := by
    intro c c' hc
    exact children_eq hc fun r r' hr => by rw [attributeD_eq hr (by decide)]
  rw [readKey, readKey, children_eq h hreferences]

theorem readStructured_eq (h : Alike (SameSense ctx.aliases) e e') (kind : StructuredKind) :
    readStructured ctx space kind e' = readStructured ctx space kind e := by
  simp (disch := decide) only [readStructured, attributeD_eq h, flag_eq h, readKey_eq h, reference_eq h,
    children_eq h fun _ _ hc => readProperty_eq hc, children_eq h fun _ _ hc => readNavigation_eq hc,
    noteAnnotations_eq h]

theorem readMember_eq (h : Alike (SameSense ctx.aliases) e e') : readMember e' = readMember e := by
  simp (disch := decide) only [readMember, attribute?_eq h, attributeD_eq h]

/-- An enumeration does not refer to its underlying type but names it. -/
theorem readEnum_eq (h : Alike (SameSense ctx.aliases) e e') (henum : e.localName = "EnumType") :
    readEnum ctx space e' = readEnum ctx space e := by
  have hunderlying : e'.attributeD "UnderlyingType" = e.attributeD "UnderlyingType" := by
    rw [Element.attributeD, Element.attributeD, Element.attribute?, Element.attribute?, attributeIn?_eq h]
    · simp [IsReference, referenceAttributes, henum]
    · simp [IsTarget]
  simp (disch := decide) only [readEnum, attributeD_eq h, flag_eq h, children_eq h fun _ _ hc => readMember_eq hc,
    noteAnnotations_eq h, hunderlying]

theorem readDefinition_eq (h : Alike (SameSense ctx.aliases) e e') (hdefinition : e.localName = "TypeDefinition") :
    readDefinition ctx space e' = readDefinition ctx space e := by
  have hunderlying : ctx.aliases.reference e' "UnderlyingType" = ctx.aliases.reference e "UnderlyingType" :=
    reference_eq_of_isReference h ⟨rfl, .inr ⟨hdefinition, rfl⟩⟩
  simp (disch := decide) only [readDefinition, attributeD_eq h, noteAnnotations_eq h, hunderlying]

theorem readTerm_eq (h : Alike (SameSense ctx.aliases) e e') : readTerm ctx space e' = readTerm ctx space e := by
  simp (disch := decide) only [readTerm, attributeD_eq h, reference_eq h]

end Types

/-! ## Operations and containers -/

section Containers

variable {ctx : Context} {e e' : Element} {space : String}

theorem readParameters_eq (h : Alike (SameSense ctx.aliases) e e') : readParameters ctx e' = readParameters ctx e := by
  refine children_eq h fun c c' hc => ?_
  simp (disch := decide) only [readParameter, typeReference_eq hc, flag_eq hc, attributeD_eq hc]

theorem readOperation_eq (h : Alike (SameSense ctx.aliases) e e') (kind : OperationKind) :
    readOperation ctx space kind e' = readOperation ctx space kind e := by
  have hresults : Reading.children ["ReturnType"] (fun r => pure (ctx.aliases.reference r "Type")) e' =
      Reading.children ["ReturnType"] (fun r => pure (ctx.aliases.reference r "Type")) e :=
    children_eq h fun c c' hc => by rw [reference_eq hc (by decide)]
  simp (disch := decide) only [readOperation, hresults, flag_eq h, readParameters_eq h, attributeD_eq h]

theorem importMethod_eq (h : Alike (SameSense ctx.aliases) e e') : importMethod e' = importMethod e := by
  have hmethod : e'.attributeIn? methodSpace "HttpMethod" = e.attributeIn? methodSpace "HttpMethod" :=
    attributeIn?_eq h (by simp [IsReference, methodSpace]) (by simp [IsTarget, methodSpace])
  rw [importMethod, importMethod, hmethod, attribute?_eq h (by decide)]

theorem readImport_eq (h : Alike (SameSense ctx.aliases) e e') (kind : OperationKind) :
    readImport ctx space kind e' = readImport ctx space kind e := by
  have himported : readImportedOperation ctx space e' = readImportedOperation ctx space e := by
    simp (disch := decide) only [readImportedOperation, flag_eq h, readParameters_eq h, importMethod_eq h,
      attributeD_eq h, reference_eq h]
  have hattribute : importAttribute kind ∈ referenceAttributes := by cases kind <;> decide
  have htarget : ctx.aliases.qualify (e'.attributeD (importAttribute kind)) =
      ctx.aliases.qualify (e.attributeD (importAttribute kind)) := reference_eq h hattribute
  simp (disch := decide) only [readImport, ne_eq, attributeD_eq_empty_iff h, htarget, himported, attributeD_eq h,
    attribute?_eq h]

theorem readContainerMember_eq (h : Alike (SameSense ctx.aliases) e e') {container name : String}
    (hname : name ∈ referenceAttributes) :
    readContainerMember ctx container name e' = readContainerMember ctx container name e := by
  simp (disch := decide) only [readContainerMember, attributeD_eq h, reference_eq h hname, noteAnnotations_eq h]

theorem readContainerPart_eq (h : Alike (SameSense ctx.aliases) e e') (name : QualifiedName) :
    readContainerPart ctx name e' = readContainerPart ctx name e := by
  simp (disch := decide) only [readContainerPart, look_eq h, h.localName, readContainerMember_eq h, readImport_eq h]

theorem readContainer_eq (h : Alike (SameSense ctx.aliases) e e') :
    readContainer ctx space e' = readContainer ctx space e := by
  have hparts : ∀ name, e'.children.mapM (readContainerPart ctx name) = e.children.mapM (readContainerPart ctx name) :=
    fun name => Alignment.mapM_eq h.children fun _ _ hc => readContainerPart_eq hc name
  simp (disch := decide) only [readContainer, attributeD_eq h, hparts, noteAnnotations_eq h]

end Containers

/-! ## Schemas -/

section Schemas

variable {ctx : Context} {aliases : Aliases} {e e' : Element} {space : String} {es es' : List Element}

theorem readSchemaPart_eq (h : Alike (SameSense ctx.aliases) e e') :
    readSchemaPart ctx space e' = readSchemaPart ctx space e := by
  unfold readSchemaPart
  rw [h.localName]
  split
  · rw [readStructured_eq h]
  · rw [readStructured_eq h]
  · next hname => rw [readEnum_eq h hname]
  · next hname => rw [readDefinition_eq h hname]
  · rw [readOperation_eq h]
  · rw [readOperation_eq h]
  · rw [readTerm_eq h]
  · rw [readContainer_eq h]
  · next hname => rw [qualifyTarget_eq h hname, noteAnnotations_eq h]
  · rfl

theorem surveyed_rel {R : Name → List Attribute → List Attribute → Prop} (h : Alike R e e') :
    List.Forall₂ (Alike R) (surveyed e) (surveyed e') := by
  refine Alignment.flatMap_rel h.children fun c c' hc => ?_
  rw [hc.localName]
  split
  · exact .cons hc hc.children
  · exact .cons hc .nil

theorem readSchema_eq (h : Alike (SameSense ctx.aliases) e e') : readSchema ctx e' = readSchema ctx e := by
  have hinspect : Reading.inspect (surveyed e') = Reading.inspect (surveyed e) :=
    Alignment.forM_eq (surveyed_rel h) fun _ _ hc => look_eq hc
  have hparts : ∀ space, e'.children.mapM (readSchemaPart ctx space) = e.children.mapM (readSchemaPart ctx space) :=
    fun _ => Alignment.mapM_eq h.children fun _ _ hc => readSchemaPart_eq hc
  simp (disch := decide) only [readSchema, attributeD_eq h, attribute?_eq h, hinspect, hparts]

theorem schemaAssociations_eq (h : Alike (SameSense aliases) e e') :
    schemaAssociations aliases e' = schemaAssociations aliases e := by
  have hends : ∀ f f', Alike (SameSense aliases) f f' → associationEnds aliases f' = associationEnds aliases f := by
    intro f f' hf
    refine Alignment.map_eq (hf.childrenNamed _) fun x x' hx => ?_
    simp (disch := decide) only [attributeD_eq hx, attribute?_eq hx, reference_eq hx]
  refine Alignment.map_eq (h.childrenNamed _) fun f f' hf => ?_
  simp (disch := decide) only [attributeD_eq h, attribute?_eq hf, hends f f' hf]

theorem schemaAliases_eq (h : List.Forall₂ (Alike (SameSense aliases)) es es') : schemaAliases es' = schemaAliases es :=
  Alignment.filterMap_eq h fun e e' he => by simp (disch := decide) only [attributeD_eq he]

end Schemas

/-! ## Documents -/

section Documents

variable {aliases : Aliases} {root root' : Element} {o o' : Outline}

theorem inclusions_eq (h : Alike (SameSense aliases) root root') : inclusions root' = inclusions root := by
  refine Alignment.flatMap_eq (h.childrenNamed _) fun r r' hr => ?_
  exact Alignment.map_eq (hr.childrenNamed _) fun i i' hi => by simp (disch := decide) only [attributeD_eq hi]

theorem surroundings_rel {R : Name → List Attribute → List Attribute → Prop} (h : Alike R root root') :
    List.Forall₂ (Alike R) (surroundings root) (surroundings root') := by
  rw [surroundings, surroundings, h.localName]
  refine .cons h ?_
  split
  · refine List.rel_append (Alignment.flatMap_rel h.children fun c c' hc => ?_)
      (Alignment.flatMap_rel (h.childrenNamed _) fun d d' hd => hd.children)
    rw [hc.localName]
    split
    · exact .cons hc hc.children
    · exact .cons hc .nil
  · exact .nil

/-- Two documents have the same version and inclusions, and schemas that read alike. -/
structure Outline.AlikeTo (aliases : Aliases) (o o' : Outline) : Prop where
  version : o'.version = o.version
  included : o'.included = o.included
  schemas : List.Forall₂ (Alike (SameSense aliases)) o.schemas o'.schemas

/-- Documents that are alike have outlines that are alike, or none for the same reason. -/
theorem outline_rel (h : Alike (SameSense aliases) root root') :
    (∃ m, outline root = .error m ∧ outline root' = .error m) ∨
      ∃ o o', outline root = .ok o ∧ outline root' = .ok o' ∧ o.AlikeTo aliases o' := by
  have hstray : ((surroundings root').findSome? fun e => e.name.stray?) =
      (surroundings root).findSome? fun e => e.name.stray? :=
    Alignment.findSome?_eq (surroundings_rel h) fun _ _ he => by rw [he.name]
  unfold outline
  rw [hstray, h.localName, h.name, inclusions_eq h]
  cases (surroundings root).findSome? fun e => e.name.stray? with
  | some text => exact .inl ⟨_, rfl, rfl⟩
  | none =>
      dsimp only [pure_bind]
      split
      · refine .inr ⟨_, _, rfl, rfl, rfl, rfl, ?_⟩
        exact Alignment.flatMap_rel (h.childrenNamed _) fun d d' hd => hd.childrenNamed _
      · exact .inr ⟨_, _, rfl, rfl, rfl, rfl, .cons h .nil⟩
      · exact .inl ⟨_, rfl, rfl⟩

theorem context_eq (h : o.AlikeTo o.context.aliases o') : o'.context = o.context := by
  have haliases : includedAliases o'.included ++ schemaAliases o'.schemas = o.context.aliases := by
    rw [h.included, schemaAliases_eq h.schemas]
    rfl
  have hassociations : o'.schemas.flatMap (schemaAssociations o.context.aliases) =
      o.schemas.flatMap (schemaAssociations o.context.aliases) :=
    Alignment.flatMap_eq h.schemas fun _ _ hs => schemaAssociations_eq hs
  rw [Outline.context, haliases, hassociations]
  rfl

/-- Documents that are alike under their own aliases give the same graph or the same fault. -/
theorem readRoot_eq_of_alike (haliases : ∀ o, outline root = .ok o → o.context.aliases = aliases)
    (h : Alike (SameSense aliases) root root') : readRoot root' = readRoot root := by
  rcases outline_rel h with ⟨m, hm, hm'⟩ | ⟨o, o', ho, ho', halike⟩
  · rw [readRoot, readRoot, hm, hm']
  · obtain rfl := haliases o ho
    have hschemas : o'.schemas.mapM (readSchema o.context) = o.schemas.mapM (readSchema o.context) :=
      Alignment.mapM_eq halike.schemas fun _ _ hs => readSchema_eq hs
    have hgraph : o'.graph = o.graph := by
      funext schemas notes
      rw [Outline.graph, Outline.graph, halike.version, halike.included]
    rw [readRoot_of_outline ho, readRoot_of_outline ho', context_eq halike, hschemas, hgraph]

end Documents

end EntityModel.Csdl
