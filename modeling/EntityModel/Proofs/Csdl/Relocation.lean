import EntityModel.Proofs.Csdl.Alias
import EntityModel.Proofs.Csdl.Insertion
import EntityModel.Proofs.Csdl.Pruning

/-!
# Annotations in blocks

An element may be annotated where it stands, or in a block of annotations with its path as target. The path is made of
a namespace and names while the element is read, and it is written in a block, where an alias may stand in front
(`Place.qualifyTarget_path`). A document with annotations at a place and one with the same annotations in a block
are both compared with the document without them: each does what that one does, and notes the annotations in between
(`addsNotes_of_bares`, `addsNotes_of_blocks`). So both are read alike, and what is recorded for a target is the same
(`readRoot_of_relocated`).
-/

namespace EntityModel.Csdl

open Xml (Name Attribute Element)
open Edm
open Reading (Inserts inserts_bind inserts_mapM inserts_parts inserts_of_ensures ensures_bind look_eq_pure
  look_eq_of_name inspect_eq_of_names inspect_append_cons)

/-! ## Places -/

/-- Where something that can be annotated is declared: by a name in a namespace, or as a member of what has the name. -/
structure Place where
  space : String
  name : String
  /-- The name of the member, if it is one. -/
  member : Option String

namespace Place

/-- The target path of a place. -/
def path (p : Place) : String :=
  p.space ++ "." ++ p.name ++ (match p.member with
    | none => ""
    | some member => "/" ++ member)

/-- Neither the namespace nor the name has a slash, a parenthesis or a blank. -/
def IsPlain (p : Place) : Prop :=
  ∀ c ∈ p.space.toList ++ p.name.toList, c ≠ '/' ∧ c ≠ '(' ∧ c ≠ ')' ∧ Text.isBlank c = false

instance : DecidablePred IsPlain := fun p => List.decidableBAll _ (p.space.toList ++ p.name.toList)

theorem path_own (space name : String) : path ⟨space, name, none⟩ = space ++ "." ++ name := String.append_empty

theorem path_member (space name member : String) :
    path ⟨space, name, some member⟩ = space ++ "." ++ name ++ "/" ++ member := (String.append_assoc ..).symm

variable {p : Place} {aliases : Aliases}

/-- A path is not changed by aliases that leave its namespace alone. -/
theorem qualifyTarget_path (hp : p.IsPlain) (h : aliases.Spares p.space) :
    aliases.qualifyTarget p.path = p.path := by
  have hplain : ∀ c ∈ (p.space ++ "." ++ p.name).toList, c ≠ '/' ∧ c ≠ '(' ∧ c ≠ ')' ∧ Text.isBlank c = false := by
    intro c hc
    rw [toList_dotted, List.mem_append, List.mem_cons] at hc
    rcases hc with hc | rfl | hc
    · exact hp c (List.mem_append_left _ hc)
    · decide
    · exact hp c (List.mem_append_right _ hc)
  have htrim : Text.trim (p.space ++ "." ++ p.name) = p.space ++ "." ++ p.name :=
    Text.trim_eq_self (fun c hc => (hplain c (List.mem_of_mem_head? hc)).2.2.2)
      fun c hc => (hplain c (List.mem_of_getLast? hc)).2.2.2
  have hinner : TypeReference.inner? (p.space ++ "." ++ p.name).toList = none := by
    rw [TypeReference.inner?, if_neg]
    intro hcollection
    rw [Bool.and_eq_true, beq_iff_eq] at hcollection
    exact (hplain ')' (List.mem_of_getLast? hcollection.2)).2.2.1 rfl
  have hspells : Spells p.space p.name false (p.space ++ "." ++ p.name) := by
    rw [Spells, TypeReference.ofText, htrim, hinner]
  rw [path, Aliases.qualifyTarget_append (fun hc => (hplain '/' hc).1 rfl), Aliases.qualify_of_spells hspells,
    Aliases.standsFor_eq_self_iff.2 h]
  · rfl
  · intro c hc
    cases hmember : p.member with
    | none => simp [hmember] at hc
    | some member => simpa [hmember] using hc.symm

end Place

/-! ## Trees -/

/-- Two elements are the same but for one child element. -/
inductive DifferInOne (R : Element → Element → Prop) : Element → Element → Prop
  | mk (n : Name) (as : List Attribute) (t : String) (before after : List Element) {c c' : Element} (h : R c c') :
      DifferInOne R (.mk n as t (before ++ c :: after)) (.mk n as t (before ++ c' :: after))

/-- The names of the elements of a schema that can be annotated where they stand, each with the names of those of their
child elements that can be annotated, too. -/
def annotatable : List (String × List String) :=
  [("EntityType", ["Property", "NavigationProperty"]), ("ComplexType", ["Property", "NavigationProperty"]),
   ("EnumType", []), ("TypeDefinition", []), ("EntityContainer", ["EntitySet", "Singleton"])]

/-- An element of a schema loses the annotations at a place: its own ones, or those of a child element. -/
inductive Bares (space : String) : Place → List Element → Element → Element → Prop
  | own {e : Element} (h : e.localName ∈ annotatable.map (·.1)) :
      Bares space ⟨space, e.attributeD "Name", none⟩ (e.childrenNamed annotationElements) e (bared e)
  | member {n : Name} {as : List Attribute} {t : String} {before after : List Element} {c : Element}
      {names : List String} (h : (n.localName, names) ∈ annotatable) (hc : c.localName ∈ names) :
      Bares space
        ⟨space, (Element.mk n as t (before ++ c :: after)).attributeD "Name", some (c.attributeD "Name")⟩
        (c.childrenNamed annotationElements)
        (.mk n as t (before ++ c :: after)) (.mk n as t (before ++ bared c :: after))

/-- A schema loses the annotations at a place. -/
def BaresIn (p : Place) (annotations : List Element) (s s' : Element) : Prop :=
  DifferInOne (Bares (s.attributeD "Namespace") p annotations) s s'

/-- A schema gets annotations in a block with a target. -/
inductive Blocks (target : String) (annotations : List Element) : Element → Element → Prop
  /-- The block is a new one. -/
  | added (n : Name) (as : List Attribute) (t : String) (before after : List Element) {b : Element}
      (hname : b.localName = "Annotations") (hstray : b.name.stray? = none) (htarget : b.attributeD "Target" = target)
      (hchildren : b.children = annotations) :
      Blocks target annotations (.mk n as t (before ++ after)) (.mk n as t (before ++ b :: after))
  /-- The block has been there without annotations. -/
  | filled (n : Name) (as : List Attribute) (t : String) (before after : List Element) {b : Element}
      (hname : b.localName = "Annotations") (htarget : b.attributeD "Target" = target)
      (hchildren : b.childrenNamed annotationElements = annotations) :
      Blocks target annotations (.mk n as t (before ++ bared b :: after)) (.mk n as t (before ++ b :: after))

/-- Two documents are the same but for one schema. -/
inductive DifferInSchema (R : Element → Element → Prop) : Element → Element → Prop
  /-- The document is a schema. -/
  | alone {s s' : Element} (hname : s.localName = "Schema") (h : R s s') : DifferInSchema R s s'
  /-- The schema stands in a package. -/
  | packed {root root' : Element} (hname : root.localName = "Edmx")
      (h : DifferInOne (fun d d' => d.localName = "DataServices" ∧
        DifferInOne (fun s s' => s.localName = "Schema" ∧ R s s') d d') root root') : DifferInSchema R root root'

/-! ## Readers -/

section Children

variable {n : Name} {as : List Attribute} {t : String} {before after : List Element} {c : Element} {names : List String}

theorem childrenNamed_of_mem (h : c.localName ∈ names) :
    (Element.mk n as t (before ++ c :: after)).childrenNamed names =
      (Element.mk n as t before).childrenNamed names ++ c :: (Element.mk n as t after).childrenNamed names := by
  simp [Element.childrenNamed, Element.children, h]

theorem childrenNamed_of_not_mem (h : c.localName ∉ names) :
    (Element.mk n as t (before ++ c :: after)).childrenNamed names =
      (Element.mk n as t (before ++ after)).childrenNamed names := by
  simp [Element.childrenNamed, Element.children, h]

/-- The grandchildren before and behind one of them. -/
theorem flatMap_childrenNamed_of_mem {n' : Name} {as' : List Attribute} {t' : String} {before' after' : List Element}
    {words : List String} (hd : n'.localName ∈ names) (hc : c.localName ∈ words) :
    ((Element.mk n as t (before ++ .mk n' as' t' (before' ++ c :: after') :: after)).childrenNamed names).flatMap
        (fun d => d.childrenNamed words) =
      (((Element.mk n as t before).childrenNamed names).flatMap (fun d => d.childrenNamed words) ++
          (Element.mk n' as' t' before').childrenNamed words) ++
        c :: ((Element.mk n' as' t' after').childrenNamed words ++
          ((Element.mk n as t after).childrenNamed names).flatMap fun d => d.childrenNamed words) := by
  rw [childrenNamed_of_mem (c := .mk n' as' t' (before' ++ c :: after')) hd, List.flatMap_append, List.flatMap_cons,
    childrenNamed_of_mem hc]
  simp only [List.append_assoc, List.cons_append]

end Children

section Readers

variable {ctx : Context} {aliases : Aliases} {owner space target : String} {e b c : Element} {names : List String}
variable {n : Name} {as : List Attribute} {t : String} {before after : List Element} {α : Type}

theorem name_bared : (bared e).name = e.name := by
  cases e
  rfl

theorem localName_bared : (bared e).localName = e.localName := by
  cases e
  rfl

theorem attributeD_bared (name : String) : (bared e).attributeD name = e.attributeD name := by
  cases e
  rfl

theorem look_bared : Reading.look (bared e) = Reading.look e := look_eq_of_name name_bared

/-- Whoever notes annotations has looked at them. -/
theorem noteAnnotations_bind_ensures {k : Unit → Reading α} (hb : b.children = e.childrenNamed annotationElements) :
    (noteAnnotations aliases target e >>= k).Ensures fun _ => ∀ c ∈ b.children, c.name.stray? = none := by
  refine noteAnnotations_ensures.bind fun _ hall a _ c hc => ?_
  rw [hb] at hc
  exact hall c (mem_childrenNamed.1 hc).1

/-- Where nothing strays, annotations are skipped. -/
theorem readChildren_bared (names : List String) {read : Element → Reading α}
    (hnames : ∀ name ∈ names, name ∉ annotationElements)
    (h : ∀ c ∈ e.childrenNamed annotationElements, c.name.stray? = none) :
    Reading.children names read (bared e) = Reading.children names read e := by
  rw [Reading.children, Reading.children, children_bared]
  refine Reading.bind_mapM_filter (k := pure) fun c hc hp => ?_
  have hname : c.localName ∈ annotationElements := by simpa using hp
  have hother : names.contains c.localName = false := by
    rw [← Bool.not_eq_true, List.contains_iff_mem]
    exact fun hmem => hnames _ hmem hname
  rw [look_eq_pure (h c (mem_childrenNamed.2 ⟨hc, hname⟩)), hother]
  rfl

theorem readKey_bared (h : ∀ c ∈ e.childrenNamed annotationElements, c.name.stray? = none) :
    readKey (bared e) = readKey e := by
  rw [readKey, readChildren_bared _ (by decide) h, readKey]

theorem inserts_readProperty (hb : b.children = e.childrenNamed annotationElements) :
    Inserts (noteAnnotations ctx.aliases (owner ++ "/" ++ e.attributeD "Name") b) (readProperty ctx owner (bared e))
      (readProperty ctx owner e) := by
  obtain ⟨n, as, t, cs⟩ := e
  exact inserts_bind fun _ => (inserts_noteAnnotations hb).bind

theorem inserts_readNavigation (hb : b.children = e.childrenNamed annotationElements) :
    Inserts (noteAnnotations ctx.aliases (owner ++ "/" ++ e.attributeD "Name") b) (readNavigation ctx owner (bared e))
      (readNavigation ctx owner e) := by
  obtain ⟨n, as, t, cs⟩ := e
  exact inserts_bind fun _ => inserts_bind fun _ => (inserts_noteAnnotations hb).bind

theorem inserts_readContainerMember {container attr : String} (hb : b.children = e.childrenNamed annotationElements) :
    Inserts (noteAnnotations ctx.aliases (container ++ "/" ++ e.attributeD "Name") b)
      (readContainerMember ctx container attr (bared e)) (readContainerMember ctx container attr e) := by
  obtain ⟨n, as, t, cs⟩ := e
  exact (inserts_noteAnnotations hb).bind

theorem inserts_readDefinition (hb : b.children = e.childrenNamed annotationElements) :
    Inserts (noteAnnotations ctx.aliases (space ++ "." ++ e.attributeD "Name") b) (readDefinition ctx space (bared e))
      (readDefinition ctx space e) := by
  obtain ⟨n, as, t, cs⟩ := e
  exact (inserts_noteAnnotations hb).bind

theorem inserts_readStructured (kind : StructuredKind) (hb : b.children = e.childrenNamed annotationElements) :
    Inserts (noteAnnotations ctx.aliases (space ++ "." ++ e.attributeD "Name") b)
      (readStructured ctx space kind (bared e)) (readStructured ctx space kind e) := by
  -- The other readers look at annotations too, so these are skipped only where their names do not stray.
  refine inserts_of_ensures noteAnnotations_ensures ?_ fun hnames => ?_
  · exact ensures_bind fun _ => ensures_bind fun _ => ensures_bind fun _ => ensures_bind fun _ => ensures_bind fun _ =>
      ensures_bind fun _ => noteAnnotations_bind_ensures hb
  · rw [hb] at hnames
    simp only [readStructured, readKey_bared hnames, readChildren_bared ["Property"] (by decide) hnames,
      readChildren_bared ["NavigationProperty"] (by decide) hnames]
    obtain ⟨n, as, t, cs⟩ := e
    exact inserts_bind fun _ => inserts_bind fun _ => inserts_bind fun _ => inserts_bind fun _ => inserts_bind fun _ =>
      inserts_bind fun _ => (inserts_noteAnnotations hb).bind

theorem inserts_readEnum (hb : b.children = e.childrenNamed annotationElements) :
    Inserts (noteAnnotations ctx.aliases (space ++ "." ++ e.attributeD "Name") b)
      (readEnum ctx space (bared e)) (readEnum ctx space e) := by
  refine inserts_of_ensures noteAnnotations_ensures ?_ fun hnames => ?_
  · exact ensures_bind fun _ => ensures_bind fun _ => noteAnnotations_bind_ensures hb
  · rw [hb] at hnames
    simp only [readEnum, readChildren_bared ["Member"] (by decide) hnames]
    obtain ⟨n, as, t, cs⟩ := e
    exact inserts_bind fun _ => inserts_bind fun _ => (inserts_noteAnnotations hb).bind

theorem inserts_readContainer (hb : b.children = e.childrenNamed annotationElements) :
    Inserts (noteAnnotations ctx.aliases (space ++ "." ++ e.attributeD "Name") b)
      (readContainer ctx space (bared e)) (readContainer ctx space e) := by
  refine inserts_of_ensures noteAnnotations_ensures ?_ fun hnames => ?_
  · exact ensures_bind fun _ => noteAnnotations_bind_ensures hb
  · obtain ⟨n, as, t, cs⟩ := e
    let name : QualifiedName := ⟨space, Element.attributeD (.mk n as t cs) "Name"⟩
    let rest (e : Element) (parts : List ContainerPart) : Reading (Container × List Operation) := do
      noteAnnotations ctx.aliases name.dotted e
      return (containerOfParts name parts, parts.filterMap (·.declared?))
    have hskipped : ∀ c ∈ cs, (!annotationElements.contains c.localName) = false →
        readContainerPart ctx name c = pure none := by
      intro c hc hp
      have hname : c.localName ∈ annotationElements := by simpa using hp
      rw [readContainerPart_of_isNote name (by simpa [isNote, noteElements] using .inr hname),
        look_eq_pure (hnames c (hb ▸ mem_childrenNamed.2 ⟨hc, hname⟩))]
      rfl
    exact Reading.inserts_filter (rest (bared (.mk n as t cs))) (rest (.mk n as t cs)) hskipped fun _ =>
      (inserts_noteAnnotations hb).bind

/-! ### Members -/

/-- What looks at the name of a child element only reads the same without the annotations of the child. -/
theorem mapM_bared {f : Element → Reading α} (h : f (bared c) = f c) :
    (before ++ bared c :: after).mapM f = (before ++ c :: after).mapM f := by
  simp only [List.mapM_append, List.mapM_cons, h]

theorem readChildren_of_member {read : Element → Reading α} (hc : c.localName ∉ names) :
    Reading.children names read (.mk n as t (before ++ bared c :: after)) =
      Reading.children names read (.mk n as t (before ++ c :: after)) := by
  rw [Reading.children, Reading.children]
  refine congrArg (· >>= _) (mapM_bared ?_)
  simp only [look_bared, localName_bared, List.contains_iff_mem, hc, if_false]

theorem inserts_readChildren {w : Reading Unit} {read : Element → Reading α} (hc : c.localName ∈ names)
    (h : Inserts w (read (bared c)) (read c)) :
    Inserts w (Reading.children names read (.mk n as t (before ++ bared c :: after)))
      (Reading.children names read (.mk n as t (before ++ c :: after))) := by
  rw [Reading.children, Reading.children]
  refine (inserts_mapM ?_).bind
  simp only [look_bared, localName_bared, List.contains_iff_mem, hc, if_true]
  exact inserts_bind fun _ => h.map some

theorem noteAnnotations_of_member (hc : c.localName ∉ annotationElements) :
    noteAnnotations aliases target (.mk n as t (before ++ bared c :: after)) =
      noteAnnotations aliases target (.mk n as t (before ++ c :: after)) := by
  rw [noteAnnotations, noteAnnotations]
  refine congrArg discard (mapM_bared ?_)
  simp only [look_bared, localName_bared, List.contains_iff_mem, hc, if_false]

theorem inserts_readStructured_of_member (kind : StructuredKind) (hb : b.children = c.childrenNamed annotationElements)
    (hc : c.localName ∈ ["Property", "NavigationProperty"]) :
    Inserts
      (noteAnnotations ctx.aliases
        (space ++ "." ++ (Element.mk n as t (before ++ c :: after)).attributeD "Name" ++ "/" ++ c.attributeD "Name") b)
      (readStructured ctx space kind (.mk n as t (before ++ bared c :: after)))
      (readStructured ctx space kind (.mk n as t (before ++ c :: after))) := by
  have hnames : ∀ names : List String, "Property" ∉ names → "NavigationProperty" ∉ names → c.localName ∉ names := by
    intro names hp hn
    rcases List.mem_pair.1 hc with h | h <;> rwa [h]
  have hkey : readKey (.mk n as t (before ++ bared c :: after)) = readKey (.mk n as t (before ++ c :: after)) := by
    rw [readKey, readChildren_of_member (hnames _ (by decide) (by decide)), readKey]
  have hnote := hnames annotationElements (by decide) (by decide)
  rcases List.mem_pair.1 hc with h | h
  · have hother : c.localName ∉ ["NavigationProperty"] := by rw [h]; decide
    simp only [readStructured, hkey, readChildren_of_member hother, noteAnnotations_of_member hnote]
    exact inserts_bind fun _ => inserts_bind fun _ => inserts_bind fun _ => inserts_bind fun _ =>
      (inserts_readChildren (by simp [h]) (inserts_readProperty hb)).bind
  · have hother : c.localName ∉ ["Property"] := by rw [h]; decide
    simp only [readStructured, hkey, readChildren_of_member hother, noteAnnotations_of_member hnote]
    exact inserts_bind fun _ => inserts_bind fun _ => inserts_bind fun _ => inserts_bind fun _ =>
      inserts_bind fun _ => (inserts_readChildren (by simp [h]) (inserts_readNavigation hb)).bind

theorem inserts_readContainer_of_member (hb : b.children = c.childrenNamed annotationElements)
    (hc : c.localName ∈ ["EntitySet", "Singleton"]) :
    Inserts
      (noteAnnotations ctx.aliases
        (space ++ "." ++ (Element.mk n as t (before ++ c :: after)).attributeD "Name" ++ "/" ++ c.attributeD "Name") b)
      (readContainer ctx space (.mk n as t (before ++ bared c :: after)))
      (readContainer ctx space (.mk n as t (before ++ c :: after))) := by
  have hnote : c.localName ∉ annotationElements := by
    rcases List.mem_pair.1 hc with h | h <;> rw [h] <;> decide
  simp only [readContainer, noteAnnotations_of_member hnote]
  refine (inserts_mapM ?_).bind
  rw [readContainerPart, readContainerPart, look_bared, localName_bared]
  refine inserts_bind fun _ => ?_
  rcases List.mem_pair.1 hc with h | h
  · simp only [h]
    exact (inserts_readContainerMember hb).map _
  · simp only [h]
    exact (inserts_readContainerMember hb).map _

/-- An element of a schema is read with the annotations at a place in between. -/
theorem inserts_readSchemaPart {p : Place} {annotations : List Element} {e e' : Element}
    (h : Bares space p annotations e e') (hb : b.children = annotations) :
    Inserts (noteAnnotations ctx.aliases p.path b) (readSchemaPart ctx space e') (readSchemaPart ctx space e) := by
  cases h with
  | own h =>
      rw [readSchemaPart, readSchemaPart, localName_bared, Place.path_own]
      simp only [annotatable, List.map_cons, List.map_nil, List.mem_cons, List.not_mem_nil, or_false] at h
      rcases h with h | h | h | h | h <;> simp only [h]
      · exact (inserts_readStructured _ hb).map _
      · exact (inserts_readStructured _ hb).map _
      · exact (inserts_readEnum hb).map _
      · exact (inserts_readDefinition hb).map _
      · exact (inserts_readContainer hb).map _
  | @member n as t before after c names h hc =>
      have hname : ∀ cs, (Element.mk n as t cs).localName = n.localName := fun _ => rfl
      rw [readSchemaPart, readSchemaPart, hname, hname, Place.path_member]
      simp only [annotatable, List.mem_cons, Prod.mk.injEq, List.not_mem_nil, or_false] at h
      rcases h with ⟨h, rfl⟩ | ⟨h, rfl⟩ | ⟨-, rfl⟩ | ⟨-, rfl⟩ | ⟨h, rfl⟩
      · simp only [h]
        exact (inserts_readStructured_of_member _ hb hc).map _
      · simp only [h]
        exact (inserts_readStructured_of_member _ hb hc).map _
      · cases hc
      · cases hc
      · simp only [h]
        exact (inserts_readContainer_of_member hb hc).map _

end Readers

/-! ## Schemas -/

section Schemas

variable {ctx : Context} {p : Place} {annotations : List Element} {s s' b : Element} {target : String}

theorem Bares.name {space : String} {e e' : Element} (h : Bares space p annotations e e') : e'.name = e.name := by
  cases h with
  | own h => exact name_bared
  | member h hc => rfl

theorem Bares.localName {space : String} {e e' : Element} (h : Bares space p annotations e e') :
    e'.localName = e.localName := congrArg Name.localName h.name

theorem Bares.ne_association {space : String} {e e' : Element} (h : Bares space p annotations e e') :
    e.localName ≠ "Association" := by
  have hother : "Association" ∉ annotatable.map (·.1) := by decide
  cases h with
  | own h => exact fun hname => hother (hname ▸ h)
  | member h hc => exact fun hname => hother (hname ▸ List.mem_map_of_mem h)

/-- Two schemas differ in parts only: neither in their attributes nor in their associations. -/
structure SameFrame (s s' : Element) : Prop where
  name : s'.name = s.name
  attributes : s'.attributes = s.attributes
  associations : s'.childrenNamed ["Association"] = s.childrenNamed ["Association"]

theorem BaresIn.sameFrame (h : BaresIn p annotations s s') : SameFrame s s' := by
  obtain ⟨n, as, t, before, after, h⟩ := h
  have hname := h.ne_association
  refine ⟨rfl, rfl, ?_⟩
  rw [childrenNamed_of_not_mem (by simpa [h.localName] using hname), childrenNamed_of_not_mem (by simpa using hname)]

theorem Blocks.sameFrame (h : Blocks target annotations s s') : SameFrame s s' := by
  cases h with
  | added n as t before after hname => exact ⟨rfl, rfl, childrenNamed_of_not_mem (by simp [hname])⟩
  | filled n as t before after hname =>
      refine ⟨rfl, rfl, ?_⟩
      rw [childrenNamed_of_not_mem (by simp [hname]), childrenNamed_of_not_mem (by simp [localName_bared, hname])]

theorem SameFrame.symm (h : SameFrame s s') : SameFrame s' s := ⟨h.name.symm, h.attributes.symm, h.associations.symm⟩

theorem SameFrame.attribute? (h : SameFrame s s') (name : String) : s'.attribute? name = s.attribute? name := by
  rw [Element.attribute?, Element.attributeIn?, h.attributes]
  rfl

theorem SameFrame.attributeD (h : SameFrame s s') (name : String) : s'.attributeD name = s.attributeD name := by
  rw [Element.attributeD, h.attribute?, Element.attributeD]

theorem SameFrame.inserts {w : Reading Unit} (h : SameFrame s s')
    (hnames : Reading.inspect (surveyed s') = Reading.inspect (surveyed s))
    (hparts : ∀ k : List SchemaPart → Schema, Inserts w
      (s.children.mapM (readSchemaPart ctx (s.attributeD "Namespace")) >>=
        fun parts => pure (k (parts.filterMap id)))
      (s'.children.mapM (readSchemaPart ctx (s.attributeD "Namespace")) >>=
        fun parts => pure (k (parts.filterMap id)))) :
    Inserts w (readSchema ctx s) (readSchema ctx s') := by
  simp only [readSchema, h.attributeD, h.attribute?, hnames]
  split
  · exact Reading.inserts_fault _
  · exact inserts_bind fun _ => hparts _

/-- A schema is read with the annotations at a place in between. -/
theorem BaresIn.inserts (h : BaresIn p annotations s s') (hb : b.children = annotations) :
    Inserts (noteAnnotations ctx.aliases p.path b) (readSchema ctx s') (readSchema ctx s) := by
  have hframe := h.sameFrame.symm
  obtain ⟨n, as, t, before, after, h⟩ := h
  refine hframe.inserts (inspect_eq_of_names ?_) fun k => (inserts_mapM (inserts_readSchemaPart h hb)).bind
  simp [surveyed, Element.children, h.name, h.localName, h.ne_association]

/-- A schema with a block is read with its annotations in between. -/
theorem Blocks.inserts (h : Blocks target annotations s s') (hqualified : ctx.aliases.qualifyTarget target = target)
    (hb : b.children = annotations) :
    Inserts (noteAnnotations ctx.aliases target b) (readSchema ctx s) (readSchema ctx s') := by
  have hframe := h.sameFrame
  cases h with
  | added n as t before after hname hstray htarget hchildren =>
      refine hframe.inserts ?_ fun k => inserts_parts (k := fun parts => pure (k parts)) ?_
      · simp only [surveyed, Element.children, List.flatMap_append, List.flatMap_cons, hname, String.reduceEq, if_false,
          List.cons_append, List.nil_append]
        exact inspect_append_cons hstray
      · simp only [readSchemaPart, hname]
        rw [htarget, hqualified, noteAnnotations_of_children (hchildren.trans hb.symm)]
  | filled n as t before after hname htarget hchildren =>
      refine hframe.inserts (inspect_eq_of_names ?_) fun k => (inserts_mapM ?_).bind
      · simp [surveyed, Element.children, name_bared, localName_bared, hname]
      · simp only [readSchemaPart, localName_bared, attributeD_bared, hname]
        rw [htarget, hqualified]
        exact (inserts_noteAnnotations (hb.trans hchildren.symm)).bind

theorem SameFrame.schemaAssociations (h : SameFrame s s') (aliases : Aliases) :
    schemaAssociations aliases s' = schemaAssociations aliases s := by
  rw [Csdl.schemaAssociations, h.associations, h.attributeD, Csdl.schemaAssociations]

end Schemas

/-! ## Documents -/

section Documents

variable {R : Element → Element → Prop} {root root' s s' : Element} {before after : List Element} {o : Outline}

theorem surroundings_of_schema (h : root.localName = "Schema") : surroundings root = [root] := by
  simp [surroundings, h]

/-- Around the schemas the names are the same. -/
theorem DifferInSchema.names (h : DifferInSchema R root root') (hR : ∀ s s', R s s' → SameFrame s s') :
    (surroundings root').map (·.name) = (surroundings root).map (·.name) := by
  cases h with
  | alone hname h =>
      have hsame := (hR _ _ h).name
      have hname' : root'.localName = "Schema" := (congrArg Name.localName hsame).trans hname
      rw [surroundings_of_schema hname, surroundings_of_schema hname', List.map_singleton, List.map_singleton, hsame]
  | packed hname h =>
      obtain ⟨n, as, t, before, after, hdname, hd⟩ := h
      obtain ⟨n', as', t', before', after', hsname, hs⟩ := hd
      have hsame := (hR _ _ hs).name
      have hroot : ∀ cs, (Element.mk n as t cs).localName = "Edmx" := fun _ => hname
      have hservices : ∀ cs, (Element.mk n' as' t' cs).localName = "DataServices" := fun _ => hdname
      have hkept : ∀ (n : Name) as t cs, (Element.mk n as t cs).name = n := fun _ _ _ _ => rfl
      simp [surroundings, Element.childrenNamed, Element.children, hroot, hservices, hkept, hsame]

/-- One schema is another one, and nothing else. -/
theorem DifferInSchema.outline (h : DifferInSchema R root root') (hR : ∀ s s', R s s' → SameFrame s s') :
    (∃ f, Csdl.outline root = .error f ∧ Csdl.outline root' = .error f) ∨
      ∃ o before s s' after, R s s' ∧ o.schemas = before ++ s :: after ∧ Csdl.outline root = .ok o ∧
        Csdl.outline root' = .ok { o with schemas := before ++ s' :: after } := by
  have hstrays : (surroundings root').findSome? (fun e => e.name.stray?) =
      (surroundings root).findSome? fun e => e.name.stray? := by
    have hnames : ∀ es : List Element,
        es.findSome? (fun e => e.name.stray?) = (es.map (·.name)).findSome? Name.stray? := by
      intro es
      rw [List.findSome?_map]
      rfl
    rw [hnames, hnames, h.names hR]
  cases hfound : (surroundings root).findSome? fun e => e.name.stray? with
  | some text => exact .inl ⟨_, outline_of_strays hfound, outline_of_strays (hstrays.trans hfound)⟩
  | none =>
      right
      rw [hfound] at hstrays
      cases h with
      | alone hname h =>
          have hsame := (hR _ _ h).name
          have hname' : root'.localName = "Schema" := (congrArg Name.localName hsame).trans hname
          refine ⟨_, [], _, _, [], h, rfl, outline_schema hname hfound, ?_⟩
          rw [outline_schema hname' hstrays, hsame]
          rfl
      | packed hname h =>
          obtain ⟨n, as, t, before, after, hdname, hd⟩ := h
          obtain ⟨n', as', t', before', after', hsname, hs⟩ := hd
          have hsname' := (congrArg Name.localName (hR _ _ hs).name).trans hsname
          have hroot : ∀ cs, (Element.mk n as t cs).localName = "Edmx" := fun _ => hname
          have hservices : n'.localName ∈ ["DataServices"] := List.mem_singleton.2 hdname
          have hother : ∀ cs, (Element.mk n' as' t' cs).localName ∉ ["Reference"] := by
            intro cs hcs
            exact absurd ((List.mem_singleton.1 hcs).symm.trans hdname) (by decide)
          refine ⟨_, _, _, _, _, hs, flatMap_childrenNamed_of_mem hservices (List.mem_singleton.2 hsname),
            outline_package hname hfound, ?_⟩
          rw [outline_package (hroot _) hstrays,
            flatMap_childrenNamed_of_mem hservices (List.mem_singleton.2 hsname'), inclusions, inclusions,
            childrenNamed_of_not_mem (hother _), childrenNamed_of_not_mem (hother _)]
          rfl

theorem SameFrame.context (h : SameFrame s s') (ho : o.schemas = before ++ s :: after) :
    Outline.context { o with schemas := before ++ s' :: after } = o.context := by
  have haliases : schemaAliases (before ++ s' :: after) = schemaAliases (before ++ s :: after) := by
    simp [schemaAliases, List.filterMap_cons, h.attributeD]
  simp only [Outline.context, ho, haliases, List.flatMap_append, List.flatMap_cons, h.schemaAssociations]

theorem DifferInSchema.outline_eq_error_iff {f : Mishap MetadataFault} (h : DifferInSchema R root root')
    (hR : ∀ s s', R s s' → SameFrame s s') : Csdl.outline root = .error f ↔ Csdl.outline root' = .error f := by
  rcases h.outline hR with ⟨f', hroot, hroot'⟩ | ⟨o, before, s, s', after, -, -, hroot, hroot'⟩
  · rw [hroot, hroot']
  · rw [hroot, hroot']
    exact iff_of_false nofun nofun

theorem DifferInSchema.exists_outline {o' : Outline} (h : DifferInSchema R root root')
    (hR : ∀ s s', R s s' → SameFrame s s') (ho' : Csdl.outline root' = .ok o') :
    ∃ o, Csdl.outline root = .ok o ∧ o'.context = o.context := by
  rcases h.outline hR with ⟨f, -, hf⟩ | ⟨o, before, s, s', after, hs, hschemas, hroot, hroot'⟩
  · cases ho'.symm.trans hf
  · obtain rfl := Except.ok.inj (ho'.symm.trans hroot')
    exact ⟨o, hroot, (hR _ _ hs).context hschemas⟩

theorem not_exists_readRoot {f : Mishap MetadataFault} (h : outline root = .error f) :
    ¬ ∃ g, readRoot root = .ok g := by
  rintro ⟨g, hg⟩
  obtain ⟨o, ho, -⟩ := bind_eq_ok_iff.1 hg
  cases ho.symm.trans h

end Documents

/-! ## Graphs -/

/-- A document is read like another one with some more annotations, which are noted in one place. -/
structure AddsNotes (w : Reading Unit) (root root' : Element) : Prop where
  graph : ∀ g', readRoot root' = .ok g' → ∃ g before more after, readRoot root = .ok g ∧
    w.outcome = .ok ((), more) ∧ g.annotations = before ++ after ∧
    g' = { g with annotations := before ++ more.filterMap Note.annotated? ++ after }
  exists_graph : ∀ g, readRoot root = .ok g → w.Gives () → ∃ g', readRoot root' = .ok g'

section Graphs

variable {w : Reading Unit} {p : Place} {annotations : List Element} {root bare root' b : Element} {o o' : Outline}

theorem addsNotes_of_inserts (ho : outline root = .ok o) (ho' : outline root' = .ok o')
    (hversion : o'.version = o.version) (hincluded : o'.included = o.included) (hcontext : o'.context = o.context)
    (hw : w.NotesOnly fun n => n.deferred? = none)
    (h : Inserts w (o.schemas.mapM (readSchema o.context)) (o'.schemas.mapM (readSchema o.context))) :
    AddsNotes w root root' where
  graph g' hg' := by
    obtain ⟨schemas, notes, hread, hfaults, rfl⟩ := (readRoot_eq_ok_iff ho').1 hg'
    rw [hcontext] at hread
    obtain ⟨before, more, after, hmore, hrest, rfl⟩ := h.notes _ _ hread
    refine ⟨_, before.filterMap Note.annotated?, more, after.filterMap Note.annotated?,
      (readRoot_eq_ok_iff ho).2 ⟨schemas, before ++ after, hrest, fun n hn => hfaults n ?_, rfl⟩, hmore, ?_, ?_⟩
    · rw [List.append_assoc, List.mem_append, List.mem_append]
      exact (List.mem_append.1 hn).imp_right .inr
    · exact List.filterMap_append
    · rw [hversion, hincluded, List.filterMap_append, List.filterMap_append]
  exists_graph g hg hw' := by
    obtain ⟨schemas, notes, hread, hfaults, rfl⟩ := (readRoot_eq_ok_iff ho).1 hg
    obtain ⟨notes', hread'⟩ := h.gives schemas ⟨notes, hread⟩ hw'
    obtain ⟨before, more, after, hmore, hsame, rfl⟩ := h.notes _ _ hread'
    obtain ⟨-, rfl⟩ := Prod.mk.inj (Except.ok.inj (hread.symm.trans hsame))
    refine ⟨_, (readRoot_eq_ok_iff ho').2 ⟨schemas, _, by rwa [hcontext], fun n hn => ?_, rfl⟩⟩
    rw [List.mem_append, List.mem_append] at hn
    rcases hn with (hn | hn) | hn
    · exact hfaults n (List.mem_append_left _ hn)
    · exact hw () more hmore n hn
    · exact hfaults n (List.mem_append_right _ hn)

/-- A document has the annotations at a place in between. -/
theorem addsNotes_of_bares (h : DifferInSchema (BaresIn p annotations) root bare) (ho : outline bare = .ok o)
    (hb : b.children = annotations) : AddsNotes (noteAnnotations o.context.aliases p.path b) bare root := by
  have hframe : ∀ s s', BaresIn p annotations s s' → SameFrame s s' := fun _ _ h => h.sameFrame
  rcases h.outline hframe with ⟨f, -, hf⟩ | ⟨o', before, s, s', after, hs, hschemas, hroot, hbare⟩
  · rw [ho] at hf
    cases hf
  · obtain rfl := Except.ok.inj (ho.symm.trans hbare)
    have hcontext := (hframe _ _ hs).context hschemas
    refine addsNotes_of_inserts ho hroot rfl rfl hcontext.symm (notesOnly_noteAnnotations fun _ => rfl) ?_
    rw [hschemas]
    exact inserts_mapM (hs.inserts hb)

/-- A document with a block has its annotations in between. -/
theorem addsNotes_of_blocks (h : DifferInSchema (Blocks p.path annotations) bare root') (ho : outline bare = .ok o)
    (hqualified : o.context.aliases.qualifyTarget p.path = p.path) (hb : b.children = annotations) :
    AddsNotes (noteAnnotations o.context.aliases p.path b) bare root' := by
  have hframe : ∀ s s', Blocks p.path annotations s s' → SameFrame s s' := fun _ _ h => h.sameFrame
  rcases h.outline hframe with ⟨f, hf, -⟩ | ⟨o', before, s, s', after, hs, hschemas, hbare, hroot⟩
  · rw [ho] at hf
    cases hf
  · obtain rfl := Except.ok.inj (ho.symm.trans hbare)
    have hcontext := (hframe _ _ hs).context hschemas
    refine addsNotes_of_inserts ho hroot rfl rfl hcontext (notesOnly_noteAnnotations fun _ => rfl) ?_
    rw [hschemas]
    exact inserts_mapM (hs.inserts hqualified hb)

/-- Annotations in between are recorded for their target and no other one. -/
theorem recorded_of_between {g : Graph} {path target : String} {before more after : List (String × Annotation)}
    (hg : g.annotations = before ++ after) (hmore : ∀ x ∈ more, x.1 = path) (hnone : g.recorded path = []) :
    Graph.recorded { g with annotations := before ++ more ++ after } target =
      if target = path then more.map (·.2) else g.recorded target := by
  rw [Graph.recorded, Graph.recorded, hg]
  simp only [List.filter_append, List.map_append]
  split
  · next htarget =>
      subst htarget
      rw [Graph.recorded, hg, List.filter_append, List.map_append, List.append_eq_nil_iff] at hnone
      have hall : more.filter (fun x => x.1 = target) = more := List.filter_eq_self.2 fun x hx => by simp [hmore x hx]
      rw [hnone.1, hnone.2, hall, List.nil_append, List.append_nil]
  · next htarget =>
      have hothers : more.filter (fun x => x.1 = target) = [] :=
        List.filter_eq_nil_iff.2 fun x hx => by simpa [hmore x hx] using Ne.symm htarget
      rw [hothers, List.map_nil, List.append_nil]

/-- Two graphs say the same: they differ in the order of annotations at most, and not for any one target. -/
structure SaysTheSame (g g' : Graph) : Prop where
  graph : g' = { g with annotations := g'.annotations }
  recorded : g'.recorded = g.recorded

theorem SaysTheSame.symm {g g' : Graph} (h : SaysTheSame g g') : SaysTheSame g' g where
  graph := by rw [h.graph]
  recorded := h.recorded.symm

theorem SaysTheSame.annotationWith? {g g' : Graph} (h : SaysTheSame g g') : g'.annotationWith? = g.annotationWith? := by
  funext target term
  simp only [Graph.annotationWith?, Graph.annotationsOf, h.recorded]

/-- Documents that are another one with the same annotations somewhere in between are read alike, if that one has no
annotations of the target. -/
theorem readRoot_of_addsNotes {path : String} (h : AddsNotes w bare root) (h' : AddsNotes w bare root')
    (hw : w.NotesOnly fun n => ∀ x ∈ n.annotated?, x.1 = path)
    (hother : ∀ g, readRoot bare = .ok g → g.recorded path = []) :
    ((∃ g, readRoot root = .ok g) ↔ ∃ g, readRoot root' = .ok g) ∧
      ∀ g g', readRoot root = .ok g → readRoot root' = .ok g' → SaysTheSame g g' := by
  constructor
  · constructor
    · rintro ⟨g, hg⟩
      obtain ⟨g₀, _, more, _, hg₀, hmore, -⟩ := h.graph g hg
      exact h'.exists_graph g₀ hg₀ ⟨more, hmore⟩
    · rintro ⟨g, hg⟩
      obtain ⟨g₀, _, more, _, hg₀, hmore, -⟩ := h'.graph g hg
      exact h.exists_graph g₀ hg₀ ⟨more, hmore⟩
  · intro g g' hg hg'
    obtain ⟨g₀, before, more, after, hg₀, hmore, hsplit, rfl⟩ := h.graph g hg
    obtain ⟨g₁, before', more', after', hg₁, hmore', hsplit', rfl⟩ := h'.graph g' hg'
    obtain rfl := Except.ok.inj (hg₀.symm.trans hg₁)
    obtain ⟨-, rfl⟩ := Prod.mk.inj (Except.ok.inj (hmore.symm.trans hmore'))
    have htargets : ∀ x ∈ more.filterMap Note.annotated?, x.1 = path := by
      intro x hx
      obtain ⟨n, hn, hxn⟩ := List.mem_filterMap.1 hx
      exact hw () more hmore n hn x hxn
    refine ⟨rfl, funext fun target => ?_⟩
    rw [recorded_of_between hsplit htargets (hother _ hg₀), recorded_of_between hsplit' htargets (hother _ hg₀)]

/-- Annotations mean the same in a block as where they stand, if the document has no others of the place. -/
theorem readRoot_of_relocated (hbare : DifferInSchema (BaresIn p annotations) root bare)
    (hblock : DifferInSchema (Blocks p.path annotations) bare root') (hp : p.IsPlain)
    (haliases : ∀ o, outline root = .ok o → o.context.aliases.Spares p.space)
    (hother : ∀ g, readRoot bare = .ok g → g.recorded p.path = []) :
    ((∃ g, readRoot root = .ok g) ↔ ∃ g, readRoot root' = .ok g) ∧
      ∀ g g', readRoot root = .ok g → readRoot root' = .ok g' → SaysTheSame g g' := by
  have hframe : ∀ s s', BaresIn p annotations s s' → SameFrame s s' := fun _ _ h => h.sameFrame
  have hframe' : ∀ s s', Blocks p.path annotations s s' → SameFrame s s' := fun _ _ h => h.sameFrame
  cases ho : outline bare with
  | error f =>
      have hnone := not_exists_readRoot ((hbare.outline_eq_error_iff hframe).2 ho)
      have hnone' := not_exists_readRoot ((hblock.outline_eq_error_iff hframe').1 ho)
      exact ⟨iff_of_false hnone hnone', fun g _ hg => absurd ⟨g, hg⟩ hnone⟩
  | ok o =>
      obtain ⟨o', ho', hcontext⟩ := hbare.exists_outline hframe ho
      have hqualified := Place.qualifyTarget_path hp (haliases o' ho')
      rw [← hcontext] at hqualified
      let block : Element := .mk ⟨"", "Annotations"⟩ [] "" annotations
      refine readRoot_of_addsNotes (addsNotes_of_bares hbare ho (b := block) rfl)
        (addsNotes_of_blocks hblock ho hqualified (b := block) rfl) (notesOnly_noteAnnotations fun a x hx => ?_) hother
      rw [← Option.some.inj hx]

end Graphs

end EntityModel.Csdl
