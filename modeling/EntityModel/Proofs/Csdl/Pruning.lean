import EntityModel.Proofs.Csdl.Annotation

/-!
# Documents without annotations

Annotations may stand at any depth, inline and in blocks of their own. A reader that skips them reads the same: it looks
for child elements by other names, and an annotation leaves notes about itself and nothing else. So a document that is
read has the same version, references and schemas once all annotations are pruned from it (`readRoot_pruned`), and two
documents that are the same when pruned differ in annotations only (`readRoot_of_pruned_eq`). There is one lemma for each
reader, in the order in which readers call each other.
-/

namespace EntityModel.Csdl

open Xml (Name Attribute Element)
open Edm

/-! ## Trees without annotations -/

/-- The names of annotations and of blocks of them. -/
def noteElements : List String := "Annotations" :: annotationElements

/-- An element is an annotation or a block of annotations. -/
def isNote (e : Element) : Bool := noteElements.contains e.localName

mutual

/-- An element without the annotations in it. -/
def pruned : Element → Element
  | .mk n as t cs => .mk n as t (prunedAll cs)

/-- Elements that are no annotations, without the annotations in them. -/
def prunedAll : List Element → List Element
  | [] => []
  | c :: cs => if isNote c then prunedAll cs else pruned c :: prunedAll cs

end

mutual

/-- Trees can be compared. -/
def decEqElement : (e e' : Element) → Decidable (e = e')
  | .mk n as t cs, .mk n' as' t' cs' =>
      letI : Decidable (cs = cs') := decEqElements cs cs'
      decidable_of_iff (n = n' ∧ as = as' ∧ t = t' ∧ cs = cs') (by rw [Element.mk.injEq])

def decEqElements : (cs cs' : List Element) → Decidable (cs = cs')
  | [], [] => isTrue rfl
  | [], _ :: _ => isFalse (by simp)
  | _ :: _, [] => isFalse (by simp)
  | c :: cs, c' :: cs' =>
      letI : Decidable (c = c') := decEqElement c c'
      letI : Decidable (cs = cs') := decEqElements cs cs'
      decidable_of_iff (c = c' ∧ cs = cs') (by rw [List.cons.injEq])

end

instance : DecidableEq Element := decEqElement

section Trees

variable {e : Element} {names : List String}

@[simp] theorem name_pruned : (pruned e).name = e.name := by
  cases e
  rfl

@[simp] theorem localName_pruned : (pruned e).localName = e.localName := by
  rw [Element.localName, name_pruned, Element.localName]

@[simp] theorem attributeIn?_pruned (space name : String) :
    (pruned e).attributeIn? space name = e.attributeIn? space name := by
  cases e
  rfl

@[simp] theorem attribute?_pruned (name : String) : (pruned e).attribute? name = e.attribute? name :=
  attributeIn?_pruned "" name

@[simp] theorem attributeD_pruned (name : String) : (pruned e).attributeD name = e.attributeD name := by
  rw [Element.attributeD, attribute?_pruned, Element.attributeD]

@[simp] theorem reference_pruned (aliases : Aliases) (name : String) :
    aliases.reference (pruned e) name = aliases.reference e name := by
  rw [Aliases.reference, attributeD_pruned, Aliases.reference]

theorem prunedAll_eq (cs : List Element) : prunedAll cs = (cs.filter fun c => !isNote c).map pruned := by
  induction cs with
  | nil => rfl
  | cons c cs ih =>
      rw [prunedAll, List.filter_cons, ih]
      cases isNote c with
      | true => rfl
      | false => rfl

theorem children_pruned (e : Element) : (pruned e).children = prunedAll e.children := by
  cases e
  rfl

theorem exists_of_mem_children_pruned {c : Element} (h : c ∈ (pruned e).children) :
    ∃ d ∈ e.children, pruned d = c := by
  rw [children_pruned, prunedAll_eq] at h
  obtain ⟨d, hd, rfl⟩ := List.mem_map.1 h
  exact ⟨d, (List.mem_filter.1 hd).1, rfl⟩

/-- Child elements with other names stay. -/
theorem childrenNamed_pruned (hnames : ∀ name ∈ names, name ∉ noteElements) :
    (pruned e).childrenNamed names = (e.childrenNamed names).map pruned := by
  rw [Element.childrenNamed, Element.childrenNamed, children_pruned, prunedAll_eq, List.filter_map, List.filter_filter]
  refine congrArg (List.map pruned) (List.filter_congr fun c _ => ?_)
  rw [Function.comp_apply, localName_pruned]
  cases hc : names.contains c.localName with
  | false => rfl
  | true =>
      have hnote : isNote c = false := by
        simpa [isNote] using hnames c.localName (by simpa using hc)
      simp [hnote]

end Trees

/-! ## Readings without annotations -/

namespace Reading

variable {α β γ δ : Type} {x : Reading α} {y : Reading β} {S : α → β → Prop} {T : γ → δ → Prop}

/-- Where a reading succeeds, another one succeeds with a related part, and it makes the same notes apart from
annotations. -/
def Sheds (S : α → β → Prop) (x : Reading α) (y : Reading β) : Prop :=
  ∀ a notes, x.outcome = .ok (a, notes) → ∃ b, S a b ∧ y.outcome = .ok (b, notes.filter (·.deferred?.isSome))

theorem sheds_pure {a : α} {b : β} (h : S a b) : Sheds S (pure a) (pure b) := by
  intro a' notes ha
  rw [outcome_pure] at ha
  obtain ⟨rfl, rfl⟩ := Prod.mk.inj (Except.ok.inj ha)
  exact ⟨b, h, rfl⟩

/-- A reading that notes no annotation stays. -/
theorem NotesOnly.sheds (h : x.NotesOnly fun n => n.deferred?.isSome) : Sheds Eq x x := by
  intro a notes ha
  rw [List.filter_eq_self.2 (h a notes ha)]
  exact ⟨a, rfl, ha⟩

theorem sheds_fault (f : MetadataFault) : Sheds S (fault f) y := by
  intro a notes h
  cases h

theorem Sheds.bind {f : α → Reading γ} {g : β → Reading δ} (hxy : Sheds S x y)
    (hfg : ∀ a b, S a b → Sheds T (f a) (g b)) : Sheds T (x >>= f) (y >>= g) := by
  intro c notes h
  obtain ⟨a, before, more, hx, hf, rfl⟩ := outcome_bind_eq_ok_iff.1 h
  obtain ⟨b, hab, hy⟩ := hxy a before hx
  obtain ⟨d, hcd, hg⟩ := hfg a b hab c more hf
  exact ⟨d, hcd, outcome_bind_eq_ok_iff.2 ⟨b, _, _, hy, hg, List.filter_append ..⟩⟩

/-- What goes on with the same part. -/
theorem Sheds.bind_eq {y : Reading α} {f : α → Reading γ} {g : α → Reading δ} (hxy : Sheds Eq x y)
    (hfg : ∀ a, Sheds T (f a) (g a)) : Sheds T (x >>= f) (y >>= g) := by
  refine hxy.bind ?_
  rintro a _ rfl
  exact hfg a

theorem Sheds.map {y : Reading α} (f : α → γ) (hxy : Sheds Eq x y) : Sheds Eq (f <$> x) (f <$> y) := by
  rw [map_eq_pure_bind, map_eq_pure_bind]
  exact hxy.bind_eq fun _ => sheds_pure rfl

/-- The elements that are pruned leave annotations, and the others what they leave when they are pruned. -/
theorem sheds_mapM {f : Element → Reading α} {f' : Element → Reading β} (L : List α → List β → Prop) {D : α → Prop}
    (hnil : L [] []) (hkept : ∀ a b as bs, S a b → L as bs → L (a :: as) (b :: bs))
    (hdropped : ∀ a as bs, D a → L as bs → L (a :: as) bs) {cs : List Element}
    (hf : ∀ c, isNote c = false → Sheds S (f c) (f' (pruned c)))
    (hf' : ∀ c, isNote c = true → (f c).Ensures D ∧ (f c).NotesOnly fun n => n.deferred? = none) :
    Sheds L (cs.mapM f) ((prunedAll cs).mapM f') := by
  induction cs with
  | nil => exact sheds_pure hnil
  | cons c cs ih =>
      rw [prunedAll, List.mapM_cons]
      cases hc : isNote c with
      | false =>
          simp only [Bool.false_eq_true, if_false, List.mapM_cons]
          exact (hf c hc).bind fun a b hab => ih.bind fun as bs hall => sheds_pure (hkept a b as bs hab hall)
      | true =>
          intro as' notes h
          obtain ⟨a, before, more, ha, hrest, rfl⟩ := outcome_bind_eq_ok_iff.1 h
          obtain ⟨as, more, last, has, hlast, rfl⟩ := outcome_bind_eq_ok_iff.1 hrest
          rw [outcome_pure] at hlast
          obtain ⟨rfl, rfl⟩ := Prod.mk.inj (Except.ok.inj hlast)
          obtain ⟨bs, hall, hbs⟩ := ih as more has
          have hnone : before.filter (·.deferred?.isSome) = [] := by
            refine List.filter_eq_nil_iff.2 fun n hn => ?_
            simp [(hf' c hc).2 a before ha n hn]
          refine ⟨bs, hdropped a as bs ((hf' c hc).1 a ⟨before, ha⟩) hall, ?_⟩
          rw [List.append_nil, List.filter_append, hnone, List.nil_append, ← hbs]
          rfl

/-- The parts that are read of child elements, where those that are pruned leave no part. -/
theorem sheds_parts {f f' : Element → Reading (Option α)} {k k' : List α → Reading γ} {cs : List Element}
    (hf : ∀ c, isNote c = false → Sheds Eq (f c) (f' (pruned c)))
    (hf' : ∀ c, isNote c = true → (f c).Ensures (· = none) ∧ (f c).NotesOnly fun n => n.deferred? = none)
    (hk : ∀ as, Sheds Eq (k as) (k' as)) :
    Sheds Eq (cs.mapM f >>= fun parts => k (parts.filterMap id))
      ((prunedAll cs).mapM f' >>= fun parts => k' (parts.filterMap id)) := by
  have hparts : Sheds (fun as bs => bs.filterMap id = as.filterMap id) (cs.mapM f) ((prunedAll cs).mapM f') := by
    refine sheds_mapM (fun as bs => bs.filterMap id = as.filterMap id) rfl ?_ ?_ hf hf'
    · rintro a _ as bs rfl hall
      cases a with
      | none => exact hall
      | some a => exact congrArg (a :: ·) hall
    · rintro _ as bs rfl hall
      exact hall
  refine hparts.bind fun as bs hall => ?_
  rw [hall]
  exact hk _

theorem look_pruned (e : Element) : look (pruned e) = look e := by
  rw [look, name_pruned, look]

theorem sheds_look {e : Element} : Sheds Eq (look e) (look (pruned e)) := by
  rw [look_pruned]
  exact (notesOnly_look e).sheds

theorem flag_pruned (fallback : Bool) (e : Element) (name : String) :
    flag fallback (pruned e) name = flag fallback e name := by
  rw [flag, attribute?_pruned, flag]

theorem sheds_flag {fallback : Bool} {e : Element} {name : String} :
    Sheds Eq (flag fallback e name) (flag fallback (pruned e) name) := by
  rw [flag_pruned]
  exact (notesOnly_literal _).sheds

/-- Child elements with other names are read when they are pruned. -/
theorem sheds_children {names : List String} {read read' : Element → Reading α} {e : Element}
    (hnames : ∀ name ∈ names, name ∉ noteElements) (hread : ∀ c, Sheds Eq (read c) (read' (pruned c))) :
    Sheds Eq (children names read e) (children names read' (pruned e)) := by
  rw [children, children, children_pruned]
  refine sheds_parts ?_ ?_ fun as => sheds_pure rfl
  · intro c _
    rw [localName_pruned]
    refine sheds_look.bind_eq fun _ => ?_
    split
    · exact (hread c).map some
    · exact sheds_pure rfl
  · intro c hc
    have hother : names.contains c.localName = false := by
      rw [← Bool.not_eq_true, List.contains_iff_mem]
      exact fun hmem => hnames _ hmem (by simpa [isNote] using hc)
    rw [hother]
    exact ⟨ensures_bind fun _ => ensures_pure rfl, (notesOnly_look c).bind fun _ => notesOnly_pure _⟩

end Reading

open Reading (NotesOnly Sheds notesOnly_look notesOnly_literal notesOnly_pure notesOnly_note notesOnly_fault sheds_pure
  sheds_flag sheds_look sheds_children sheds_parts outcome_inspect_eq_ok_iff ensures_pure ensures_bind)

/-! ## Annotations -/

section Annotations

variable {aliases : Aliases} {e : Element}

/-- Whatever is noted of the child elements of an element, without annotations it is nothing. -/
theorem sheds_noteAnnotations {target : String} :
    Sheds Eq (noteAnnotations aliases target e) (noteAnnotations aliases target (pruned e)) := by
  rintro ⟨⟩ notes h
  obtain ⟨hnames, -⟩ := outcome_noteAnnotations_eq_ok_iff.1 h
  have hnone : notes.filter (·.deferred?.isSome) = [] := by
    refine List.filter_eq_nil_iff.2 fun n hn => ?_
    simp [notesOnly_noteAnnotations (N := fun n => n.deferred? = none) (fun _ => rfl) _ _ h n hn]
  refine ⟨(), rfl, outcome_noteAnnotations_eq_ok_iff.2 ⟨fun c hc => ?_, ?_⟩⟩
  · obtain ⟨d, hd, rfl⟩ := exists_of_mem_children_pruned hc
    rw [name_pruned]
    exact hnames d hd
  · have hother : (pruned e).childrenNamed annotationElements = [] := by
      refine List.filter_eq_nil_iff.2 fun c hc hname => ?_
      rw [children_pruned, prunedAll_eq] at hc
      obtain ⟨d, hd, rfl⟩ := List.mem_map.1 hc
      rw [localName_pruned] at hname
      have hkept : isNote d = false := by simpa using (List.mem_filter.1 hd).2
      rw [isNote, noteElements, List.contains_cons, hname, Bool.or_true] at hkept
      cases hkept
    rw [hnone, hother]
    exact .nil

end Annotations

/-! ## Types -/

section Types

variable {ctx : Context} {e : Element} {space owner : String}

@[simp] theorem typeReference_pruned : ctx.typeReference (pruned e) = ctx.typeReference e := by
  rw [Context.typeReference, reference_pruned, Context.typeReference]

theorem sheds_readProperty : Sheds Eq (readProperty ctx owner e) (readProperty ctx owner (pruned e)) := by
  simp only [readProperty, typeReference_pruned, attributeD_pruned, attribute?_pruned]
  exact sheds_flag.bind_eq fun _ => sheds_noteAnnotations.bind_eq fun _ => sheds_pure rfl

theorem sheds_readTarget (p : NavigationProperty) : Sheds Eq (readTarget ctx p e) (readTarget ctx p (pruned e)) := by
  simp only [readTarget, typeReference_pruned, attributeD_pruned, reference_pruned]
  split
  · exact sheds_flag.bind_eq fun _ => sheds_pure rfl
  · split
    · exact sheds_pure rfl
    · have hnote : ∀ f, (Reading.note (.deferred f)).NotesOnly fun n => n.deferred?.isSome := fun f => notesOnly_note rfl
      exact (hnote _).sheds.bind_eq fun _ => sheds_pure rfl

theorem sheds_readNavigation : Sheds Eq (readNavigation ctx owner e) (readNavigation ctx owner (pruned e)) := by
  simp only [readNavigation, attributeD_pruned, attribute?_pruned]
  exact sheds_flag.bind_eq fun _ => (sheds_readTarget _).bind_eq fun _ => sheds_noteAnnotations.bind_eq fun _ =>
    sheds_pure rfl

theorem sheds_readKey : Sheds Eq (readKey e) (readKey (pruned e)) := by
  refine (sheds_children (by decide) fun c => sheds_children (by decide) fun r => ?_).map _
  rw [attributeD_pruned]
  exact sheds_pure rfl

theorem sheds_readStructured (kind : StructuredKind) :
    Sheds Eq (readStructured ctx space kind e) (readStructured ctx space kind (pruned e)) := by
  simp only [readStructured, attributeD_pruned, reference_pruned]
  exact sheds_flag.bind_eq fun _ => sheds_flag.bind_eq fun _ => sheds_flag.bind_eq fun _ =>
    sheds_readKey.bind_eq fun _ => (sheds_children (by decide) fun _ => sheds_readProperty).bind_eq fun _ =>
    (sheds_children (by decide) fun _ => sheds_readNavigation).bind_eq fun _ =>
    sheds_noteAnnotations.bind_eq fun _ => sheds_pure rfl

theorem sheds_readMember : Sheds Eq (readMember e) (readMember (pruned e)) := by
  simp only [readMember, attribute?_pruned, attributeD_pruned]
  exact (notesOnly_literal _).sheds.bind_eq fun _ => sheds_pure rfl

theorem sheds_readEnum : Sheds Eq (readEnum ctx space e) (readEnum ctx space (pruned e)) := by
  simp only [readEnum, attributeD_pruned]
  exact sheds_flag.bind_eq fun _ => (sheds_children (by decide) fun _ => sheds_readMember).bind_eq fun _ =>
    sheds_noteAnnotations.bind_eq fun _ => sheds_pure rfl

theorem sheds_readDefinition : Sheds Eq (readDefinition ctx space e) (readDefinition ctx space (pruned e)) := by
  simp only [readDefinition, attributeD_pruned, reference_pruned]
  exact sheds_noteAnnotations.bind_eq fun _ => sheds_pure rfl

end Types

/-! ## Operations and containers -/

section Containers

variable {ctx : Context} {e : Element} {space : String}

theorem sheds_readParameters : Sheds Eq (readParameters ctx e) (readParameters ctx (pruned e)) := by
  refine sheds_children (by decide) fun c => ?_
  simp only [readParameter, typeReference_pruned, attributeD_pruned]
  exact sheds_flag.bind_eq fun _ => sheds_pure rfl

theorem sheds_readOperation (kind : OperationKind) :
    Sheds Eq (readOperation ctx space kind e) (readOperation ctx space kind (pruned e)) := by
  simp only [readOperation, attributeD_pruned]
  refine (sheds_children (by decide) fun c => ?_).bind_eq fun _ => sheds_flag.bind_eq fun _ =>
    sheds_flag.bind_eq fun _ => sheds_readParameters.bind_eq fun _ => sheds_pure rfl
  rw [reference_pruned]
  exact sheds_pure rfl

theorem sheds_readImport (kind : OperationKind) :
    Sheds Eq (readImport ctx space kind e) (readImport ctx space kind (pruned e)) := by
  have hmethod : importMethod (pruned e) = importMethod e := by
    simp only [importMethod, attributeIn?_pruned, attribute?_pruned]
  simp only [readImport, readImportedOperation, attributeD_pruned, attribute?_pruned, reference_pruned, hmethod]
  split
  · exact sheds_pure rfl
  · refine Sheds.bind_eq ?_ fun _ => sheds_pure rfl
    exact sheds_flag.bind_eq fun _ => sheds_flag.bind_eq fun _ => sheds_flag.bind_eq fun _ =>
      sheds_readParameters.bind_eq fun _ => sheds_pure rfl

theorem sheds_readContainerMember (container name : String) :
    Sheds Eq (readContainerMember ctx container name e) (readContainerMember ctx container name (pruned e)) := by
  simp only [readContainerMember, attributeD_pruned, reference_pruned]
  exact sheds_noteAnnotations.bind_eq fun _ => sheds_pure rfl

theorem sheds_readContainerPart (name : QualifiedName) :
    Sheds Eq (readContainerPart ctx name e) (readContainerPart ctx name (pruned e)) := by
  rw [readContainerPart, readContainerPart, localName_pruned]
  refine sheds_look.bind_eq fun _ => ?_
  split
  · exact (sheds_readContainerMember _ _).map _
  · exact (sheds_readContainerMember _ _).map _
  · exact (sheds_readImport _).map _
  · exact (sheds_readImport _).map _
  · exact sheds_pure rfl

/-- Annotations add no part to a container. -/
theorem readContainerPart_of_isNote (name : QualifiedName) (h : isNote e = true) :
    readContainerPart ctx name e = Reading.look e >>= fun _ => pure none := by
  have hother : ∀ word, noteElements.contains word = false → e.localName ≠ word := by
    rintro word hword rfl
    exact Bool.noConfusion (hword.symm.trans h)
  rw [readContainerPart]
  split
  · next hname => exact absurd hname (hother _ (by decide))
  · next hname => exact absurd hname (hother _ (by decide))
  · next hname => exact absurd hname (hother _ (by decide))
  · next hname => exact absurd hname (hother _ (by decide))
  · rfl

theorem sheds_readContainer : Sheds Eq (readContainer ctx space e) (readContainer ctx space (pruned e)) := by
  simp only [readContainer, attributeD_pruned, children_pruned]
  generalize (⟨space, e.attributeD "Name"⟩ : QualifiedName) = name
  refine sheds_parts (k := fun parts => noteAnnotations ctx.aliases name.dotted e >>= fun _ =>
      pure (containerOfParts name parts, parts.filterMap (·.declared?))) (fun c _ => sheds_readContainerPart name) ?_
    fun parts => sheds_noteAnnotations.bind_eq fun _ => sheds_pure rfl
  intro c hc
  rw [readContainerPart_of_isNote name hc]
  exact ⟨ensures_bind fun _ => ensures_pure rfl, (notesOnly_look c).bind fun _ => notesOnly_pure _⟩

end Containers

/-! ## Schemas -/

section Schemas

variable {ctx : Context} {aliases : Aliases} {e : Element} {space : String}

theorem sheds_readSchemaPart (h : isNote e = false) :
    Sheds Eq (readSchemaPart ctx space e) (readSchemaPart ctx space (pruned e)) := by
  have hother : e.localName ≠ "Annotations" := by
    rintro hname
    rw [isNote, hname] at h
    cases h
  unfold readSchemaPart
  rw [localName_pruned]
  split
  · exact (sheds_readStructured _).map _
  · exact (sheds_readStructured _).map _
  · exact sheds_readEnum.map _
  · exact sheds_readDefinition.map _
  · exact (sheds_readOperation _).map _
  · exact (sheds_readOperation _).map _
  · simp only [readTerm, attributeD_pruned, reference_pruned]
    exact sheds_pure rfl
  · exact sheds_readContainer.map _
  · next hname => exact absurd hname hother
  · exact sheds_pure rfl

/-- Annotations add no part to a schema, and note nothing but annotations. -/
theorem readSchemaPart_of_isNote (h : isNote e = true) :
    (readSchemaPart ctx space e).Ensures (· = none) ∧
      (readSchemaPart ctx space e).NotesOnly fun n => n.deferred? = none := by
  have hother : ∀ word, noteElements.contains word = false → e.localName ≠ word := by
    rintro word hword rfl
    exact Bool.noConfusion (hword.symm.trans h)
  unfold readSchemaPart
  split
  · next hname => exact absurd hname (hother _ (by decide))
  · next hname => exact absurd hname (hother _ (by decide))
  · next hname => exact absurd hname (hother _ (by decide))
  · next hname => exact absurd hname (hother _ (by decide))
  · next hname => exact absurd hname (hother _ (by decide))
  · next hname => exact absurd hname (hother _ (by decide))
  · next hname => exact absurd hname (hother _ (by decide))
  · next hname => exact absurd hname (hother _ (by decide))
  · exact ⟨ensures_bind fun _ => ensures_pure rfl,
      (notesOnly_noteAnnotations fun _ => rfl).bind fun _ => notesOnly_pure _⟩
  · exact ⟨ensures_pure rfl, notesOnly_pure _⟩

/-- Child elements, with those of the ones that have a name, are looked at when they are pruned only if they are looked
at before. -/
theorem exists_of_mem_flatMap_pruned {word : String} {c : Element}
    (h : c ∈ (pruned e).children.flatMap fun d => d :: (if d.localName = word then d.children else [])) :
    ∃ d ∈ e.children.flatMap fun d => d :: (if d.localName = word then d.children else []), pruned d = c := by
  obtain ⟨d', hd', hc⟩ := List.mem_flatMap.1 h
  obtain ⟨d, hd, rfl⟩ := exists_of_mem_children_pruned hd'
  rw [localName_pruned] at hc
  rcases List.mem_cons.1 hc with rfl | hc
  · exact ⟨d, List.mem_flatMap.2 ⟨d, hd, List.mem_cons_self⟩, rfl⟩
  · split at hc
    · next hname =>
        obtain ⟨x, hx, rfl⟩ := exists_of_mem_children_pruned hc
        refine ⟨x, List.mem_flatMap.2 ⟨d, hd, List.mem_cons_of_mem _ ?_⟩, rfl⟩
        rwa [if_pos hname]
    · cases hc

theorem sheds_inspect_surveyed :
    Sheds Eq (Reading.inspect (surveyed e)) (Reading.inspect (surveyed (pruned e))) := by
  rintro ⟨⟩ notes h
  obtain ⟨hnames, rfl⟩ := outcome_inspect_eq_ok_iff.1 h
  refine ⟨(), rfl, outcome_inspect_eq_ok_iff.2 ⟨fun c hc => ?_, rfl⟩⟩
  obtain ⟨d, hd, rfl⟩ := exists_of_mem_flatMap_pruned hc
  rw [name_pruned]
  exact hnames d hd

theorem sheds_readSchema : Sheds Eq (readSchema ctx e) (readSchema ctx (pruned e)) := by
  simp only [readSchema, attributeD_pruned, attribute?_pruned, children_pruned]
  split
  · exact Reading.sheds_fault _
  · exact sheds_inspect_surveyed.bind_eq fun _ =>
      sheds_parts (k := fun parts => pure (schemaOfParts _ _ parts)) (fun c hc => sheds_readSchemaPart hc)
        (fun c hc => readSchemaPart_of_isNote hc) fun parts => sheds_pure rfl

@[simp] theorem schemaAssociations_pruned : schemaAssociations aliases (pruned e) = schemaAssociations aliases e := by
  have hends : ∀ f, associationEnds aliases (pruned f) = associationEnds aliases f := by
    intro f
    rw [associationEnds, associationEnds, childrenNamed_pruned (by decide), List.map_map]
    refine List.map_congr_left fun x _ => ?_
    simp only [Function.comp_apply, attributeD_pruned, attribute?_pruned, reference_pruned]
  rw [schemaAssociations, schemaAssociations, childrenNamed_pruned (by decide), List.map_map]
  refine List.map_congr_left fun f _ => ?_
  simp only [Function.comp_apply, attributeD_pruned, attribute?_pruned, hends]

theorem schemaAliases_pruned (es : List Element) : schemaAliases (es.map pruned) = schemaAliases es := by
  rw [schemaAliases, schemaAliases, List.filterMap_map]
  refine List.filterMap_congr fun e _ => ?_
  simp only [Function.comp_apply, attributeD_pruned]

end Schemas

/-! ## Documents -/

section Documents

variable {root : Element} {o : Outline} {g : Graph}

theorem inclusions_pruned : inclusions (pruned root) = inclusions root := by
  have hinner : ∀ r : Element, ((pruned r).childrenNamed ["Include"]).map
        (fun i => (nonEmpty? (i.attributeD "Alias"), i.attributeD "Namespace")) =
      (r.childrenNamed ["Include"]).map fun i => (nonEmpty? (i.attributeD "Alias"), i.attributeD "Namespace") := by
    intro r
    rw [childrenNamed_pruned (by decide), List.map_map]
    refine List.map_congr_left fun i _ => ?_
    simp only [Function.comp_apply, attributeD_pruned]
  rw [inclusions, inclusions, childrenNamed_pruned (by decide), List.flatMap_map]
  simp only [hinner]

theorem exists_of_mem_surroundings_pruned {c : Element} (h : c ∈ surroundings (pruned root)) :
    ∃ d ∈ surroundings root, pruned d = c := by
  rw [surroundings, localName_pruned, List.mem_cons] at h
  rcases h with rfl | h
  · exact ⟨root, List.mem_cons_self, rfl⟩
  · split at h
    · next hname =>
        have hmem : ∀ d ∈ (root.children.flatMap fun c => c :: (if c.localName = "Reference" then c.children else [])) ++
            (root.childrenNamed ["DataServices"]).flatMap Element.children, d ∈ surroundings root := by
          intro d hd
          rw [surroundings, if_pos hname]
          exact List.mem_cons_of_mem _ hd
        rcases List.mem_append.1 h with h | h
        · obtain ⟨d, hd, rfl⟩ := exists_of_mem_flatMap_pruned h
          exact ⟨d, hmem d (List.mem_append_left _ hd), rfl⟩
        · rw [childrenNamed_pruned (by decide), List.flatMap_map] at h
          obtain ⟨d, hd, hc⟩ := List.mem_flatMap.1 h
          obtain ⟨x, hx, rfl⟩ := exists_of_mem_children_pruned hc
          exact ⟨x, hmem x (List.mem_append_right _ (List.mem_flatMap.2 ⟨d, hd, hx⟩)), rfl⟩
    · cases h

theorem outline_pruned (h : outline root = .ok o) :
    outline (pruned root) = .ok { o with schemas := o.schemas.map pruned } := by
  obtain ⟨hstray, hname⟩ := root_of_outline h
  have hstray' : ((surroundings (pruned root)).findSome? fun e => e.name.stray?) = none := by
    rw [List.findSome?_eq_none_iff] at hstray ⊢
    intro c hc
    obtain ⟨d, hd, rfl⟩ := exists_of_mem_surroundings_pruned hc
    rw [name_pruned]
    exact hstray d hd
  rcases hname with hname | hname
  · obtain rfl := Except.ok.inj ((outline_package hname hstray).symm.trans h)
    have hschema : ∀ d : Element, (pruned d).childrenNamed ["Schema"] = (d.childrenNamed ["Schema"]).map pruned :=
      fun _ => childrenNamed_pruned (by decide)
    have hschemas : ((pruned root).childrenNamed ["DataServices"]).flatMap (fun d => d.childrenNamed ["Schema"]) =
        ((root.childrenNamed ["DataServices"]).flatMap fun d => d.childrenNamed ["Schema"]).map pruned := by
      rw [childrenNamed_pruned (by decide), List.flatMap_map, List.map_flatMap]
      simp only [hschema]
    rw [outline_package (localName_pruned.trans hname) hstray', name_pruned, inclusions_pruned, hschemas]
  · obtain rfl := Except.ok.inj ((outline_schema hname hstray).symm.trans h)
    rw [outline_schema (localName_pruned.trans hname) hstray', name_pruned]
    rfl

/-- The schemas of a document are not told by its annotations. -/
theorem readRoot_pruned (h : readRoot root = .ok g) : readRoot (pruned root) = .ok { g with annotations := [] } := by
  obtain ⟨o, ho, -⟩ := bind_eq_ok_iff.1 h
  have hcontext : Outline.context { o with schemas := o.schemas.map pruned } = o.context := by
    rw [Outline.context, Outline.context, schemaAliases_pruned, List.flatMap_map]
    simp only [schemaAssociations_pruned]
  obtain ⟨schemas, notes, hschemas, hfaults, rfl⟩ := (readRoot_eq_ok_iff ho).1 h
  have hall : Sheds Eq (o.schemas.mapM (readSchema o.context)) ((o.schemas.map pruned).mapM (readSchema o.context)) := by
    generalize o.schemas = es
    induction es with
    | nil => exact sheds_pure rfl
    | cons e es ih =>
        rw [List.map_cons, List.mapM_cons, List.mapM_cons]
        exact sheds_readSchema.bind_eq fun _ => ih.bind_eq fun _ => sheds_pure rfl
  obtain ⟨_, rfl, hpruned⟩ := hall schemas notes hschemas
  have hnone : notes.filter (·.deferred?.isSome) = [] := by
    refine List.filter_eq_nil_iff.2 fun n hn => ?_
    simp [hfaults n hn]
  rw [hnone] at hpruned
  exact (readRoot_eq_ok_iff (outline_pruned ho)).2 ⟨schemas, [], by rwa [hcontext], by simp, rfl⟩

/-- Two documents that are the same without annotations differ in annotations only. -/
theorem readRoot_of_pruned_eq {root' : Element} {g' : Graph} (hpruned : pruned root = pruned root')
    (h : readRoot root = .ok g) (h' : readRoot root' = .ok g') : g' = { g with annotations := g'.annotations } := by
  have hsame := readRoot_pruned h
  rw [hpruned, readRoot_pruned h'] at hsame
  cases g
  cases g'
  simpa using hsame

end Documents

end EntityModel.Csdl
