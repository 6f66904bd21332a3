import EntityModel.Proofs.Csdl.Role
import EntityModel.Proofs.Csdl.Spelling

/-!
# Elements that are skipped

Under each element that is taken for something, a child element may be added that is not looked for there, whatever it
has in it (`Grown`). Each reader skips it: it reads the larger element like the smaller one, as long as the name of what
has been added does not stray or nobody looks at it (`Skippable`). A name that strays where it is looked at keeps the
document from being read at all. So adding such an element changes nothing exactly if it can be skipped, or if the
document has not been read before (`reads_of_grown_iff`).
-/

namespace EntityModel.Csdl

open Xml (Name Attribute Element)
open Edm (OperationKind Graph)
open Reading (look_eq_pure look_eq_of_name bind_mapM_cons inspect_cons)

/-! ## Growth -/

/-- Where an element is taken for something, a child element has been added that is not looked for, there or further
down. -/
inductive Grown (parent : Role) (x : Element) : Role → Element → Element → Prop where
  /-- It has been added here. It may divide the text. -/
  | here (n : Name) (as : List Attribute) (t t' : String) (before after : List Element)
      (hunknown : x.localName ∉ parent.known) :
      Grown parent x parent (.mk n as t (before ++ after)) (.mk n as t' (before ++ x :: after))
  /-- It has been added to a part. -/
  | part (n : Name) (as : List Attribute) (t : String) (before after : List Element) {role role' : Role}
      {c c' : Element} (hrole : role.child? c = some role') (h : Grown parent x role' c c') :
      Grown parent x role (.mk n as t (before ++ c :: after)) (.mk n as t (before ++ c' :: after))

/-- An element can be skipped: its name does not stray, or nobody looks at it. -/
def Skippable (parent : Role) (x : Element) : Prop := x.name.stray? = none ∨ parent = .leaf

/-! ## Lists with one more member -/

theorem forall₂_eq_iff {β : Type} {bs bs' : List β} : List.Forall₂ (· = ·) bs bs' ↔ bs = bs' := by
  rw [List.forall₂_eq_eq_eq]

namespace Reading

variable {α β γ : Type} {f : β → Reading (Option α)} {g : β → Reading Unit} {k : List α → Reading γ} {b b' : β}
  {before after : List β}

theorem bind_mapM_append_cons (h : f b = pure none) :
    ((before ++ b :: after).mapM f >>= fun parts => k (parts.filterMap id)) =
      (before ++ after).mapM f >>= fun parts => k (parts.filterMap id) := by
  induction before generalizing k with
  | nil =>
      rw [List.nil_append, List.nil_append, bind_mapM_cons, h, pure_bind]
      rfl
  | cons c before ih =>
      rw [List.cons_append, List.cons_append, bind_mapM_cons, bind_mapM_cons]
      exact bind_congr fun part => ih (k := fun parts => k (part.toList ++ parts))

theorem forM_append_cons (h : g b = pure ()) : forM (before ++ b :: after) g = forM (before ++ after) g := by
  rw [List.forM_append, List.forM_append, List.forM_cons, h, pure_bind]

theorem inspect_flatMap {es : List Element} {f : Element → List Element} :
    inspect (es.flatMap f) = forM es fun e => inspect (f e) := by
  induction es with
  | nil => rfl
  | cons e es ih =>
      rw [List.flatMap_cons, List.forM_cons, ← ih]
      exact List.forM_append

theorem discard_mapM (bs : List β) : discard (bs.mapM g) = forM bs g := by
  induction bs with
  | nil => rfl
  | cons b bs ih =>
      rw [List.mapM_cons, List.forM_cons, ← ih]
      simp [discard, Functor.discard, map_const]

end Reading

/-! ## Names that stray -/

/-- The names that stray among some elements. -/
def strays (es : List Element) : List String := es.filterMap fun e => e.name.stray?

section Strays

variable {e : Element} {es es' : List Element} {f : Element → List Element}

theorem strays_cons : strays (e :: es) = e.name.stray?.toList ++ strays es := by
  rw [strays, List.filterMap_cons, strays]
  cases e.name.stray? <;> rfl

theorem strays_append : strays (es ++ es') = strays es ++ strays es' := List.filterMap_append

theorem strays_flatMap : strays (es.flatMap f) = es.flatMap fun e => strays (f e) := List.filterMap_flatMap

end Strays

/-! ## Names that are not known -/

section Unknown

variable {ctx : Context} {space : String} {e : Element}

theorem readContainerPart_of_notMem {name : QualifiedName} (h : e.localName ∉ Role.container.known) :
    readContainerPart ctx name e = Reading.look e >>= fun _ => pure none := by
  have hother : ∀ word ∈ Role.container.known, e.localName ≠ word := fun word hword hname => h (hname ▸ hword)
  rw [readContainerPart]
  split
  case h_5 => rfl
  all_goals
    next hname => exact absurd hname (hother _ (by decide))

theorem readSchemaPart_of_notMem (h : e.localName ∉ Role.schema.known) : readSchemaPart ctx space e = pure none := by
  have hother : ∀ word ∈ Role.schema.known, e.localName ≠ word := fun word hword hname => h (hname ▸ hword)
  rw [readSchemaPart]
  split
  case h_10 => rfl
  all_goals
    next hname => exact absurd hname (hother _ (by decide))

end Unknown

namespace Grown

variable {parent role : Role} {x e e' : Element} {α β γ : Type}

/-! ## What stays -/

theorem name (h : Grown parent x role e e') : e'.name = e.name := by
  cases h <;> rfl

theorem localName (h : Grown parent x role e e') : e'.localName = e.localName := congrArg Name.localName h.name

theorem attributeIn? (h : Grown parent x role e e') (space name : String) :
    e'.attributeIn? space name = e.attributeIn? space name := by
  cases h <;> rfl

theorem attribute? (h : Grown parent x role e e') (name : String) : e'.attribute? name = e.attribute? name :=
  h.attributeIn? "" name

theorem attributeD (h : Grown parent x role e e') (name : String) : e'.attributeD name = e.attributeD name := by
  rw [Element.attributeD, h.attribute?, Element.attributeD]

theorem reference (h : Grown parent x role e e') (aliases : Aliases) (name : String) :
    aliases.reference e' name = aliases.reference e name := by
  rw [Aliases.reference, h.attributeD, Aliases.reference]

theorem typeReference (h : Grown parent x role e e') (ctx : Context) : ctx.typeReference e' = ctx.typeReference e := by
  rw [Context.typeReference, h.reference, Context.typeReference]

theorem flag (h : Grown parent x role e e') (fallback : Bool) (name : String) :
    Reading.flag fallback e' name = Reading.flag fallback e name := by
  rw [Reading.flag, h.attribute?, Reading.flag]

theorem look (h : Grown parent x role e e') : Reading.look e' = Reading.look e := look_eq_of_name h.name

/-! ## Child elements -/

/-- What the child elements add to a list is the same up to a relation if it is for each part, and what is skipped adds
nothing. -/
theorem forall₂_flatMap {g : Element → List β} {R : β → β → Prop} (hR : ∀ b, R b b) (h : Grown parent x role e e')
    (hx : Skippable parent x) (hrole : role ≠ .leaf)
    (hskip : ∀ c, c.localName ∉ role.known → c.name.stray? = none → g c = [])
    (hpart : ∀ c c' role', role.child? c = some role' → Grown parent x role' c c' → List.Forall₂ R (g c) (g c')) :
    List.Forall₂ R (e.children.flatMap g) (e'.children.flatMap g) := by
  have hrefl : ∀ bs : List β, List.Forall₂ R bs bs := fun bs => List.forall₂_same.2 fun b _ => hR b
  cases h with
  | here n as t t' before after hunknown =>
      simp only [Element.children, List.flatMap_append, List.flatMap_cons,
        hskip x hunknown (hx.resolve_right hrole), List.nil_append]
      exact hrefl _
  | part n as t before after hchild h =>
      simp only [Element.children, List.flatMap_append, List.flatMap_cons]
      exact List.rel_append (hrefl _) (List.rel_append (hpart _ _ _ hchild h) (hrefl _))

theorem flatMap_children {g : Element → List β} (h : Grown parent x role e e') (hx : Skippable parent x)
    (hrole : role ≠ .leaf) (hskip : ∀ c, c.localName ∉ role.known → c.name.stray? = none → g c = [])
    (hpart : ∀ c c' role', role.child? c = some role' → Grown parent x role' c c' → g c' = g c) :
    e'.children.flatMap g = e.children.flatMap g := by
  have hsame := h.forall₂_flatMap (fun _ => rfl) hx hrole hskip fun c c' role' hchild hc =>
    forall₂_eq_iff.2 (hpart c c' role' hchild hc).symm
  exact (forall₂_eq_iff.1 hsame).symm

/-- What the child elements with a name add to a list is the same up to a relation if it is for each of them. -/
theorem forall₂_childrenNamed {word : String} {r : Role} {f : Element → List β} {R : β → β → Prop} (hR : ∀ b, R b b)
    (hr : (word, r) ∈ role.parts) (h : Grown parent x role e e') (hx : Skippable parent x)
    (hpart : ∀ c c', Grown parent x (r.settle c) c c' → List.Forall₂ R (f c) (f c')) :
    List.Forall₂ R ((e.childrenNamed [word]).flatMap f) ((e'.childrenNamed [word]).flatMap f) := by
  rw [Csdl.flatMap_childrenNamed, Csdl.flatMap_childrenNamed]
  refine h.forall₂_flatMap hR hx (Role.ne_leaf_of_mem_parts hr) ?_ ?_
  · intro c hc _
    exact if_neg (Role.notMem_of_notMem_known hr hc)
  · intro c c' role' hchild hc
    rw [hc.localName]
    by_cases hmem : c.localName ∈ [word]
    · rw [← List.mem_singleton.1 hmem] at hr
      obtain rfl := Role.eq_settle_of_child? hr hchild
      rw [if_pos hmem, if_pos hmem]
      exact hpart c c' hc
    · rw [if_neg hmem, if_neg hmem]
      exact .nil

theorem flatMap_childrenNamed {word : String} {r : Role} {f : Element → List β} (hr : (word, r) ∈ role.parts)
    (h : Grown parent x role e e') (hx : Skippable parent x)
    (hpart : ∀ c c', Grown parent x (r.settle c) c c' → f c' = f c) :
    (e'.childrenNamed [word]).flatMap f = (e.childrenNamed [word]).flatMap f := by
  have hsame := h.forall₂_childrenNamed (fun _ => rfl) hr hx fun c c' hc => forall₂_eq_iff.2 (hpart c c' hc).symm
  exact (forall₂_eq_iff.1 hsame).symm

theorem map_childrenNamed {word : String} {r : Role} {f : Element → β} (hr : (word, r) ∈ role.parts)
    (h : Grown parent x role e e') (hx : Skippable parent x)
    (hpart : ∀ c c', Grown parent x (r.settle c) c c' → f c' = f c) :
    (e'.childrenNamed [word]).map f = (e.childrenNamed [word]).map f := by
  rw [List.map_eq_flatMap, List.map_eq_flatMap]
  exact h.flatMap_childrenNamed hr hx fun c c' hc => by rw [hpart c c' hc]

/-- A visit of the child elements that skips what is not looked for makes the same parts. -/
theorem bind_mapM {f : Element → Reading (Option α)} {k : List α → Reading γ} (h : Grown parent x role e e')
    (hx : Skippable parent x) (hrole : role ≠ .leaf)
    (hskip : ∀ c, c.localName ∉ role.known → c.name.stray? = none → f c = pure none)
    (hpart : ∀ c c' role', role.child? c = some role' → Grown parent x role' c c' → f c' = f c) :
    (e'.children.mapM f >>= fun parts => k (parts.filterMap id)) =
      e.children.mapM f >>= fun parts => k (parts.filterMap id) := by
  cases h with
  | here n as t t' before after hunknown =>
      exact Reading.bind_mapM_append_cons (hskip x hunknown (hx.resolve_right hrole))
  | part n as t before after hchild h =>
      simp only [Element.children, List.mapM_append, List.mapM_cons, hpart _ _ _ hchild h]

theorem forM_children {f : Element → Reading Unit} (h : Grown parent x role e e') (hx : Skippable parent x)
    (hrole : role ≠ .leaf) (hskip : ∀ c, c.localName ∉ role.known → c.name.stray? = none → f c = pure ())
    (hpart : ∀ c c' role', role.child? c = some role' → Grown parent x role' c c' → f c' = f c) :
    forM e'.children f = forM e.children f := by
  cases h with
  | here n as t t' before after hunknown =>
      exact Reading.forM_append_cons (hskip x hunknown (hx.resolve_right hrole))
  | part n as t before after hchild h =>
      simp only [Element.children, List.forM_append, List.forM_cons, hpart _ _ _ hchild h]

/-! ## Readers -/

section Readers

variable {ctx : Context} {aliases : Aliases} {target owner space attr : String} {names : List String}

theorem noteAnnotations (h : Grown parent x role e e') (hx : Skippable parent x) (hrole : role.isAnnotated = true) :
    noteAnnotations aliases target e' = noteAnnotations aliases target e := by
  rw [Csdl.noteAnnotations, Csdl.noteAnnotations, Reading.discard_mapM, Reading.discard_mapM]
  refine h.forM_children hx (by rintro rfl; cases hrole) ?_ ?_
  · intro c hc hname
    have hother : c.localName ∉ annotationElements := fun hmem =>
      hc (List.mem_append_right _ (by rwa [if_pos hrole]))
    simp only [look_eq_pure hname, List.contains_iff_mem, hother, if_false, pure_bind]
  · intro c c' role' hchild hc
    have hother := Role.notMem_annotationElements_of_child? hchild
    simp only [hc.look, hc.localName, List.contains_iff_mem, hother, if_false]

/-- Where child elements with a name are looked for, other ones are skipped. -/
theorem children {read : Element → Reading α} {word : String} {r : Role} (hr : (word, r) ∈ role.parts)
    (h : Grown parent x role e e') (hx : Skippable parent x)
    (hread : ∀ c c', Grown parent x (r.settle c) c c' → read c' = read c) :
    Reading.children [word] read e' = Reading.children [word] read e := by
  refine h.bind_mapM (k := pure) hx (Role.ne_leaf_of_mem_parts hr) ?_ ?_
  · intro c hc hname
    have hother := Role.notMem_of_notMem_known hr hc
    simp only [look_eq_pure hname, List.contains_iff_mem, hother, if_false, pure_bind]
  · intro c c' role' hchild hc
    by_cases hmem : c.localName ∈ [word]
    · rw [← List.mem_singleton.1 hmem] at hr
      obtain rfl := Role.eq_settle_of_child? hr hchild
      simp only [hc.look, hc.localName, hread c c' hc]
    · simp only [hc.look, hc.localName, List.contains_iff_mem, hmem, if_false]

theorem readProperty (h : Grown parent x .annotated e e') (hx : Skippable parent x) :
    readProperty ctx owner e' = readProperty ctx owner e := by
  simp only [Csdl.readProperty, h.typeReference, h.flag, h.attributeD, h.attribute?, h.noteAnnotations hx rfl]

theorem readTarget {p : Edm.NavigationProperty} (h : Grown parent x role e e') :
    readTarget ctx p e' = readTarget ctx p e := by
  simp only [Csdl.readTarget, h.typeReference, h.flag, h.attributeD, h.reference]

theorem readNavigation (h : Grown parent x .annotated e e') (hx : Skippable parent x) :
    readNavigation ctx owner e' = readNavigation ctx owner e := by
  simp only [Csdl.readNavigation, h.flag, h.attributeD, h.attribute?, h.readTarget, h.noteAnnotations hx rfl]

theorem readContainerMember (h : Grown parent x .annotated e e') (hx : Skippable parent x) :
    readContainerMember ctx owner attr e' = readContainerMember ctx owner attr e := by
  simp only [Csdl.readContainerMember, h.attributeD, h.reference, h.noteAnnotations hx rfl]

theorem readDefinition (h : Grown parent x .annotated e e') (hx : Skippable parent x) :
    readDefinition ctx space e' = readDefinition ctx space e := by
  simp only [Csdl.readDefinition, h.attributeD, h.reference, h.noteAnnotations hx rfl]

theorem readKey (h : Grown parent x .structured e e') (hx : Skippable parent x) : readKey e' = readKey e := by
  have hkey : ∀ c c', Grown parent x .key c c' →
      Reading.children ["PropertyRef"] (fun r => pure (r.attributeD "Name")) c' =
        Reading.children ["PropertyRef"] (fun r => pure (r.attributeD "Name")) c :=
    fun c c' hc => hc.children List.mem_cons_self hx fun r r' hr => by rw [hr.attributeD]
  rw [Csdl.readKey, Csdl.readKey, h.children (r := .key) (by decide) hx hkey]

theorem readStructured {kind : Edm.StructuredKind} (h : Grown parent x .structured e e') (hx : Skippable parent x) :
    readStructured ctx space kind e' = readStructured ctx space kind e := by
  have hproperties : ∀ owner, Reading.children ["Property"] (Csdl.readProperty ctx owner) e' =
      Reading.children ["Property"] (Csdl.readProperty ctx owner) e :=
    fun owner => h.children (r := .annotated) (by decide) hx fun _ _ hc => hc.readProperty hx
  have hnavigation : ∀ owner, Reading.children ["NavigationProperty"] (Csdl.readNavigation ctx owner) e' =
      Reading.children ["NavigationProperty"] (Csdl.readNavigation ctx owner) e :=
    fun owner => h.children (r := .annotated) (by decide) hx fun _ _ hc => hc.readNavigation hx
  simp only [Csdl.readStructured, h.attributeD, h.flag, h.reference, h.readKey hx, hproperties, hnavigation,
    h.noteAnnotations hx rfl]

theorem readEnum (h : Grown parent x .enum e e') (hx : Skippable parent x) :
    readEnum ctx space e' = readEnum ctx space e := by
  have hmembers : Reading.children ["Member"] readMember e' = Reading.children ["Member"] readMember e :=
    h.children List.mem_cons_self hx fun c c' hc => by simp only [readMember, hc.attribute?, hc.attributeD]
  simp only [Csdl.readEnum, h.attributeD, h.flag, hmembers, h.noteAnnotations hx rfl]

theorem readParameters (h : Grown parent x role e e') (hx : Skippable parent x)
    (hrole : ("Parameter", .leaf) ∈ role.parts) : readParameters ctx e' = readParameters ctx e := by
  refine h.children hrole hx fun c c' hc => ?_
  simp only [readParameter, hc.typeReference, hc.flag, hc.attributeD]

theorem readOperation {kind : OperationKind} (h : Grown parent x .operation e e') (hx : Skippable parent x) :
    readOperation ctx space kind e' = readOperation ctx space kind e := by
  have hresults : Reading.children ["ReturnType"] (fun r => pure (ctx.aliases.reference r "Type")) e' =
      Reading.children ["ReturnType"] (fun r => pure (ctx.aliases.reference r "Type")) e :=
    h.children List.mem_cons_self hx fun c c' hc => by rw [hc.reference]
  simp only [Csdl.readOperation, hresults, h.flag, h.attributeD, h.readParameters hx (by decide)]

theorem readImportedOperation {kind : OperationKind} (h : Grown parent x (.declaring kind) e e')
    (hx : Skippable parent x) : readImportedOperation ctx space e' = readImportedOperation ctx space e := by
  have hmethod : importMethod e' = importMethod e := by
    rw [importMethod, h.attributeIn?, h.attribute?, importMethod]
  rw [Csdl.readImportedOperation, hmethod]
  simp only [h.flag, h.attributeD, h.reference, h.readParameters hx List.mem_cons_self]
  rfl

theorem readImport {kind : OperationKind} (h : Grown parent x (Role.settle e (.declaring kind)) e e')
    (hx : Skippable parent x) : readImport ctx space kind e' = readImport ctx space kind e := by
  simp only [Csdl.readImport, h.attributeD, h.attribute?]
  split
  · rfl
  · next hnone =>
      rw [Role.settle, if_pos (not_not.1 hnone)] at h
      rw [h.readImportedOperation hx]

theorem readContainerPart {name : QualifiedName} (hchild : Role.container.child? e = some role)
    (h : Grown parent x role e e') (hx : Skippable parent x) :
    readContainerPart ctx name e' = readContainerPart ctx name e := by
  rw [Csdl.readContainerPart, Csdl.readContainerPart, h.look, h.localName]
  obtain ⟨r, hr, rfl⟩ := Role.mem_parts_of_child? hchild
  simp only [Role.parts, List.mem_cons, Prod.mk.injEq, List.not_mem_nil, or_false] at hr
  rcases hr with ⟨hname, rfl⟩ | ⟨hname, rfl⟩ | ⟨hname, rfl⟩ | ⟨hname, rfl⟩
  all_goals simp only [hname]
  · rw [h.readContainerMember hx]
  · rw [h.readContainerMember hx]
  · rw [h.readImport hx]
  · rw [h.readImport hx]

theorem readContainer (h : Grown parent x .container e e') (hx : Skippable parent x) :
    readContainer ctx space e' = readContainer ctx space e := by
  simp only [Csdl.readContainer, h.attributeD, h.noteAnnotations hx rfl]
  refine h.bind_mapM (k := fun parts => do
    Csdl.noteAnnotations ctx.aliases (⟨space, e.attributeD "Name"⟩ : QualifiedName).dotted e
    return (containerOfParts ⟨space, e.attributeD "Name"⟩ parts, parts.filterMap (·.declared?))) hx (by decide) ?_ ?_
  · intro c hc hname
    rw [readContainerPart_of_notMem hc, look_eq_pure hname, pure_bind]
  · exact fun c c' role' hchild hc => hc.readContainerPart hchild hx

theorem readSchemaPart (hchild : Role.schema.child? e = some role) (h : Grown parent x role e e')
    (hx : Skippable parent x) : readSchemaPart ctx space e' = readSchemaPart ctx space e := by
  rw [Csdl.readSchemaPart, Csdl.readSchemaPart, h.localName]
  obtain ⟨r, hr, rfl⟩ := Role.mem_parts_of_child? hchild
  simp only [Role.parts, List.mem_cons, Prod.mk.injEq, List.not_mem_nil, or_false] at hr
  rcases hr with ⟨hname, rfl⟩ | ⟨hname, rfl⟩ | ⟨hname, rfl⟩ | ⟨hname, rfl⟩ | ⟨hname, rfl⟩ | ⟨hname, rfl⟩ |
    ⟨hname, rfl⟩ | ⟨hname, rfl⟩ | ⟨hname, rfl⟩ | ⟨hname, rfl⟩
  all_goals simp only [hname]
  · rfl
  · rw [h.readStructured hx]
  · rw [h.readStructured hx]
  · rw [h.readEnum hx]
  · rw [h.readDefinition hx]
  · rw [h.readOperation hx]
  · rw [h.readOperation hx]
  · simp only [readTerm, h.attributeD, h.reference]
  · rw [h.readContainer hx]
  · rw [h.attributeD, h.noteAnnotations hx rfl]

theorem inspect_children (h : Grown parent x .association e e') (hx : Skippable parent x) :
    Reading.inspect e'.children = Reading.inspect e.children :=
  h.forM_children hx (by decide) (fun _ _ hname => look_eq_pure hname) fun _ _ _ _ hc => hc.look

/-- A schema looks at the same names before it reads its parts. -/
theorem inspect_surveyed (h : Grown parent x .schema e e') (hx : Skippable parent x) :
    Reading.inspect (surveyed e') = Reading.inspect (surveyed e) := by
  rw [surveyed, surveyed, Reading.inspect_flatMap, Reading.inspect_flatMap]
  refine h.forM_children hx (by decide) ?_ ?_
  · intro c hc hname
    have hother : c.localName ≠ "Association" := fun hassoc => hc (hassoc ▸ by decide)
    rw [if_neg hother, inspect_cons, look_eq_pure hname, pure_bind]
    rfl
  · intro c c' role' hchild hc
    rw [inspect_cons, inspect_cons, hc.look, hc.localName]
    by_cases hassoc : c.localName = "Association"
    · have hr : (c.localName, Role.association) ∈ Role.schema.parts := hassoc ▸ List.mem_cons_self
      obtain rfl := Role.eq_settle_of_child? hr hchild
      rw [if_pos hassoc, if_pos hassoc, hc.inspect_children hx]
    · rw [if_neg hassoc, if_neg hassoc]

theorem readSchema (h : Grown parent x .schema e e') (hx : Skippable parent x) :
    readSchema ctx e' = readSchema ctx e := by
  simp only [Csdl.readSchema, h.attributeD, h.attribute?, h.inspect_surveyed hx]
  split
  · rfl
  · refine bind_congr fun _ => h.bind_mapM (k := fun parts => pure (schemaOfParts _ _ parts)) hx (by decide) ?_ ?_
    · exact fun c hc _ => readSchemaPart_of_notMem hc
    · exact fun c c' role' hchild hc => hc.readSchemaPart hchild hx

/-- A schema declares the same associations. -/
theorem schemaAssociations (h : Grown parent x .schema e e') (hx : Skippable parent x) :
    schemaAssociations aliases e' = schemaAssociations aliases e := by
  have hends : ∀ c c', Grown parent x .association c c' → associationEnds aliases c' = associationEnds aliases c :=
    fun c c' hc => hc.map_childrenNamed List.mem_cons_self hx fun i i' hi => by
      rw [hi.attributeD, hi.reference, hi.attribute?]
  rw [Csdl.schemaAssociations, Csdl.schemaAssociations, h.attributeD]
  exact h.map_childrenNamed List.mem_cons_self hx fun c c' hc => by rw [hc.attribute?, hends c c' hc]

end Readers

/-! ## Documents -/

/-- The same names stray among the child elements. -/
theorem strays_children (h : Grown parent x role e e') (hx : Skippable parent x) (hrole : role ≠ .leaf) :
    strays e'.children = strays e.children := by
  rw [strays, strays, List.filterMap_eq_flatMap_toList, List.filterMap_eq_flatMap_toList]
  refine h.flatMap_children hx hrole ?_ ?_
  · intro c _ hname
    rw [hname, Option.toList_none]
  · intro c c' _ _ hc
    rw [hc.name]

/-- The same names stray around the schemas. -/
theorem strays_surroundings (h : Grown parent x .package e e') (hx : Skippable parent x)
    (hname : e.localName = "Edmx") : strays (surroundings e') = strays (surroundings e) := by
  have hbeside : e'.children.flatMap (fun c =>
        strays (c :: (if c.localName = "Reference" then c.children else []))) =
      e.children.flatMap fun c => strays (c :: (if c.localName = "Reference" then c.children else [])) := by
    refine h.flatMap_children hx (by decide) ?_ ?_
    · intro c hc hstray
      have hother : c.localName ≠ "Reference" := fun href => hc (href ▸ by decide)
      rw [if_neg hother, strays_cons, hstray]
      rfl
    · intro c c' role' hchild hc
      rw [strays_cons, strays_cons, hc.name, hc.localName]
      by_cases href : c.localName = "Reference"
      · have hr : (c.localName, Role.reference) ∈ Role.package.parts := href ▸ List.mem_cons_self
        obtain rfl := Role.eq_settle_of_child? hr hchild
        rw [if_pos href, if_pos href, hc.strays_children hx nofun]
      · rw [if_neg href, if_neg href]
  have haround : (e'.childrenNamed ["DataServices"]).flatMap (fun d => strays d.children) =
      (e.childrenNamed ["DataServices"]).flatMap fun d => strays d.children :=
    h.flatMap_childrenNamed (r := .services) (by decide) hx fun _ _ hd => hd.strays_children hx nofun
  rw [surroundings, surroundings, h.localName, if_pos hname, if_pos hname, strays_cons, strays_cons, strays_append,
    strays_append, strays_flatMap, strays_flatMap, strays_flatMap, strays_flatMap, h.name, hbeside, haround]

theorem inclusions (h : Grown parent x .package e e') (hx : Skippable parent x) : inclusions e' = inclusions e := by
  refine h.flatMap_childrenNamed List.mem_cons_self hx fun c c' hc => ?_
  exact hc.map_childrenNamed List.mem_cons_self hx fun i i' hi => by rw [hi.attributeD, hi.attributeD]

/-- What an element is taken for does not depend on what has been added to it. -/
theorem child? (h : Grown parent x role e e') (role' : Role) : role'.child? e' = role'.child? e := by
  have hsettle : Role.settle e' = Role.settle e := by
    funext r
    cases r <;> simp only [Role.settle, h.attributeD]
  rw [Role.child?, Role.child?, h.localName, hsettle]

/-- Where all elements have names that are looked at, what has been added can be skipped. -/
theorem skippable (h : Grown parent x role e e') (hnamed : Named role e') : Skippable parent x := by
  induction h with
  | here n as t t' before after hunknown =>
      cases hnamed with
      | leaf => exact .inr rfl
      | node names _ => exact .inl (names x (List.mem_append_right _ List.mem_cons_self))
  | part n as t before after hchild h ih =>
      cases hnamed with
      | leaf => cases hchild
      | node _ below =>
          exact ih (below _ (List.mem_append_right _ List.mem_cons_self) _ ((h.child? _).trans hchild))

end Grown

/-! ## Documents -/

/-- Two schemas are read alike, and declare the same alias and the same associations. -/
structure ReadAlike (s s' : Element) : Prop where
  space : s'.attributeD "Namespace" = s.attributeD "Namespace"
  short : s'.attributeD "Alias" = s.attributeD "Alias"
  associations : ∀ aliases, schemaAssociations aliases s' = schemaAssociations aliases s
  read : ∀ ctx, readSchema ctx s' = readSchema ctx s

section Documents

variable {parent role : Role} {x root root' s s' : Element} {ss ss' : List Element} {o : Outline}

theorem readAlike_rfl : ReadAlike s s := ⟨rfl, rfl, fun _ => rfl, fun _ => rfl⟩

theorem Grown.readAlike (h : Grown parent x .schema s s') (hx : Skippable parent x) : ReadAlike s s' :=
  ⟨h.attributeD _, h.attributeD _, fun _ => h.schemaAssociations hx, fun _ => h.readSchema hx⟩

theorem Grown.forall₂_readAlike (h : Grown parent x .services s s') (hx : Skippable parent x) :
    List.Forall₂ ReadAlike (s.childrenNamed ["Schema"]) (s'.childrenNamed ["Schema"]) := by
  have hschemas := h.forall₂_childrenNamed (f := fun s => [s]) (fun _ => readAlike_rfl) List.mem_cons_self hx
    fun _ _ hs => .cons (hs.readAlike hx) .nil
  rwa [List.flatMap_singleton', List.flatMap_singleton'] at hschemas

theorem schemaAliases_of_readAlike (h : List.Forall₂ ReadAlike ss ss') : schemaAliases ss' = schemaAliases ss := by
  induction h with
  | nil => rfl
  | cons hs _ ih =>
      rw [schemaAliases] at ih
      rw [schemaAliases, schemaAliases, List.filterMap_cons, List.filterMap_cons, hs.short, hs.space, ih]
      rfl

theorem associations_of_readAlike (h : List.Forall₂ ReadAlike ss ss') (aliases : Aliases) :
    ss'.flatMap (schemaAssociations aliases) = ss.flatMap (schemaAssociations aliases) := by
  induction h with
  | nil => rfl
  | cons hs _ ih => rw [List.flatMap_cons, List.flatMap_cons, hs.associations, ih]

theorem mapM_of_readAlike (h : List.Forall₂ ReadAlike ss ss') (ctx : Context) :
    ss'.mapM (readSchema ctx) = ss.mapM (readSchema ctx) := by
  induction h with
  | nil => rfl
  | cons hs _ ih => rw [List.mapM_cons, List.mapM_cons, hs.read, ih]

/-- A document is read like another one if its schemas are. -/
theorem readRoot_of_readAlike (ho : outline root = .ok o) (h : List.Forall₂ ReadAlike o.schemas ss)
    (ho' : outline root' = .ok { o with schemas := ss }) : readRoot root' = readRoot root := by
  have hcontext : Outline.context { o with schemas := ss } = o.context := by
    simp only [Outline.context, schemaAliases_of_readAlike h, associations_of_readAlike h]
  rw [readRoot_of_outline ho, readRoot_of_outline ho', hcontext, mapM_of_readAlike h]
  rfl

theorem readRoot_of_strays {text : String} {texts : List String} (h : strays (surroundings root) = text :: texts) :
    readRoot root = .error (.unforeseen (.literal (.elementName text))) := by
  have hfound : (surroundings root).findSome? (fun e => e.name.stray?) = some text := by
    rw [← List.head?_filterMap, ← strays, h, List.head?_cons]
  rw [readRoot, outline_of_strays hfound]
  rfl

/-- What can be skipped is skipped in a package. -/
theorem Grown.readRoot_package (h : Grown parent x .package root root') (hname : root.localName = "Edmx")
    (hx : Skippable parent x) : readRoot root' = readRoot root := by
  have hstrays := h.strays_surroundings hx hname
  cases hfound : strays (surroundings root) with
  | cons text texts => rw [readRoot_of_strays hfound, readRoot_of_strays (hstrays.trans hfound)]
  | nil =>
      have hnone : ∀ e : Element, strays (surroundings e) = [] →
          (surroundings e).findSome? (fun c => c.name.stray?) = none := by
        intro e he
        rw [← List.head?_filterMap, ← strays, he, List.head?_nil]
      have ho' := outline_package (h.localName.trans hname) (hnone _ (hstrays.trans hfound))
      rw [h.name, h.inclusions hx] at ho'
      refine readRoot_of_readAlike (outline_package hname (hnone _ hfound)) ?_ ho'
      refine h.forall₂_childrenNamed (r := .services) (fun _ => readAlike_rfl) (by decide) hx fun d d' hd => ?_
      exact (show Grown parent x .services d d' from hd).forall₂_readAlike hx

/-- So it is in a document that is a schema. -/
theorem Grown.readRoot_schema (h : Grown parent x .schema root root') (hname : root.localName = "Schema")
    (hx : Skippable parent x) : readRoot root' = readRoot root := by
  have haround : ∀ e : Element, e.localName = "Schema" →
      (surroundings e).findSome? (fun c => c.name.stray?) = e.name.stray? := by
    intro e he
    simp [surroundings, he]
  have hname' := h.localName.trans hname
  have hstray := haround root hname
  have hstray' := (haround root' hname').trans (h.name ▸ rfl : root'.name.stray? = root.name.stray?)
  cases hfound : root.name.stray? with
  | some text =>
      rw [Csdl.readRoot, Csdl.readRoot, outline_of_strays (hstray.trans hfound),
        outline_of_strays (hstray'.trans hfound)]
  | none =>
      have ho' := outline_schema hname' (hstray'.trans hfound)
      rw [h.name] at ho'
      exact readRoot_of_readAlike (outline_schema hname (hstray.trans hfound)) (.cons (h.readAlike hx) .nil) ho'

/-- What can be skipped is skipped wherever it is added. -/
theorem Grown.readRoot (h : Grown parent x role root root') (hrole : Role.ofRoot? root = some role)
    (hx : Skippable parent x) : readRoot root' = readRoot root := by
  unfold Role.ofRoot? at hrole
  split at hrole
  · next hname =>
      obtain rfl := Option.some.inj hrole
      exact h.readRoot_package hname hx
  · split at hrole
    · next hname =>
        obtain rfl := Option.some.inj hrole
        exact h.readRoot_schema hname hx
    · cases hrole

/-- An element that is not looked for may be added anywhere in a document where elements are taken for something, and
this changes neither whether the document is read nor its graph, exactly if the element can be skipped, or if the
document has not been read before. -/
theorem reads_of_grown_iff (hrole : Role.ofRoot? root = some role) (h : Grown parent x role root root') :
    (∀ g, readRoot root' = .ok g ↔ readRoot root = .ok g) ↔
      x.name.stray? = none ∨ parent = .leaf ∨ ∀ g, readRoot root ≠ .ok g := by
  have hnamed : ∀ g, Csdl.readRoot root' = .ok g → Skippable parent x := fun g hg =>
    h.skippable (named_of_readRoot (by rwa [Role.ofRoot?, h.localName]) hg)
  constructor
  · intro hsame
    rw [← or_assoc, or_iff_not_imp_right]
    intro hread
    simp only [not_forall, not_not] at hread
    obtain ⟨g, hg⟩ := hread
    exact hnamed g ((hsame g).2 hg)
  · intro hcases g
    rcases or_assoc.2 hcases with hx | hnone
    · rw [h.readRoot hrole hx]
    · refine iff_of_false (fun hg => ?_) (hnone g)
      rw [h.readRoot hrole (hnamed g hg)] at hg
      exact hnone g hg

end Documents

/-! ## A package with a property -/

/-- A package with a property of a type, with more elements beside the schemas and in the property. -/
def propertyDocument (beside inside : List Element) : Element :=
  plainElement packageSpace "Edmx" [] (beside ++ [plainElement packageSpace "DataServices" []
    [plainElement schemaSpace "Schema" [("Namespace", "N")]
      [plainElement schemaSpace "EntityType" [("Name", "T")]
        [plainElement schemaSpace "Property" [("Name", "P"), ("Type", "Edm.String")] inside]]]])

/-- An element that is not looked for in a property, with one in it that could not be read. -/
def remarkElement : Element :=
  plainElement schemaSpace "Documentation" [] [plainElement schemaSpace "Property" [("Nullable", "maybe")] []]

/-- An element with a label in front of its name that is not bound. -/
def labelledElement : Element := plainElement "" "m:X" [] []

theorem reads_of_grown_iff_of_remark :
    Role.ofRoot? (propertyDocument [] []) = some .package ∧
      Grown .annotated remarkElement .package (propertyDocument [] []) (propertyDocument [] [remarkElement]) ∧
      (∃ g, readRoot (propertyDocument [] []) = .ok g) ∧
      ∀ g, readRoot (propertyDocument [] [remarkElement]) = .ok g ↔ readRoot (propertyDocument [] []) = .ok g := by
  have hrole : Role.ofRoot? (propertyDocument [] []) = some .package := by decide
  have hgrown : Grown .annotated remarkElement .package (propertyDocument [] []) (propertyDocument [] [remarkElement]) := by
    refine .part _ _ _ [] [] rfl ?_
    refine .part _ _ _ [] [] rfl ?_
    refine .part _ _ _ [] [] rfl ?_
    refine .part _ _ _ [] [] rfl ?_
    exact .here _ _ _ _ [] [] (by decide)
  obtain ⟨g, hg, -⟩ := exists_of_any_toOption (p := fun _ => true)
    (by decide : (readRoot (propertyDocument [] [])).toOption.any (fun _ => true) = true)
  exact ⟨hrole, hgrown, ⟨g, hg⟩, (reads_of_grown_iff hrole hgrown).2 (.inl (by decide))⟩

/-- With an element beside the schemas whose label is not bound the document is not read. -/
theorem not_reads_of_labelled :
    Role.ofRoot? (propertyDocument [] []) = some .package ∧
      Grown .package labelledElement .package (propertyDocument [] []) (propertyDocument [labelledElement] []) ∧
      (∃ g, readRoot (propertyDocument [] []) = .ok g) ∧
      ¬ ∃ g, readRoot (propertyDocument [labelledElement] []) = .ok g := by
  have hgrown : Grown .package labelledElement .package (propertyDocument [] [])
      (propertyDocument [labelledElement] []) := .here _ _ _ _ [] _ (by decide)
  obtain ⟨g, hg, -⟩ := exists_of_any_toOption (p := fun _ => true)
    (by decide : (readRoot (propertyDocument [] [])).toOption.any (fun _ => true) = true)
  refine ⟨by decide, hgrown, ⟨g, hg⟩, ?_⟩
  rintro ⟨g', hg'⟩
  rcases hgrown.skippable (named_of_readRoot (by decide) hg') with hname | hleaf
  · exact absurd hname (by decide)
  · cases hleaf

end EntityModel.Csdl
