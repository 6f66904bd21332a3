import EntityModel.Proofs.Csdl.Expression
import Mathlib.Logic.Relation

/-!
# Expressions in other spellings

The spelling of an expression is changed step by step: a constant or path becomes an attribute of the property or the
annotation that holds it, an annotation is inserted next to the parts, and either happens anywhere inside (`Restyles`).
No step changes what an element writes or holds (`Restyles.preserves`). So whichever spelling is taken, and however deep
the parts are nested, the expression is read back (`reads_of_restyled`).
-/

namespace EntityModel.Csdl

open Xml (Element Name Attribute)
open Edm (Expression)

/-! ## Changes of the spelling -/

/-- One change in the way in which an expression is written. -/
inductive Restyles : Element → Element → Prop
  /-- A constant or path among the child elements of what holds a value becomes an attribute. -/
  | toAttribute {n : Name} {as as' : List Attribute} {t : String} {before after : List Element} {c : Element} :
      n.localName ∈ holderElements → c.localName ∈ literalKinds →
      Restyles (.mk n (as ++ as') t (before ++ c :: after))
        (.mk n (as ++ ⟨⟨"", c.localName⟩, c.text⟩ :: as') t (before ++ after))
  /-- An annotation comes next to the child elements. -/
  | insert {n : Name} {as : List Attribute} {t : String} {before after : List Element} {a : Element} :
      n.localName ∈ "Collection" :: "Record" :: holderElements → IsAnnotation a →
      Restyles (.mk n as t (before ++ after)) (.mk n as t (before ++ a :: after))
  /-- Something changes in a child element. -/
  | within {n : Name} {as : List Attribute} {t : String} {before after : List Element} {c c' : Element} :
      Restyles c c' → Restyles (.mk n as t (before ++ c :: after)) (.mk n as t (before ++ c' :: after))

/-- Any number of changes. -/
abbrev Restyled : Element → Element → Prop := Relation.ReflTransGen Restyles

/-- A change may be made in any child element. -/
theorem Restyled.within {n : Name} {as : List Attribute} {t : String} (before after : List Element) {c c' : Element}
    (h : Restyled c c') : Restyled (.mk n as t (before ++ c :: after)) (.mk n as t (before ++ c' :: after)) :=
  Relation.ReflTransGen.lift (fun c => Element.mk n as t (before ++ c :: after)) (fun _ _ => Restyles.within) _ _ h

/-! ## Annotations between the parts -/

namespace Interspersed

variable {α : Type} {R : α → Element → Prop} {xs : List α} {before after : List Element} {a c c' : Element}

/-- Nothing changes if an annotation is inserted. -/
theorem insert (ha : IsAnnotation a) (h : Interspersed R xs (before ++ after)) :
    Interspersed R xs (before ++ a :: after) := by
  induction before generalizing xs with
  | nil => exact .skip ha h
  | cons b before ih =>
      cases h with
      | skip hb h => exact .skip hb (ih h)
      | cons hb h => exact .cons hb (ih h)

/-- Nor if an element is replaced by one that stands for the same. -/
theorem replace (hR : ∀ x, R x c → R x c') (hskipped : IsAnnotation c → IsAnnotation c')
    (h : Interspersed R xs (before ++ c :: after)) : Interspersed R xs (before ++ c' :: after) := by
  induction before generalizing xs with
  | nil =>
      cases h with
      | skip hc h => exact .skip (hskipped hc) h
      | cons hc h => exact .cons (hR _ hc) h
  | cons b before ih =>
      cases h with
      | skip hb h => exact .skip hb (ih h)
      | cons hb h => exact .cons hb (ih h)

/-- If at most one element is no annotation, then an element that is none stands for the only member. -/
theorem eq_some_of_not_annotation {value : Option α} (hc : ¬ IsAnnotation c)
    (h : Interspersed R value.toList (before ++ c :: after)) :
    ∃ x, value = some x ∧ R x c ∧ Interspersed R [] (before ++ after) := by
  induction before generalizing value with
  | nil =>
      cases value with
      | none =>
          cases h with
          | skip ha _ => exact absurd ha hc
      | some x =>
          cases h with
          | skip ha _ => exact absurd ha hc
          | cons hx h => exact ⟨x, rfl, hx, h⟩
  | cons b before ih =>
      cases value with
      | none =>
          cases h with
          | skip hb h =>
              obtain ⟨x, hx, _⟩ := @ih none h
              cases hx
      | some x =>
          cases h with
          | skip hb h =>
              obtain ⟨y, hy, hyc, hrest⟩ := @ih (some x) h
              exact ⟨y, hy, hyc, .skip hb hrest⟩
          | cons hb h =>
              obtain ⟨y, hy, _⟩ := @ih none h
              cases hy

end Interspersed

/-! ## No change of the spelling changes what is written -/

section Restyling

variable {n : Name} {as as' : List Attribute} {t : String} {cs cs' : List Element} {key other value : String}

/-- Another attribute is not found under a name of its own. -/
theorem attribute?_insert_of_ne (h : other ≠ key) :
    (Element.mk n (as ++ ⟨⟨"", key⟩, value⟩ :: as') t cs).attribute? other =
      (Element.mk n (as ++ as') t cs').attribute? other := by
  simp [Element.attribute?, Element.attributeIn?, Element.attributes, List.find?_append, Ne.symm h]

/-- An attribute is found where there was none of this name. -/
theorem attribute?_insert_self (h : (Element.mk n (as ++ as') t cs').attribute? key = none) :
    (Element.mk n (as ++ ⟨⟨"", key⟩, value⟩ :: as') t cs).attribute? key = some value := by
  simp only [Element.attribute?, Element.attributeIn?, Element.attributes, Option.map_eq_none_iff, List.find?_append,
    Option.or_eq_none_iff] at h ⊢
  simp [h.1]

/-- The second element is named like the first one, has the attributes that give no value, and writes whatever the
first one writes. -/
structure Preserves (aliases : Aliases) (e e' : Element) : Prop where
  name : e'.name = e.name
  others : ∀ k ∉ literalKinds, e'.attribute? k = e.attribute? k
  writes : ∀ x, Writes aliases x e → Writes aliases x e'
  property : ∀ p, WritesProperty aliases p e → WritesProperty aliases p e'
  holds : ∀ v, Holds aliases v e → Holds aliases v e'

variable {aliases : Aliases} {e e' : Element} {before after : List Element} {a c c' : Element}

theorem Preserves.annotation (h : Preserves aliases e e') (ha : IsAnnotation e) : IsAnnotation e' := by
  unfold IsAnnotation Element.localName
  rw [h.name]
  exact ha

/-- Elements that differ in their children alone write the same if the children stand for the same. -/
theorem preserves_of_children
    (hwrites : ∀ xs, Interspersed (Writes aliases) xs cs → Interspersed (Writes aliases) xs cs')
    (hproperties : ∀ ps, Interspersed (WritesProperty aliases) ps cs → Interspersed (WritesProperty aliases) ps cs') :
    Preserves aliases (.mk n as t cs) (.mk n as t cs') := by
  have hholds : ∀ v, Holds aliases v (.mk n as t cs) → Holds aliases v (.mk n as t cs') := by
    intro v h
    cases h with
    | byAttribute hvalue honly h hchildren => exact .byAttribute hvalue honly h (hwrites _ hchildren)
    | byChild hnone hchildren => exact .byChild hnone (hwrites _ hchildren)
  refine ⟨rfl, fun _ _ => rfl, fun x h => ?_, fun p h => ?_, hholds⟩
  · cases h with
    | literal hname h => exact .literal hname h
    | dynamic hname hkind h => exact .dynamic hname hkind h
    | collection hname hkind h => exact .collection hname hkind (hwrites _ h)
    | record hname hkind htype h => exact .record hname hkind htype (hproperties _ h)
  · obtain ⟨hname, hkind, hproperty, h⟩ := h
    exact ⟨hname, hkind, hproperty, hholds _ h⟩

/-- An element of a constant or path writes the literal of its kind and text. -/
theorem Writes.literal_of_kind {x : Expression} (h : Writes aliases x e) (hkind : e.localName ∈ literalKinds) :
    literalOf? e.localName e.text = some x := by
  cases h with
  | literal _ h => exact h
  | dynamic _ h hunknown => exact absurd (h ▸ List.mem_append_left _ (List.mem_append_left _ hkind)) hunknown
  | collection _ h _ => exact absurd (h ▸ hkind) (by decide)
  | record _ h _ _ => exact absurd (h ▸ hkind) (by decide)

/-- A constant or path is held as an attribute as well. -/
theorem holds_toAttribute {v : Option Expression} (hkind : c.localName ∈ literalKinds)
    (h : Holds aliases v (.mk n (as ++ as') t (before ++ c :: after))) :
    Holds aliases v (.mk n (as ++ ⟨⟨"", c.localName⟩, c.text⟩ :: as') t (before ++ after)) := by
  have hkinds : ∀ k ∈ annotationElements, k ∉ literalKinds := by decide
  have hc : ¬ IsAnnotation c := fun ha => hkinds _ ha.2 hkind
  cases h with
  | byAttribute _ _ _ hchildren =>
      have hchildren : Interspersed (Writes aliases) (none : Option Expression).toList (before ++ c :: after) := hchildren
      obtain ⟨x, hx, _⟩ := hchildren.eq_some_of_not_annotation hc
      cases hx
  | byChild hnone hchildren =>
      obtain ⟨x, rfl, hx, hrest⟩ := hchildren.eq_some_of_not_annotation hc
      refine .byAttribute (attribute?_insert_self (hnone _ hkind)) (fun k hk hne => ?_) (hx.literal_of_kind hkind) hrest
      rw [attribute?_insert_of_ne hne]
      exact hnone k hk

theorem Restyles.preserves (aliases : Aliases) (h : Restyles e e') : Preserves aliases e e' := by
  induction h with
  | @toAttribute n as as' t before after c hholder hkind =>
      have hattribute : ∀ k ∉ literalKinds,
          (Element.mk n (as ++ ⟨⟨"", c.localName⟩, c.text⟩ :: as') t (before ++ after)).attribute? k =
            (Element.mk n (as ++ as') t (before ++ c :: after)).attribute? k := fun k hk =>
        attribute?_insert_of_ne fun he => hk (he ▸ hkind)
      refine ⟨rfl, hattribute, fun x h => ?_, fun p h => ?_, fun v h => holds_toAttribute hkind h⟩
      · have hkinds : ∀ k ∈ holderElements, k ≠ "Collection" ∧ k ≠ "Record" := by decide
        cases h with
        | literal hname h => exact .literal hname h
        | dynamic hname hkind h => exact .dynamic hname hkind h
        | collection _ h _ => exact absurd h (hkinds _ hholder).1
        | record _ h _ _ => exact absurd h (hkinds _ hholder).2
      · obtain ⟨hname, hproperty, h, hvalue⟩ := h
        refine ⟨hname, hproperty, ?_, holds_toAttribute hkind hvalue⟩
        rw [← h, Element.attributeD, Element.attributeD, hattribute "Property" (by decide)]
  | insert _ ha => exact preserves_of_children (fun _ => .insert ha) fun _ => .insert ha
  -- The child may stand for a part, for a property or for nothing, so all that it preserves is used.
  | within _ ih =>
      exact preserves_of_children (fun _ => .replace ih.writes ih.annotation) fun _ =>
        .replace ih.property ih.annotation

theorem preserves_of_restyled (aliases : Aliases) (h : Restyled e e') : Preserves aliases e e' := by
  induction h with
  | refl => exact ⟨rfl, fun _ _ => rfl, fun _ => id, fun _ => id, fun _ => id⟩
  | tail _ h ih =>
      have hstep := h.preserves aliases
      exact ⟨hstep.name.trans ih.name, fun k hk => (hstep.others k hk).trans (ih.others k hk),
        fun x hx => hstep.writes x (ih.writes x hx), fun p hp => hstep.property p (ih.property p hp),
        fun v hv => hstep.holds v (ih.holds v hv)⟩

end Restyling

/-! ## Every spelling is read -/

/-- An expression is read from its element, and an annotation with its value from the element of it, in every spelling:
with constants and paths as attributes of what holds them or as child elements, with annotations anywhere next to the
parts, and at any depth. -/
theorem reads_of_restyled {space : String} (hspace : '\x7d' ∉ space.toList) (aliases : Aliases) :
    (∀ x, IsWritable aliases x → ∀ e, Restyled (elementOf space x) e → readExpression aliases e = pure (some x)) ∧
      ∀ term value qualifier, term ≠ "" → (∀ x ∈ value, IsWritable aliases x) →
        ∀ e, Restyled (annotationOf space term value qualifier) e →
          readAnnotated aliases e = pure { term := aliases.qualify term, value, qualifier } := by
  refine ⟨fun x hx e he => ?_, fun term value qualifier hterm hvalue e he => ?_⟩
  · have hwrites := (preserves_of_restyled aliases he).writes x (writes_elementOf hspace x hx)
    exact readExpression_of_writes aliases e x hwrites
  · have hpreserves := preserves_of_restyled aliases he
    have hread := readValue_of_holds aliases e value (hpreserves.holds value (holds_annotationOf hspace hvalue))
    have hfound : e.attribute? "Term" = some term ∧ e.attribute? "Qualifier" = qualifier := by
      rw [hpreserves.others _ (by decide), hpreserves.others _ (by decide), annotationOf, holderElement,
        attribute?_mk_map, attribute?_mk_map]
      exact ⟨rfl, by cases qualifier <;> rfl⟩
    obtain ⟨hterm', hqualifier⟩ := hfound
    have htext : e.attributeD "Term" = term := by rw [Element.attributeD, hterm', Option.getD_some]
    rw [readAnnotated, htext, if_neg hterm, hread, pure_bind, Aliases.reference, htext, hqualifier]

/-- A record with a number, and with a text among the parts of a collection. -/
def sizedRecord : Expression :=
  .record none [("Size", some (.constant (.int 7))),
    ("Tags", some (.collection [.constant (.text "String" " a "), .path "Path" ["Owner", "Name"]]))]

/-- The same record in another spelling: the number is an attribute, and an annotation stands between the parts of the
collection. -/
def sizedElement : Element :=
  .mk ⟨"", "Record"⟩ [] ""
    [.mk ⟨"", "PropertyValue"⟩ [⟨⟨"", "Property"⟩, "Size"⟩, ⟨⟨"", "Int"⟩, "7"⟩] "" [],
      .mk ⟨"", "PropertyValue"⟩ [⟨⟨"", "Property"⟩, "Tags"⟩] ""
        [.mk ⟨"", "Collection"⟩ [] ""
          [.mk ⟨"", "String"⟩ [] " a " [], .mk ⟨"", "Annotation"⟩ [⟨⟨"", "Term"⟩, "T.Note"⟩] "" [],
            .mk ⟨"", "Path"⟩ [] "Owner/Name" []]]]

theorem restyled_sizedElement : Restyled (elementOf "" sizedRecord) sizedElement := by
  have hnumber : Restyles
      (.mk ⟨"", "PropertyValue"⟩ [⟨⟨"", "Property"⟩, "Size"⟩] "" [.mk ⟨"", "Int"⟩ [] "7" []])
      (.mk ⟨"", "PropertyValue"⟩ [⟨⟨"", "Property"⟩, "Size"⟩, ⟨⟨"", "Int"⟩, "7"⟩] "" []) :=
    @Restyles.toAttribute ⟨"", "PropertyValue"⟩ [⟨⟨"", "Property"⟩, "Size"⟩] [] "" [] [] (.mk ⟨"", "Int"⟩ [] "7" [])
      (by decide) (by decide)
  have hparts : Restyles
      (.mk ⟨"", "Collection"⟩ [] "" [.mk ⟨"", "String"⟩ [] " a " [], .mk ⟨"", "Path"⟩ [] "Owner/Name" []])
      (.mk ⟨"", "Collection"⟩ [] ""
        [.mk ⟨"", "String"⟩ [] " a " [], .mk ⟨"", "Annotation"⟩ [⟨⟨"", "Term"⟩, "T.Note"⟩] "" [],
          .mk ⟨"", "Path"⟩ [] "Owner/Name" []]) :=
    @Restyles.insert ⟨"", "Collection"⟩ [] "" [.mk ⟨"", "String"⟩ [] " a " []] [.mk ⟨"", "Path"⟩ [] "Owner/Name" []]
      (.mk ⟨"", "Annotation"⟩ [⟨⟨"", "Term"⟩, "T.Note"⟩] "" []) (by decide) ⟨by decide, by decide⟩
  have htags := @Restyled.within ⟨"", "PropertyValue"⟩ [⟨⟨"", "Property"⟩, "Tags"⟩] "" [] [] _ _ (.single hparts)
  exact (Restyled.within [] _ (.single hnumber)).trans (Restyled.within [_] [] htags)

/-- A record with an attribute for a number and an annotation next to a text is read, and so is an annotation of it. -/
theorem reads_of_restyled_record :
    '\x7d' ∉ "".toList ∧ IsWritable [] sizedRecord ∧ Restyled (elementOf "" sizedRecord) sizedElement ∧
      readExpression [] sizedElement = pure (some sizedRecord) ∧
      readAnnotated [] (.mk ⟨"", "Annotation"⟩ [⟨⟨"", "Term"⟩, "T.Shape"⟩] "" [sizedElement]) =
        pure { term := "T.Shape", value := some sizedRecord, qualifier := none } := by
  have hspace : '\x7d' ∉ "".toList := by decide
  have hnumber : IsWritableConstant (.int 7) := ⟨rfl, by decide⟩
  have htext : IsWritableConstant (.text "String" " a ") := ⟨by decide, by decide, .inl rfl⟩
  have hpath : IsWritablePath "Path" ["Owner", "Name"] := ⟨by decide, by decide, by decide⟩
  have htype : IsWritableType [] none := fun t ht => nomatch ht
  have hwritable : IsWritable [] sizedRecord := by
    simp only [sizedRecord, IsWritable, HasWritable, AreWritable]
    exact ⟨htype, hnumber, ⟨htext, hpath, trivial⟩, trivial⟩
  have hreads := reads_of_restyled hspace []
  refine ⟨hspace, hwritable, restyled_sizedElement, hreads.1 _ hwritable _ restyled_sizedElement, ?_⟩
  exact hreads.2 "T.Shape" (some sizedRecord) none (by decide) (fun x hx => Option.some.inj hx ▸ hwritable) _
    (Restyled.within [] [] restyled_sizedElement)

end EntityModel.Csdl
