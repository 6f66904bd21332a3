import EntityModel.Proofs.Literal

/-!
# Expressions and their elements

An expression is written as an element: a constant or a path with its text, a collection and a record with an element for
each of their parts (`elementOf`). This is only the plain way, for a value that belongs to a property of a record or to
an annotation may stand in an attribute of the element that holds it, and annotations may stand next to the parts.

What all the ways have in common is told by `Writes`: the element has an element for each part, in order, and apart from
these only annotations (`Interspersed`), and what holds a value has it once, as an attribute or as a child element
(`Holds`). That is all the reading depends on (`readExpression_of_writes`), and the plain way is one of them if the
texts tell the constants and paths (`writes_elementOf`).
-/

namespace EntityModel.Csdl

open Xml (Element Name Attribute)
open Edm (Constant Scalar Expression)

/-! ## The plain way to write an expression -/

/-- The text of a scalar; a float has none here. -/
def scalarText : Scalar → String
  | .bool b => toString b
  | .int n => toString n
  | .float _ => ""
  | .text s => s
  | .absent => ""

/-- The text of a path. -/
def pathText (segments : List String) : String := "/".intercalate segments

/-- The element of a property of a record, or of an annotation: it holds a value, if there is one. -/
def holderElement (space name : String) (attributes : List (String × String)) (value : Option Element) : Element :=
  .mk ⟨space, name⟩ (attributes.map fun a => ⟨⟨"", a.1⟩, a.2⟩) "" value.toList

mutual

/-- The element that an expression is written as, with all names in one namespace. -/
def elementOf (space : String) : Expression → Element
  | .constant c => .mk ⟨space, c.kind⟩ [] (scalarText c.value) []
  | .path kind segments => .mk ⟨space, kind⟩ [] (pathText segments) []
  | .collection xs => .mk ⟨space, "Collection"⟩ [] "" (elementsOf space xs)
  | .record type ps => .mk ⟨space, "Record"⟩ (type.toList.map (⟨⟨"", "Type"⟩, ·⟩)) "" (propertyElements space ps)

/-- The elements of the parts of a collection. -/
def elementsOf (space : String) : List Expression → List Element
  | [] => []
  | x :: xs => elementOf space x :: elementsOf space xs

/-- The elements of the properties of a record. -/
def propertyElements (space : String) : List (String × Option Expression) → List Element
  | [] => []
  | (name, none) :: ps => holderElement space "PropertyValue" [("Property", name)] none :: propertyElements space ps
  | (name, some x) :: ps =>
      holderElement space "PropertyValue" [("Property", name)] (some (elementOf space x)) :: propertyElements space ps

end

/-- The element of an annotation with a term, a value and a qualifier. -/
def annotationOf (space term : String) (value : Option Expression) (qualifier : Option String) : Element :=
  holderElement space "Annotation" (("Term", term) :: qualifier.toList.map ("Qualifier", ·)) (value.map (elementOf space))

/-! ## Expressions that can be written -/

/-- The kinds of constants and paths. -/
def literalKinds : List String := constantKinds ++ pathKinds

/-- The elements that hold a value. -/
def holderElements : List String := "PropertyValue" :: annotationElements

/-- The elements of a value that is not an expression to be evaluated. -/
def knownElements : List String := literalKinds ++ ["Collection", "Record"] ++ annotationElements

/-- A constant is told by its text: a truth value, an integer that is not too long, a text of its kind, around which
there are no blanks unless it is a string. An expression that is not evaluated is told by its name. -/
def IsWritableConstant (c : Constant) : Prop :=
  match c.value with
  | .bool _ => c.kind = Constant.boolKind
  | .int n => c.kind = Constant.intKind ∧ digitCount n ≤ Numeral.digitLimit
  | .float _ => False
  | .text s => c.kind ∈ constantKinds ∧ c.kind ∉ [Constant.boolKind, Constant.intKind, Constant.floatKind] ∧
      (c.kind = "String" ∨ Text.trim s = s)
  | .absent => c.kind ∉ knownElements ∧ ':' ∉ c.kind.toList

/-- A path is of one of the kinds, no segment of it is empty or has a slash, and there is no blank at an end. -/
structure IsWritablePath (kind : String) (segments : List String) : Prop where
  mem_kinds : kind ∈ pathKinds
  parts : ∀ s ∈ segments, s ≠ "" ∧ '/' ∉ s.toList
  trimmed : Text.trim (pathText segments) = pathText segments

/-- The type of a record, if it is named, is left as it is when aliases are expanded. The empty text names none. -/
def IsWritableType (aliases : Aliases) (type : Option String) : Prop := ∀ t ∈ type, t ≠ "" ∧ aliases.qualify t = t

mutual

/-- All parts of an expression are told by their texts. -/
def IsWritable (aliases : Aliases) : Expression → Prop
  | .constant c => IsWritableConstant c
  | .path kind segments => IsWritablePath kind segments
  | .collection xs => AreWritable aliases xs
  | .record type ps => IsWritableType aliases type ∧ HasWritable aliases ps

/-- So are all expressions of a list. -/
def AreWritable (aliases : Aliases) : List Expression → Prop
  | [] => True
  | x :: xs => IsWritable aliases x ∧ AreWritable aliases xs

/-- So are all values of the properties of a record. -/
def HasWritable (aliases : Aliases) : List (String × Option Expression) → Prop
  | [] => True
  | (_, none) :: ps => HasWritable aliases ps
  | (_, some x) :: ps => IsWritable aliases x ∧ HasWritable aliases ps

end

/-! ## What the spellings have in common -/

/-- An element is an annotation. -/
def IsAnnotation (e : Element) : Prop := e.name.stray? = none ∧ e.localName ∈ annotationElements

/-- Elements stand for the members of a list, in order, with annotations between them. -/
inductive Interspersed {α : Type} (R : α → Element → Prop) : List α → List Element → Prop
  | nil : Interspersed R [] []
  /-- An annotation stands for nothing. -/
  | skip {a : Element} {xs : List α} {cs : List Element} :
      IsAnnotation a → Interspersed R xs cs → Interspersed R xs (a :: cs)
  | cons {x : α} {c : Element} {xs : List α} {cs : List Element} :
      R x c → Interspersed R xs cs → Interspersed R (x :: xs) (c :: cs)

/-- The constant or path of some kind that a text stands for. -/
def literalOf? (kind text : String) : Option Expression :=
  if constantKinds.contains kind then (readConstant kind text).toOption.map .constant
  else if pathKinds.contains kind then some (readPath kind text)
  else none

mutual

/-- An element writes an expression. -/
inductive Writes (aliases : Aliases) : Expression → Element → Prop
  | literal {x : Expression} {e : Element} :
      e.name.stray? = none → literalOf? e.localName e.text = some x → Writes aliases x e
  /-- What is to be evaluated is kept by its name. -/
  | dynamic {e : Element} {kind : String} : e.name.stray? = none → e.localName = kind → kind ∉ knownElements →
      Writes aliases (.constant (.dynamic kind)) e
  | collection {e : Element} {xs : List Expression} : e.name.stray? = none → e.localName = "Collection" →
      Interspersed (Writes aliases) xs e.children → Writes aliases (.collection xs) e
  | record {e : Element} {type : Option String} {ps : List (String × Option Expression)} :
      e.name.stray? = none → e.localName = "Record" → nonEmpty? (aliases.reference e "Type") = type →
      Interspersed (WritesProperty aliases) ps e.children → Writes aliases (.record type ps) e

/-- An element writes a property of a record. -/
inductive WritesProperty (aliases : Aliases) : String × Option Expression → Element → Prop
  | mk {p : String × Option Expression} {e : Element} : e.name.stray? = none → e.localName = "PropertyValue" →
      e.attributeD "Property" = p.1 → Holds aliases p.2 e → WritesProperty aliases p e

/-- An element holds a value, if there is one, either as its only attribute for values or as a child element. -/
inductive Holds (aliases : Aliases) : Option Expression → Element → Prop
  | byAttribute {e : Element} {kind text : String} {x : Expression} :
      e.attribute? kind = some text → (∀ k ∈ literalKinds, k ≠ kind → e.attribute? k = none) →
      literalOf? kind text = some x → Interspersed (Writes aliases) [] e.children → Holds aliases (some x) e
  | byChild {e : Element} {value : Option Expression} : (∀ k ∈ literalKinds, e.attribute? k = none) →
      Interspersed (Writes aliases) value.toList e.children → Holds aliases value e

end

section Reading

variable {aliases : Aliases} {e e' : Element} {x : Expression} {kind text : String}

/-! ## What is read -/

theorem look_of_named (h : e.name.stray? = none) : Reading.look e = pure () := by
  rw [Reading.look, h]

/-- A text that stands for a constant is read as this constant. -/
theorem literal_readConstant {c : Constant} (h : (readConstant kind text).toOption = some c) :
    Reading.literal (readConstant kind text) = pure c := by
  cases hread : readConstant kind text with
  | error f =>
      rw [hread] at h
      cases h
  | ok c' =>
      rw [hread] at h
      obtain rfl := Option.some.inj h
      rfl

/-- An element with a proper name is read by its kind. -/
theorem readExpression_of_named (aliases : Aliases) (hname : e.name.stray? = none) :
    readExpression aliases e =
      if constantKinds.contains e.localName then
        some <$> Expression.constant <$> Reading.literal (readConstant e.localName e.text)
      else if pathKinds.contains e.localName then pure (some (readPath e.localName e.text))
      else if e.localName = "Collection" then (fun es => some (.collection es)) <$> readElements aliases e.children
      else if e.localName = "Record" then
        (fun ps => some (.record (nonEmpty? (aliases.reference e "Type")) ps)) <$> readProperties aliases e.children
      else if annotationElements.contains e.localName then pure none
      else pure (some (.constant (.dynamic e.localName))) := by
  obtain ⟨n, as, t, cs⟩ := e
  rw [readExpression, look_of_named hname, pure_bind]
  rfl

theorem readExpression_of_literal (hname : e.name.stray? = none) (h : literalOf? e.localName e.text = some x) :
    readExpression aliases e = pure (some x) := by
  rw [readExpression_of_named aliases hname]
  unfold literalOf? at h
  split at h
  · next hkind =>
      obtain ⟨c, hc, rfl⟩ := Option.map_eq_some_iff.1 h
      rw [if_pos hkind, literal_readConstant hc]
      rfl
  · next hkind =>
      split at h
      · next hpath =>
          obtain rfl := Option.some.inj h
          rw [if_neg hkind, if_pos hpath]
      · cases h

/-- What is neither a constant nor a path is not taken for one. -/
theorem readExpression_of_not_literal (aliases : Aliases) (hname : e.name.stray? = none)
    (h : e.localName ∉ literalKinds) :
    readExpression aliases e =
      if e.localName = "Collection" then (fun es => some (.collection es)) <$> readElements aliases e.children
      else if e.localName = "Record" then
        (fun ps => some (.record (nonEmpty? (aliases.reference e "Type")) ps)) <$> readProperties aliases e.children
      else if annotationElements.contains e.localName then pure none
      else pure (some (.constant (.dynamic e.localName))) := by
  rw [literalKinds, List.mem_append, not_or] at h
  rw [readExpression_of_named aliases hname, if_neg (by simpa using h.1), if_neg (by simpa using h.2)]

theorem readExpression_of_collection {xs : List Expression} (hname : e.name.stray? = none)
    (hkind : e.localName = "Collection") (h : readElements aliases e.children = pure xs) :
    readExpression aliases e = pure (some (.collection xs)) := by
  rw [readExpression_of_not_literal aliases hname (by rw [hkind]; decide), if_pos hkind, h, map_pure]

theorem readExpression_of_record {ps : List (String × Option Expression)} (hname : e.name.stray? = none)
    (hkind : e.localName = "Record") (h : readProperties aliases e.children = pure ps) :
    readExpression aliases e = pure (some (.record (nonEmpty? (aliases.reference e "Type")) ps)) := by
  rw [readExpression_of_not_literal aliases hname (by rw [hkind]; decide), if_neg (by rw [hkind]; decide), if_pos hkind,
    h, map_pure]

theorem readExpression_of_skipped (h : IsAnnotation e) : readExpression aliases e = pure none := by
  have hkinds : ∀ k ∈ annotationElements, k ∉ literalKinds ∧ k ≠ "Collection" ∧ k ≠ "Record" := by decide
  obtain ⟨hliteral, hcollection, hrecord⟩ := hkinds _ h.2
  rw [readExpression_of_not_literal aliases h.1 hliteral, if_neg hcollection, if_neg hrecord,
    if_pos (by simpa using h.2)]

theorem readExpression_of_dynamic (hname : e.name.stray? = none) (h : e.localName ∉ knownElements) :
    readExpression aliases e = pure (some (.constant (.dynamic e.localName))) := by
  simp only [knownElements, List.mem_append, List.mem_cons, List.not_mem_nil, or_false, not_or] at h
  obtain ⟨⟨hliteral, hcollection, hrecord⟩, hskipped⟩ := h
  rw [readExpression_of_not_literal aliases hname hliteral, if_neg hcollection, if_neg hrecord,
    if_neg (by simpa using hskipped)]

/-- What is found at one key alone is found first. -/
theorem findSome?_of_only {f : String → Option String} {ks : List String} {key value : String} (hmem : key ∈ ks)
    (hvalue : f key = some value) (honly : ∀ k ∈ ks, k ≠ key → f k = none) :
    (ks.findSome? fun k => (f k).map (k, ·)) = some (key, value) := by
  induction ks with
  | nil => cases hmem
  | cons k ks ih =>
      rw [List.findSome?_cons]
      by_cases hk : k = key
      · subst hk
        rw [hvalue]
        rfl
      · rw [honly k List.mem_cons_self hk]
        exact ih ((List.mem_cons.1 hmem).resolve_left (Ne.symm hk)) fun j hj => honly j (List.mem_cons_of_mem _ hj)

theorem findSome?_of_none {f : String → Option String} {ks : List String} (hnone : ∀ k ∈ ks, f k = none) :
    (ks.findSome? fun k => (f k).map (k, ·)) = none :=
  List.findSome?_eq_none_iff.2 fun k hk => by rw [hnone k hk]; rfl

theorem disjoint_kinds : ∀ k ∈ pathKinds, k ∉ constantKinds := by decide

/-- The value that an element holds as its only attribute for values. -/
theorem valueAttribute?_of_only (hvalue : e.attribute? kind = some text)
    (honly : ∀ k ∈ literalKinds, k ≠ kind → e.attribute? k = none) (h : literalOf? kind text = some x) :
    valueAttribute? e = some (pure (some x)) := by
  unfold literalOf? at h
  unfold valueAttribute?
  split at h
  · next hkind =>
      have hmem : kind ∈ constantKinds := by simpa using hkind
      obtain ⟨c, hc, rfl⟩ := Option.map_eq_some_iff.1 h
      rw [findSome?_of_only hmem hvalue fun k hk => honly k (List.mem_append_left _ hk)]
      dsimp only
      rw [literal_readConstant hc]
      rfl
  · split at h
    · next hkind =>
        have hmem : kind ∈ pathKinds := by simpa using hkind
        obtain rfl := Option.some.inj h
        have hconstants : ∀ k ∈ constantKinds, e.attribute? k = none := fun k hk =>
          honly k (List.mem_append_left _ hk) fun he => disjoint_kinds kind hmem (he ▸ hk)
        rw [findSome?_of_none hconstants,
          findSome?_of_only hmem hvalue fun k hk => honly k (List.mem_append_right _ hk)]
        rfl
    · cases h

theorem valueAttribute?_of_none (hnone : ∀ k ∈ literalKinds, e.attribute? k = none) : valueAttribute? e = none := by
  unfold valueAttribute?
  rw [findSome?_of_none fun k hk => hnone k (List.mem_append_left _ hk),
    findSome?_of_none fun k hk => hnone k (List.mem_append_right _ hk)]
  rfl

-- The recursion follows the reading, over the elements and not over the expressions: an annotation is passed over
-- while the expression stays the same.
mutual

/-- The expression that an element writes is read. -/
theorem readExpression_of_writes (aliases : Aliases) : ∀ (e : Element) (x : Expression), Writes aliases x e →
    readExpression aliases e = pure (some x)
  | .mk n as t cs, x, h => by
      cases h with
      | literal hname h => exact readExpression_of_literal hname h
      | dynamic hname hkind h =>
          subst hkind
          exact readExpression_of_dynamic hname h
      | collection hname hkind h =>
          exact readExpression_of_collection hname hkind (readElements_of_interspersed aliases cs _ h)
      | record hname hkind htype h =>
          rw [← htype]
          exact readExpression_of_record hname hkind (readProperties_of_interspersed aliases cs _ h)

theorem readElements_of_interspersed (aliases : Aliases) : ∀ (cs : List Element) (xs : List Expression),
    Interspersed (Writes aliases) xs cs → readElements aliases cs = pure xs
  | [], xs, h => by
      cases h
      rfl
  | c :: cs, xs, h => by
      rw [readElements]
      cases h with
      | skip ha h =>
          rw [readExpression_of_skipped ha, pure_bind, readElements_of_interspersed aliases cs _ h, pure_bind]
          rfl
      | cons hc h =>
          rw [readExpression_of_writes aliases c _ hc, pure_bind, readElements_of_interspersed aliases cs _ h, pure_bind]
          rfl

theorem readProperties_of_interspersed (aliases : Aliases) : ∀ (cs : List Element)
    (ps : List (String × Option Expression)), Interspersed (WritesProperty aliases) ps cs →
      readProperties aliases cs = pure ps
  | [], ps, h => by
      cases h
      rfl
  | c :: cs, ps, h => by
      rw [readProperties]
      cases h with
      | skip ha h =>
          have hother : ∀ k ∈ annotationElements, k ≠ "PropertyValue" := by decide
          rw [look_of_named ha.1, pure_bind, if_neg (hother _ ha.2), readProperties_of_interspersed aliases cs _ h]
      | cons hc h =>
          obtain ⟨hname, hkind, hproperty, hvalue⟩ := hc
          rw [look_of_named hname, pure_bind, if_pos hkind, readValue_of_holds aliases c _ hvalue, pure_bind,
            readProperties_of_interspersed aliases cs _ h, pure_bind, hproperty]

/-- The value that an element holds is read. -/
theorem readValue_of_holds (aliases : Aliases) : ∀ (e : Element) (value : Option Expression), Holds aliases value e →
    readValue aliases e = pure value
  | .mk n as t cs, value, h => by
      rw [readValue]
      cases h with
      | byAttribute hvalue honly h _ => rw [valueAttribute?_of_only hvalue honly h]
      | byChild hnone h =>
          rw [valueAttribute?_of_none hnone]
          exact readFirst_of_interspersed aliases cs value h

theorem readFirst_of_interspersed (aliases : Aliases) : ∀ (cs : List Element) (value : Option Expression),
    Interspersed (Writes aliases) value.toList cs → readFirst aliases cs = pure value
  | [], value, h => by
      cases value with
      | none => rfl
      | some x => cases h
  | c :: cs, value, h => by
      rw [readFirst]
      cases value with
      | none =>
          cases h with
          | skip ha h => rw [readExpression_of_skipped ha, pure_bind, readFirst_of_interspersed aliases cs none h]
      | some x =>
          cases h with
          | skip ha h => rw [readExpression_of_skipped ha, pure_bind, readFirst_of_interspersed aliases cs (some x) h]
          | cons hc _ => rw [readExpression_of_writes aliases c _ hc, pure_bind]

end

end Reading

/-! ## The plain way writes the expression -/

section Plain

variable {aliases : Aliases} {space : String}

theorem stray?_of_proper {kind : String} (hspace : '\x7d' ∉ space.toList) (hkind : ':' ∉ kind.toList) :
    (Name.mk space kind).stray? = none := by
  rw [Name.stray?, Text.cutFirst_eq_none_iff.2 hspace]
  simp [hkind]

/-- Names of constants and paths have no colon. -/
theorem colon_notMem_of_literal {kind : String} (h : kind ∈ literalKinds) : ':' ∉ kind.toList := by
  revert kind
  decide

/-! ### Constants and paths -/

theorem literalOf?_of_constant {kind text : String} {c : Constant} (hkind : kind ∈ constantKinds)
    (h : readConstant kind text = .ok c) : literalOf? kind text = some (.constant c) := by
  rw [literalOf?, if_pos (by simpa using hkind), h]
  rfl

theorem literalOf?_of_path {kind text : String} (hkind : kind ∈ pathKinds) :
    literalOf? kind text = some (readPath kind text) := by
  rw [literalOf?, if_neg (by simpa using disjoint_kinds kind hkind), if_pos (by simpa using hkind)]

/-- The text of a constant that is told by it is read back; what is not evaluated has no text. -/
theorem IsWritableConstant.readConstant_or_dynamic {c : Constant} (h : IsWritableConstant c) :
    c.kind ∈ constantKinds ∧ readConstant c.kind (scalarText c.value) = .ok c ∨
      c = .dynamic c.kind ∧ c.kind ∉ knownElements ∧ ':' ∉ c.kind.toList := by
  have hkinds : Constant.boolKind ∈ constantKinds ∧ Constant.intKind ∈ constantKinds := by decide
  obtain ⟨kind, value⟩ := c
  cases value with
  | bool b =>
      obtain rfl : kind = Constant.boolKind := h
      refine .inl ⟨hkinds.1, ?_⟩
      dsimp only [scalarText]
      rw [readConstant, if_pos rfl, Text.trim_toString_bool, Literal.bool_toString]
      rfl
  | int n =>
      obtain ⟨hkind, hdigits⟩ := h
      obtain rfl : kind = Constant.intKind := hkind
      refine .inl ⟨hkinds.2, ?_⟩
      dsimp only [scalarText]
      rw [readConstant, if_neg (by decide), if_pos rfl, Text.trim_toString, Literal.int_toString hdigits]
      rfl
  | float _ => exact h.elim
  | text s =>
      obtain ⟨hkind, hother, hblanks⟩ := h
      simp only [List.mem_cons, List.not_mem_nil, or_false, not_or] at hother
      refine .inl ⟨hkind, ?_⟩
      dsimp only [scalarText]
      rw [readConstant, if_neg hother.1, if_neg hother.2.1, if_neg hother.2.2]
      by_cases hstring : kind = "String"
      · rw [if_pos hstring]
        rfl
      · rw [if_neg hstring, hblanks.resolve_left hstring]
        rfl
  | absent => exact .inr ⟨rfl, h⟩

theorem IsWritablePath.readPath_pathText {kind : String} {segments : List String} (h : IsWritablePath kind segments) :
    readPath kind (pathText segments) = .path kind segments := by
  rw [readPath, pathText, pathSegments_intercalate (fun s hs => (h.parts s hs).1) (fun s hs => (h.parts s hs).2) h.trimmed]

/-! ### What holds a value -/

/-- The attributes of an element are found by their names. -/
theorem attribute?_mk_map (n : Name) (attributes : List (String × String)) (t : String) (cs : List Element)
    (key : String) :
    (Element.mk n (attributes.map fun a => ⟨⟨"", a.1⟩, a.2⟩) t cs).attribute? key = attributes.lookup key := by
  induction attributes with
  | nil => rfl
  | cons a attributes ih =>
      rw [Element.attribute?, Element.attributeIn?, Element.attributes] at ih ⊢
      rw [List.lookup_cons]
      by_cases h : key = a.1
      · have heq : (key == a.1) = true := by simpa using h
        rw [heq]
        simp [h]
      · have hne : (key == a.1) = false := by simpa using h
        rw [hne, ← ih]
        simp [Ne.symm h]

/-- An element without attributes for values holds what its child element writes. -/
theorem holds_holderElement {name : String} {attributes : List (String × String)} {value : Option Expression}
    {child : Option Element} (hattributes : ∀ a ∈ attributes, a.1 ∉ literalKinds)
    (h : Interspersed (Writes aliases) value.toList child.toList) :
    Holds aliases value (holderElement space name attributes child) := by
  refine .byChild (fun k hk => ?_) h
  rw [holderElement, attribute?_mk_map, List.lookup_eq_none_iff]
  intro a ha
  have hne : k ≠ a.1 := fun he => hattributes a ha (he ▸ hk)
  simpa using hne

theorem writesProperty_holderElement {name : String} {value : Option Expression} {child : Option Element}
    (hspace : '\x7d' ∉ space.toList) (h : Interspersed (Writes aliases) value.toList child.toList) :
    WritesProperty aliases (name, value) (holderElement space "PropertyValue" [("Property", name)] child) := by
  have hproperty : ∀ a ∈ [("Property", name)], a.1 ∉ literalKinds := by
    intro a ha
    obtain rfl := List.mem_singleton.1 ha
    exact show "Property" ∉ literalKinds by decide
  refine ⟨stray?_of_proper hspace (by decide), rfl, ?_, holds_holderElement hproperty h⟩
  rw [Element.attributeD, holderElement, attribute?_mk_map]
  rfl

theorem reference_of_writable {type : Option String} (h : IsWritableType aliases type) (n : Name) (t : String)
    (cs : List Element) :
    nonEmpty? (aliases.reference (.mk n (type.toList.map (⟨⟨"", "Type"⟩, ·⟩)) t cs) "Type") = type := by
  cases type with
  | none => rfl
  | some type =>
      obtain ⟨hne, hqualify⟩ := h type rfl
      change nonEmpty? (aliases.qualify type) = some type
      rw [hqualify, nonEmpty?, if_neg hne]

/-! ### All expressions -/

mutual

/-- An expression is written by its element. -/
theorem writes_elementOf (hspace : '\x7d' ∉ space.toList) : ∀ x : Expression, IsWritable aliases x →
    Writes aliases x (elementOf space x)
  | .constant c, h => by
      rw [IsWritable] at h
      rw [elementOf]
      obtain ⟨hkind, hread⟩ | ⟨hdynamic, hunknown, hcolon⟩ := h.readConstant_or_dynamic
      · have hproper := colon_notMem_of_literal (List.mem_append_left _ hkind)
        exact .literal (stray?_of_proper hspace hproper) (literalOf?_of_constant hkind hread)
      · rw [hdynamic]
        exact .dynamic (stray?_of_proper hspace hcolon) rfl hunknown
  | .path kind segments, h => by
      rw [IsWritable] at h
      rw [elementOf]
      have hkind := h.mem_kinds
      have hproper := colon_notMem_of_literal (List.mem_append_right _ hkind)
      refine .literal (stray?_of_proper hspace hproper) ?_
      rw [← h.readPath_pathText]
      exact literalOf?_of_path hkind
  | .collection xs, h => by
      rw [IsWritable] at h
      rw [elementOf]
      exact .collection (stray?_of_proper hspace (by decide)) rfl (interspersed_elementsOf hspace xs h)
  | .record type ps, h => by
      rw [IsWritable] at h
      rw [elementOf]
      exact .record (stray?_of_proper hspace (by decide)) rfl (reference_of_writable h.1 _ _ _)
        (interspersed_propertyElements hspace ps h.2)

theorem interspersed_elementsOf (hspace : '\x7d' ∉ space.toList) : ∀ xs : List Expression, AreWritable aliases xs →
    Interspersed (Writes aliases) xs (elementsOf space xs)
  | [], _ => .nil
  | x :: xs, h => by
      rw [AreWritable] at h
      rw [elementsOf]
      exact .cons (writes_elementOf hspace x h.1) (interspersed_elementsOf hspace xs h.2)

theorem interspersed_propertyElements (hspace : '\x7d' ∉ space.toList) : ∀ ps : List (String × Option Expression),
    HasWritable aliases ps → Interspersed (WritesProperty aliases) ps (propertyElements space ps)
  | [], _ => .nil
  | (name, none) :: ps, h => by
      rw [HasWritable] at h
      rw [propertyElements]
      exact .cons (writesProperty_holderElement hspace .nil) (interspersed_propertyElements hspace ps h)
  | (name, some x) :: ps, h => by
      rw [HasWritable] at h
      rw [propertyElements]
      exact .cons (writesProperty_holderElement hspace (.cons (writes_elementOf hspace x h.1) .nil))
        (interspersed_propertyElements hspace ps h.2)

end

theorem holds_annotationOf {term : String} {value : Option Expression} {qualifier : Option String}
    (hspace : '\x7d' ∉ space.toList) (h : ∀ x ∈ value, IsWritable aliases x) :
    Holds aliases value (annotationOf space term value qualifier) := by
  refine holds_holderElement ?_ ?_
  · have hnames : "Term" ∉ literalKinds ∧ "Qualifier" ∉ literalKinds := by decide
    intro a ha
    rcases List.mem_cons.1 ha with rfl | ha
    · exact hnames.1
    · obtain ⟨q, _, rfl⟩ := List.mem_map.1 ha
      exact hnames.2
  · cases value with
    | none => exact .nil
    | some x => exact .cons (writes_elementOf hspace x (h x rfl)) .nil

end Plain

end EntityModel.Csdl
