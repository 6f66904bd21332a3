import EntityModel.Proofs.Csdl.Encoding
import EntityModel.Proofs.Csdl.Expression
import EntityModel.Proofs.Csdl.Insertion
import EntityModel.Proofs.Csdl.Pruning

/-!
# Literals in a document

Truth values and integers stand in a document as flags, as values of enumeration members and as constants, each of them in
an attribute or as the text of an element. `documentLiterals` lists those that are evaluated while a document is read. What
relates the list to the reading is `Reading.Evaluates`: a reading that succeeds has accepted all its literals, and one that
stops at a truth value or an integer has one that is outside its grammar. It is kept step by step (`Evaluates.bind`), and so
there is one list for each reader and one lemma that relates the two. In the end a document with a literal outside its
grammar is refused, and only such a literal gives the reason (`respectsGrammars_readRoot`).
-/

namespace EntityModel

/-- The fault is in a truth value or in an integer. -/
def LiteralFault.isExact : LiteralFault → Bool
  | .boolean _ | .integer _ | .integerTooLong _ => true
  | .float _ | .elementName _ => false

namespace Csdl

open Xml (Element)
open Edm (Constant Expression OperationKind StructuredKind)

/-! ## Literals -/

/-- What a text is read as. -/
inductive LiteralKind where
  | truth
  | integer
  /-- An integer that may be left blank. -/
  | optionalInteger
  deriving DecidableEq, Repr

/-- A text that is read as a literal. -/
structure LiteralText where
  kind : LiteralKind
  text : String
  deriving DecidableEq, Repr

/-- A text is in the grammar of its kind. -/
def LiteralText.IsAccepted (l : LiteralText) : Prop :=
  match l.kind with
  | .truth => ∃ b, String.ofList (Text.lower (Text.trim l.text).toList) ∈ Literal.words b
  | .integer => ∃ i, Numeral.Denotes (Text.trim l.text).toList i
  | .optionalInteger => Text.isBlankText l.text = true ∨ ∃ i, Numeral.Denotes (Text.trim l.text).toList i

section Literals

variable {text : String}

theorem exists_bool_iff : (∃ b, Literal.bool text = .ok b) ↔ LiteralText.IsAccepted ⟨.truth, text⟩ :=
  exists_congr fun _ => Literal.bool_eq_ok_iff

theorem exists_int_iff : (∃ i, Literal.int text = .ok i) ↔ LiteralText.IsAccepted ⟨.integer, text⟩ :=
  exists_congr fun _ => Literal.int_eq_ok_iff

theorem exists_int?_iff : (∃ i, Literal.int? (some text) = .ok i) ↔ LiteralText.IsAccepted ⟨.optionalInteger, text⟩ := by
  rw [Option.exists, Literal.int?_eq_none_iff]
  refine or_congr (by simp) (exists_congr fun i => ?_)
  simp [Literal.int?_eq_some_iff]

end Literals

/-! ## Readings that evaluate literals -/

namespace Reading

variable {α β : Type} {x : Reading α} {f : α → Reading β} {ls ms : List LiteralText}

/-- A reading evaluates some literals: if it succeeds, then all of them have been accepted, and if it stops at a truth value
or an integer, then one of them is not. No fault in a literal is put off. -/
structure Evaluates (x : Reading α) (ls : List LiteralText) : Prop where
  accepted : x.Ensures fun _ => ∀ l ∈ ls, l.IsAccepted
  refused : ∀ fault, x.outcome = .error (.literal fault) → fault.isExact = true → ∃ l ∈ ls, ¬ l.IsAccepted
  noted : x.NotesOnly fun n => ∀ fault, n.deferred? ≠ some (.literal fault)

theorem evaluates_pure (a : α) : (pure a : Reading α).Evaluates [] where
  accepted := ensures_pure nofun
  refused fault h _ := by
    rw [outcome_pure] at h
    cases h
  noted := notesOnly_pure a

theorem evaluates_fault {f : MetadataFault} (h : ∀ l, f = .literal l → l.isExact = false) :
    (fault f : Reading α).Evaluates [] where
  accepted a ha := by
    obtain ⟨notes, ha⟩ := ha
    cases ha
  refused l hl hexact := by
    rw [h l (Except.error.inj hl)] at hexact
    cases hexact
  noted := notesOnly_fault f

/-- A fault in something else than a truth value or an integer. -/
theorem evaluates_fault_literal {f : LiteralFault} (h : f.isExact = false) :
    (fault (.literal f) : Reading α).Evaluates [] :=
  evaluates_fault fun _ hl => MetadataFault.literal.inj hl ▸ h

theorem evaluates_note {n : Note} (h : ∀ fault, n.deferred? ≠ some (.literal fault)) : (note n).Evaluates [] where
  accepted := fun _ _ => nofun
  refused fault h _ := by cases h
  noted := notesOnly_note h

/-- A name that strays is no literal. -/
theorem evaluates_look (e : Element) : (look e).Evaluates [] := by
  unfold look
  split
  · exact evaluates_fault_literal rfl
  · exact evaluates_pure ()

/-- What is read by a grammar evaluates one literal. -/
theorem evaluates_literal {r : Except LiteralFault α} {l : LiteralText} (h : (∃ a, r = .ok a) ↔ l.IsAccepted) :
    (literal r).Evaluates [l] where
  accepted a ha := by
    cases hr : r with
    | ok b => exact List.forall_mem_singleton.2 (h.1 ⟨b, hr⟩)
    | error f =>
        rw [hr] at ha
        obtain ⟨notes, ha⟩ := ha
        cases ha
  refused fault hfault _ := by
    refine ⟨l, List.mem_singleton_self l, fun hl => ?_⟩
    obtain ⟨a, rfl⟩ := h.2 hl
    cases hfault
  noted := notesOnly_literal r

/-- What another reading goes on with is evaluated behind it. -/
theorem Evaluates.bind (hx : x.Evaluates ls) (hf : ∀ a, x.Gives a → (f a).Evaluates ms) :
    (x >>= f).Evaluates (ls ++ ms) where
  accepted b hb := by
    obtain ⟨a, ha, hb⟩ := gives_bind_iff.1 hb
    exact List.forall_mem_append.2 ⟨hx.accepted a ha, (hf a ha).accepted b hb⟩
  refused fault h hexact := by
    rcases outcome_bind_eq_error_iff.1 h with h | ⟨a, notes, ha, h⟩
    · obtain ⟨l, hl, hnot⟩ := hx.refused fault h hexact
      exact ⟨l, List.mem_append_left _ hl, hnot⟩
    · obtain ⟨l, hl, hnot⟩ := (hf a ⟨notes, ha⟩).refused fault h hexact
      exact ⟨l, List.mem_append_right _ hl, hnot⟩
  noted b notes h := by
    obtain ⟨a, before, more, ha, hmore, rfl⟩ := outcome_bind_eq_ok_iff.1 h
    exact List.forall_mem_append.2 ⟨hx.noted a before ha, (hf a ⟨before, ha⟩).noted b more hmore⟩

/-- What is made of a part in the end evaluates nothing more. -/
theorem Evaluates.bind_pure (hx : x.Evaluates ls) (g : α → β) : (x >>= fun a => pure (g a)).Evaluates ls := by
  rw [← List.append_nil ls]
  exact hx.bind fun a _ => evaluates_pure (g a)

/-- Nothing is evaluated where an element is only looked at. -/
theorem evaluates_look_bind {e : Element} {f : Unit → Reading α} (h : (f ()).Evaluates ls) :
    (look e >>= f).Evaluates ls :=
  (evaluates_look e).bind fun _ _ => h

theorem Evaluates.map (hx : x.Evaluates ls) (g : α → β) : (g <$> x).Evaluates ls := by
  rw [map_eq_pure_bind]
  exact hx.bind_pure g

/-- The literals of a visit are those of the members one after another. -/
theorem evaluates_mapM {as : List α} {lits : α → List LiteralText} (h : ∀ a ∈ as, (f a).Evaluates (lits a)) :
    (as.mapM f).Evaluates (as.flatMap lits) := by
  induction as with
  | nil => exact evaluates_pure []
  | cons a as ih =>
      rw [List.mapM_cons, List.flatMap_cons]
      refine (h a List.mem_cons_self).bind fun b _ => ?_
      exact (ih fun a' ha' => h a' (List.mem_cons_of_mem a ha')).bind_pure fun bs => b :: bs

theorem evaluates_inspect (es : List Element) : (inspect es).Evaluates [] := by
  induction es with
  | nil => exact evaluates_pure ()
  | cons e es ih => exact (evaluates_look e).bind fun _ _ => ih

/-- A child element is read only if it has one of some names. -/
theorem evaluates_of_named {names : List String} {c : Element} {y : Reading α} (hx : x.Evaluates ls) (hy : y.Evaluates []) :
    (if names.contains c.localName then x else y).Evaluates (if c.localName ∈ names then ls else []) := by
  by_cases hc : c.localName ∈ names
  · rwa [if_pos (List.contains_iff_mem.2 hc), if_pos hc]
  · rwa [if_neg (by simpa using hc), if_neg hc]

theorem evaluates_children {names : List String} {read : Element → Reading α} {e : Element}
    {lits : Element → List LiteralText} (h : ∀ c, (read c).Evaluates (lits c)) :
    (children names read e).Evaluates ((e.childrenNamed names).flatMap lits) := by
  have hvisit : ∀ c ∈ e.children,
      (look c >>= fun _ => if names.contains c.localName then some <$> read c else pure none).Evaluates
        (if c.localName ∈ names then lits c else []) :=
    fun c _ => evaluates_look_bind (evaluates_of_named ((h c).map some) (evaluates_pure none))
  rw [flatMap_childrenNamed]
  exact (evaluates_mapM hvisit).bind_pure fun parts => parts.filterMap id

/-- Child elements that are told by their attributes alone. -/
theorem evaluates_children_pure {names : List String} {read : Element → Reading α} {e : Element}
    (h : ∀ c, (read c).Evaluates []) : (children names read e).Evaluates [] := by
  have hnone : (e.childrenNamed names).flatMap (fun _ => ([] : List LiteralText)) = [] := by simp
  rw [← hnone]
  exact evaluates_children h

end Reading

open Reading

/-! ## Flags -/

/-- The texts of those flags among some that are given. -/
def flagLiterals (names : List String) (e : Element) : List LiteralText :=
  names.filterMap fun name => (e.attribute? name).map (⟨.truth, ·⟩)

theorem evaluates_flag (fallback : Bool) (e : Element) (name : String) :
    (flag fallback e name).Evaluates (flagLiterals [name] e) := by
  rw [flag, flagLiterals, List.filterMap_cons, List.filterMap_nil]
  cases e.attribute? name with
  | none => exact evaluates_pure fallback
  | some text =>
      rw [Option.map_some, Literal.boolD]
      exact evaluates_literal exists_bool_iff

theorem flagLiterals_cons {name : String} {names : List String} {e : Element} :
    flagLiterals (name :: names) e = flagLiterals [name] e ++ flagLiterals names e := by
  rw [flagLiterals, flagLiterals, flagLiterals, ← List.filterMap_append]
  rfl

/-- One flag is read before the others. -/
theorem evaluates_flag_bind {α : Type} {fallback : Bool} {e : Element} {name : String} {names : List String}
    {f : Bool → Reading α} {ls : List LiteralText} (h : ∀ b, (f b).Evaluates (flagLiterals names e ++ ls)) :
    (flag fallback e name >>= f).Evaluates (flagLiterals (name :: names) e ++ ls) := by
  rw [flagLiterals_cons, List.append_assoc]
  exact (evaluates_flag fallback e name).bind fun b _ => h b

/-! ## Constants and expressions -/

/-- The literal that a constant of some kind is. -/
def constantLiterals (kind text : String) : List LiteralText :=
  if kind = Constant.boolKind then [⟨.truth, text⟩]
  else if kind = Constant.intKind then [⟨.integer, text⟩]
  else []

/-- A float follows a grammar of its own. -/
theorem isExact_of_float {text : String} {f : LiteralFault} (h : Literal.float text = .error f) : f.isExact = false := by
  unfold Literal.float at h
  split at h
  · cases h
  · obtain rfl := Except.error.inj h
    rfl

theorem evaluates_constant (kind text : String) :
    (literal (readConstant kind text)).Evaluates (constantLiterals kind text) := by
  rw [constantLiterals]
  by_cases hbool : kind = Constant.boolKind
  · have hread : readConstant kind text = (Literal.bool (Text.trim text)).map .bool := if_pos hbool
    rw [if_pos hbool, hread]
    refine evaluates_literal ?_
    simp only [exists_map_eq_ok_iff, exists_bool_iff, LiteralText.IsAccepted, Text.trim_trim]
  · rw [if_neg hbool]
    by_cases hint : kind = Constant.intKind
    · have hread : readConstant kind text = (Literal.int (Text.trim text)).map .int :=
        (if_neg hbool).trans (if_pos hint)
      rw [if_pos hint, hread]
      refine evaluates_literal ?_
      simp only [exists_map_eq_ok_iff, exists_int_iff, LiteralText.IsAccepted, Text.trim_trim]
    · rw [if_neg hint, readConstant, if_neg hbool, if_neg hint]
      split
      · cases hfloat : Literal.float (Text.trim text) with
        | ok x => exact evaluates_pure _
        | error f => exact evaluates_fault_literal (isExact_of_float hfloat)
      · split
        · exact evaluates_pure _
        · exact evaluates_pure _

mutual

/-- The literals in an expression. -/
def expressionLiterals : Element → List LiteralText
  | .mk name _ text children =>
      if name.localName = "Collection" then elementLiterals children
      else if name.localName = "Record" then recordLiterals children
      else constantLiterals name.localName text

/-- The literals in the expressions of a collection. -/
def elementLiterals : List Element → List LiteralText
  | [] => []
  | c :: cs => expressionLiterals c ++ elementLiterals cs

/-- The literals in the properties of a record. -/
def recordLiterals : List Element → List LiteralText
  | [] => []
  | c :: cs => (if c.localName = "PropertyValue" then valueLiterals c else []) ++ recordLiterals cs

/-- The literals in the value that an element gives. An attribute wins, and with a path there is none. -/
def valueLiterals : Element → List LiteralText
  | .mk name attributes text children =>
      match literalKinds.findSome? fun k => ((Element.mk name attributes text children).attribute? k).map (k, ·) with
      | some (k, s) => constantLiterals k s
      | none => firstLiterals children

/-- The literals in the first expression, which stands behind annotations. -/
def firstLiterals : List Element → List LiteralText
  | [] => []
  | c :: cs => expressionLiterals c ++ if c.localName ∈ annotationElements then firstLiterals cs else []

end

section Expressions

variable {aliases : Aliases} {e : Element} {kind text : String} {value : Option Expression}

/-- Only constants hold literals. -/
theorem constantLiterals_of_notMem (h : kind ∉ constantKinds) : constantLiterals kind text = [] := by
  have hbool : kind ≠ Constant.boolKind := by
    rintro rfl
    exact h (by decide)
  have hint : kind ≠ Constant.intKind := by
    rintro rfl
    exact h (by decide)
  rw [constantLiterals, if_neg hbool, if_neg hint]

/-- The attribute that is read as a value is the one whose literal is listed. -/
theorem evaluates_valueAttribute {x : Reading (Option Expression)} (h : valueAttribute? e = some x) :
    ∃ kind text, (literalKinds.findSome? fun k => (e.attribute? k).map (k, ·)) = some (kind, text) ∧
      x.Evaluates (constantLiterals kind text) := by
  unfold valueAttribute? at h
  rw [literalKinds, List.findSome?_append]
  split at h
  · next kind text hfound =>
      obtain rfl := Option.some.inj h
      exact ⟨kind, text, by rw [hfound]; rfl, ((evaluates_constant kind text).map _).map _⟩
  · next hnone =>
      obtain ⟨⟨kind, text⟩, hfound, rfl⟩ := Option.map_eq_some_iff.1 h
      obtain ⟨k, hk, hkind⟩ := List.exists_of_findSome?_eq_some hfound
      obtain ⟨_, -, hpair⟩ := Option.map_eq_some_iff.1 hkind
      obtain ⟨rfl, rfl⟩ := Prod.mk.inj hpair
      refine ⟨k, _, by rw [hnone, hfound]; rfl, ?_⟩
      rw [constantLiterals_of_notMem (disjoint_kinds k hk)]
      exact evaluates_pure _

theorem findSome?_of_valueAttribute (h : valueAttribute? e = none) :
    (literalKinds.findSome? fun k => (e.attribute? k).map (k, ·)) = none := by
  unfold valueAttribute? at h
  rw [literalKinds, List.findSome?_append]
  split at h
  · cases h
  · next hnone =>
      rw [hnone, Option.none_or]
      exact Option.map_eq_none_iff.1 h

/-- Annotations alone are no expressions. -/
theorem eq_none_iff_of_gives (h : (readExpression aliases e).Gives value) :
    value = none ↔ e.localName ∈ annotationElements := by
  have hname : e.name.stray? = none := by
    obtain ⟨n, as, t, cs⟩ := e
    rw [readExpression] at h
    obtain ⟨_, hlook, -⟩ := gives_bind_iff.1 h
    exact look_ensures _ hlook
  by_cases hskipped : e.localName ∈ annotationElements
  · rw [readExpression_of_skipped ⟨hname, hskipped⟩] at h
    exact iff_of_true (gives_pure_iff.1 h).symm hskipped
  · refine iff_of_false ?_ hskipped
    rintro rfl
    rw [readExpression_of_named aliases hname] at h
    split at h
    · simp at h
    · split at h
      · simp at h
      · split at h
        · simp at h
        · split at h
          · simp at h
          · simp [hskipped] at h

-- The recursion follows the reading. Which elements are read behind the first one depends on what this one gives, and that
-- is why `Evaluates.bind` may take the part before for given.
mutual

theorem evaluates_readExpression (aliases : Aliases) : ∀ e, (readExpression aliases e).Evaluates (expressionLiterals e)
  | .mk n as t cs => by
      rw [readExpression, expressionLiterals]
      refine evaluates_look_bind ?_
      by_cases hcollection : n.localName = "Collection"
      · rw [hcollection]
        exact (evaluates_readElements aliases cs).map _
      · by_cases hrecord : n.localName = "Record"
        · rw [hrecord]
          exact (evaluates_readProperties aliases cs).map _
        · rw [if_neg hcollection, if_neg hrecord, if_neg hcollection, if_neg hrecord]
          split
          · exact ((evaluates_constant _ t).map _).map _
          · next hkind =>
              rw [constantLiterals_of_notMem (by simpa using hkind)]
              split
              · exact evaluates_pure _
              · split
                · exact evaluates_pure _
                · exact evaluates_pure _

theorem evaluates_readElements (aliases : Aliases) : ∀ cs, (readElements aliases cs).Evaluates (elementLiterals cs)
  | [] => by
      rw [readElements, elementLiterals]
      exact evaluates_pure []
  | c :: cs => by
      rw [readElements, elementLiterals]
      refine (evaluates_readExpression aliases c).bind fun first _ => ?_
      exact (evaluates_readElements aliases cs).bind_pure _

theorem evaluates_readProperties (aliases : Aliases) : ∀ cs, (readProperties aliases cs).Evaluates (recordLiterals cs)
  | [] => by
      rw [readProperties, recordLiterals]
      exact evaluates_pure []
  | c :: cs => by
      rw [readProperties, recordLiterals]
      refine evaluates_look_bind ?_
      split
      · refine (evaluates_readValue aliases c).bind fun value _ => ?_
        exact (evaluates_readProperties aliases cs).bind_pure _
      · exact evaluates_readProperties aliases cs

theorem evaluates_readValue (aliases : Aliases) : ∀ e, (readValue aliases e).Evaluates (valueLiterals e)
  | .mk n as t cs => by
      rw [readValue, valueLiterals]
      split
      · next x hx =>
          obtain ⟨kind, text, hfound, hevaluates⟩ := evaluates_valueAttribute hx
          rw [hfound]
          exact hevaluates
      · next hnone =>
          rw [findSome?_of_valueAttribute hnone]
          exact evaluates_readFirst aliases cs

theorem evaluates_readFirst (aliases : Aliases) : ∀ cs, (readFirst aliases cs).Evaluates (firstLiterals cs)
  | [] => by
      rw [readFirst, firstLiterals]
      exact evaluates_pure none
  | c :: cs => by
      rw [readFirst, firstLiterals]
      refine (evaluates_readExpression aliases c).bind fun value hvalue => ?_
      -- The list asks for the name of the element, the reading for its value.
      have hskipped := eq_none_iff_of_gives hvalue
      cases value with
      | some x =>
          rw [if_neg (by simpa using hskipped)]
          exact evaluates_pure _
      | none =>
          rw [if_pos (by simpa using hskipped)]
          exact evaluates_readFirst aliases cs

end

end Expressions

/-! ## Annotations -/

/-- The literals in an annotation. Without a term it is not read. -/
def annotationLiterals (e : Element) : List LiteralText := if e.attributeD "Term" = "" then [] else valueLiterals e

/-- The literals in the annotations among the child elements. -/
def noteLiterals (e : Element) : List LiteralText := (e.childrenNamed annotationElements).flatMap annotationLiterals

section Readers

variable {ctx : Context} {aliases : Aliases} {owner space target : String} {e : Element}

theorem evaluates_readAnnotated : (readAnnotated aliases e).Evaluates (annotationLiterals e) := by
  rw [readAnnotated, annotationLiterals]
  split
  · exact evaluates_fault (by simp)
  · exact (evaluates_readValue aliases e).bind_pure _

theorem evaluates_noteAnnotations : (noteAnnotations aliases target e).Evaluates (noteLiterals e) := by
  have hvisit : ∀ c ∈ e.children,
      (look c >>= fun _ => if annotationElements.contains c.localName then
        readAnnotated aliases c >>= fun a => note (.annotated target a) else pure ()).Evaluates
        (if c.localName ∈ annotationElements then annotationLiterals c else []) := by
    refine fun c _ => evaluates_look_bind (evaluates_of_named ?_ (evaluates_pure ()))
    rw [← List.append_nil (annotationLiterals c)]
    exact evaluates_readAnnotated.bind fun a _ => evaluates_note nofun
  rw [noteLiterals, flatMap_childrenNamed]
  exact (evaluates_mapM hvisit).map _

/-! ## Types -/

def propertyLiterals (e : Element) : List LiteralText := flagLiterals ["Nullable"] e ++ noteLiterals e

/-- The literals in a navigation property. Whether it may be null is only asked where it has a type. -/
def navigationLiterals (e : Element) : List LiteralText :=
  flagLiterals ["ContainsTarget"] e ++
    ((if e.attributeD "Type" = "" then [] else flagLiterals ["Nullable"] e) ++ noteLiterals e)

def structuredLiterals (e : Element) : List LiteralText :=
  flagLiterals ["Abstract", "OpenType", "HasStream"] e ++ ((e.childrenNamed ["Property"]).flatMap propertyLiterals ++
    ((e.childrenNamed ["NavigationProperty"]).flatMap navigationLiterals ++ noteLiterals e))

/-- The value of a member of an enumeration. -/
def memberLiterals (e : Element) : List LiteralText := (e.attribute? "Value").toList.map (⟨.optionalInteger, ·⟩)

def enumLiterals (e : Element) : List LiteralText :=
  flagLiterals ["IsFlags"] e ++ ((e.childrenNamed ["Member"]).flatMap memberLiterals ++ noteLiterals e)

theorem evaluates_readProperty : (readProperty ctx owner e).Evaluates (propertyLiterals e) :=
  (evaluates_flag true e "Nullable").bind fun _ _ => evaluates_noteAnnotations.bind_pure _

theorem evaluates_readTarget {p : Edm.NavigationProperty} :
    (readTarget ctx p e).Evaluates (if e.attributeD "Type" = "" then [] else flagLiterals ["Nullable"] e) := by
  rw [readTarget]
  by_cases htype : e.attributeD "Type" = ""
  · rw [if_neg (not_not_intro htype), if_pos htype]
    dsimp only
    split
    · exact evaluates_pure _
    · exact (evaluates_note (by simp [Note.deferred?])).bind_pure _
  · rw [if_pos htype, if_neg htype]
    exact (evaluates_flag true e "Nullable").bind_pure _

theorem evaluates_readNavigation : (readNavigation ctx owner e).Evaluates (navigationLiterals e) :=
  (evaluates_flag false e "ContainsTarget").bind fun _ _ => evaluates_readTarget.bind fun _ _ =>
    evaluates_noteAnnotations.bind_pure _

theorem evaluates_readKey : (readKey e).Evaluates [] :=
  (evaluates_children_pure fun _ => evaluates_children_pure fun _ => evaluates_pure _).map _

theorem evaluates_readStructured {kind : StructuredKind} :
    (readStructured ctx space kind e).Evaluates (structuredLiterals e) := by
  refine evaluates_flag_bind fun _ => evaluates_flag_bind fun _ => evaluates_flag_bind fun _ => ?_
  refine evaluates_readKey.bind fun _ _ => (evaluates_children fun _ => evaluates_readProperty).bind fun _ _ => ?_
  refine (evaluates_children fun _ => evaluates_readNavigation).bind fun _ _ => ?_
  exact evaluates_noteAnnotations.bind_pure _

theorem evaluates_readMember : (readMember e).Evaluates (memberLiterals e) := by
  rw [readMember, memberLiterals]
  refine Evaluates.bind_pure ?_ _
  cases e.attribute? "Value" with
  | none => exact evaluates_pure none
  | some text => exact evaluates_literal exists_int?_iff

theorem evaluates_readEnum : (readEnum ctx space e).Evaluates (enumLiterals e) :=
  (evaluates_flag false e "IsFlags").bind fun _ _ => (evaluates_children fun _ => evaluates_readMember).bind fun _ _ =>
    evaluates_noteAnnotations.bind_pure _

theorem evaluates_readDefinition : (readDefinition ctx space e).Evaluates (noteLiterals e) :=
  evaluates_noteAnnotations.bind_pure _

/-! ## Operations and containers -/

def parameterLiterals (e : Element) : List LiteralText :=
  (e.childrenNamed ["Parameter"]).flatMap (flagLiterals ["Nullable"])

def operationLiterals (e : Element) : List LiteralText :=
  flagLiterals ["IsBound", "IsComposable"] e ++ parameterLiterals e

/-- The literals in an import, which are asked for only if it declares its operation itself. -/
def importLiterals (kind : OperationKind) (e : Element) : List LiteralText :=
  if e.attributeD (importAttribute kind) = "" then
    flagLiterals ["IsSideEffecting", "IsBindable", "IsComposable"] e ++ parameterLiterals e
  else []

def containerPartLiterals (e : Element) : List LiteralText :=
  match e.localName with
  | "EntitySet" | "Singleton" => noteLiterals e
  | "FunctionImport" => importLiterals .function e
  | "ActionImport" => importLiterals .action e
  | _ => []

def containerLiterals (e : Element) : List LiteralText := e.children.flatMap containerPartLiterals ++ noteLiterals e

theorem evaluates_readParameters : (readParameters ctx e).Evaluates (parameterLiterals e) :=
  evaluates_children fun c => (evaluates_flag true c "Nullable").bind_pure _

theorem evaluates_readOperation {kind : OperationKind} :
    (readOperation ctx space kind e).Evaluates (operationLiterals e) := by
  refine (evaluates_children_pure fun _ => evaluates_pure _).bind fun _ _ => ?_
  exact evaluates_flag_bind fun _ => evaluates_flag_bind fun _ => evaluates_readParameters.bind_pure _

theorem evaluates_readImportedOperation :
    (readImportedOperation ctx space e).Evaluates
      (flagLiterals ["IsSideEffecting", "IsBindable", "IsComposable"] e ++ parameterLiterals e) :=
  evaluates_flag_bind fun _ => evaluates_flag_bind fun _ => evaluates_flag_bind fun _ =>
    evaluates_readParameters.bind_pure _

theorem evaluates_readImport {kind : OperationKind} :
    (readImport ctx space kind e).Evaluates (importLiterals kind e) := by
  rw [readImport, importLiterals]
  by_cases htarget : e.attributeD (importAttribute kind) = ""
  · rw [if_neg (not_not_intro htarget), if_pos htarget]
    exact evaluates_readImportedOperation.bind_pure _
  · rw [if_pos htarget, if_neg htarget]
    exact evaluates_pure _

theorem evaluates_readContainerMember {attr : String} :
    (readContainerMember ctx owner attr e).Evaluates (noteLiterals e) :=
  evaluates_noteAnnotations.bind_pure _

theorem evaluates_readContainerPart {name : QualifiedName} :
    (readContainerPart ctx name e).Evaluates (containerPartLiterals e) := by
  refine evaluates_look_bind ?_
  split
  case h_5 =>
    rw [containerPartLiterals]
    split
    case h_5 => exact evaluates_pure none
    all_goals contradiction
  all_goals
    rename_i hname
    simp only [containerPartLiterals, hname]
  · exact evaluates_readContainerMember.map _
  · exact evaluates_readContainerMember.map _
  · exact evaluates_readImport.map _
  · exact evaluates_readImport.map _

theorem evaluates_readContainer : (readContainer ctx space e).Evaluates (containerLiterals e) :=
  (evaluates_mapM fun _ _ => evaluates_readContainerPart).bind fun _ _ => evaluates_noteAnnotations.bind_pure _

/-! ## Schemas -/

def schemaPartLiterals (e : Element) : List LiteralText :=
  match e.localName with
  | "EntityType" | "ComplexType" => structuredLiterals e
  | "EnumType" => enumLiterals e
  | "TypeDefinition" | "Annotations" => noteLiterals e
  | "Function" | "Action" => operationLiterals e
  | "EntityContainer" => containerLiterals e
  | _ => []

/-- The literals in a schema. Without a namespace it is not read. -/
def schemaLiterals (e : Element) : List LiteralText :=
  if e.attributeD "Namespace" = "" then [] else e.children.flatMap schemaPartLiterals

theorem evaluates_readSchemaPart : (readSchemaPart ctx space e).Evaluates (schemaPartLiterals e) := by
  rw [readSchemaPart]
  split
  case h_10 =>
    rw [schemaPartLiterals]
    split
    case h_9 => exact evaluates_pure none
    all_goals contradiction
  all_goals
    rename_i hname
    simp only [schemaPartLiterals, hname]
  · exact evaluates_readStructured.map _
  · exact evaluates_readStructured.map _
  · exact evaluates_readEnum.map _
  · exact evaluates_readDefinition.map _
  · exact evaluates_readOperation.map _
  · exact evaluates_readOperation.map _
  · exact evaluates_pure _
  · exact evaluates_readContainer.map _
  · exact evaluates_noteAnnotations.bind_pure _

theorem evaluates_readSchema : (readSchema ctx e).Evaluates (schemaLiterals e) := by
  rw [readSchema, schemaLiterals]
  split
  · exact evaluates_fault (by simp)
  · refine (evaluates_inspect _).bind fun _ _ => ?_
    exact (evaluates_mapM fun _ _ => evaluates_readSchemaPart).bind_pure _

end Readers

/-! ## Documents -/

/-- The literals that are evaluated in a document with a given root: those in its schemas. -/
def documentLiterals (root : Element) : List LiteralText :=
  match outline root with
  | .ok o => o.schemas.flatMap schemaLiterals
  | .error _ => []

/-- An outcome of the reading of a document respects the grammars of its literals: the document is refused if one of them is
outside its grammar, and no other truth value or integer is ever the reason. -/
structure RespectsGrammars (root : Element) (outcome : Except (Mishap MetadataFault) Edm.Graph) : Prop where
  refused : ∀ l ∈ documentLiterals root, ¬ l.IsAccepted → ∃ fault, outcome = .error (.foreseen fault)
  caused : ∀ fault, outcome = .error (.foreseen (.literal fault)) → fault.isExact = true →
    ∃ l ∈ documentLiterals root, ¬ l.IsAccepted

section Documents

variable {root : Element} {o : Outline} {l : LiteralText} {bytes : List UInt8}

theorem evaluates_schemas (o : Outline) :
    (o.schemas.mapM (readSchema o.context)).Evaluates (o.schemas.flatMap schemaLiterals) :=
  evaluates_mapM fun _ _ => evaluates_readSchema

/-- Only a note that is put off keeps schemas that are read from making a graph. -/
theorem exists_deferred_of_graph {schemas : List Edm.Schema} {notes : List Note} {fault : MetadataFault}
    (h : o.graph schemas notes = .error fault) : ∃ n ∈ notes, n.deferred? = some fault := by
  rw [Outline.graph] at h
  split at h
  · next hfound =>
      obtain rfl := Except.error.inj h
      exact List.exists_of_findSome?_eq_some hfound
  · cases h

theorem respectsGrammars_of_outline (ho : outline root = .ok o) : RespectsGrammars root (readRoot root) where
  refused l hl hnot := by
    rw [documentLiterals, ho] at hl
    cases hread : readRoot root with
    | ok g =>
        obtain ⟨schemas, notes, hschemas, -⟩ := (readRoot_eq_ok_iff ho).1 hread
        exact absurd ((evaluates_schemas o).accepted schemas ⟨notes, hschemas⟩ l hl) hnot
    | error m =>
        rw [readRoot_of_outline ho] at hread
        obtain ⟨fault, -, rfl⟩ := mapError_eq_error_iff.1 hread
        exact ⟨fault, rfl⟩
  caused fault h hexact := by
    rw [documentLiterals, ho]
    rw [readRoot_of_outline ho] at h
    obtain ⟨_, h, hfault⟩ := mapError_eq_error_iff.1 h
    obtain rfl := Mishap.foreseen.inj hfault
    rcases bind_eq_error_iff.1 h with h | ⟨⟨schemas, notes⟩, hschemas, h⟩
    · exact (evaluates_schemas o).refused fault h hexact
    · -- The schemas are read, so the fault was put off, and then it is not in a literal.
      obtain ⟨n, hn, hdeferred⟩ := exists_deferred_of_graph h
      exact absurd hdeferred ((evaluates_schemas o).noted schemas notes hschemas n hn fault)

/-- Without schemas no literal is evaluated. -/
theorem respectsGrammars_of_error {m : Mishap MetadataFault} (ho : outline root = .error m) :
    RespectsGrammars root (readRoot root) where
  refused l hl _ := by
    rw [documentLiterals, ho] at hl
    cases hl
  caused fault h _ := by
    have hread : readRoot root = .error m := by
      rw [readRoot, ho]
      rfl
    obtain rfl := Except.error.inj (hread.symm.trans h)
    cases hstray : (surroundings root).findSome? fun e => e.name.stray? with
    | some text =>
        rw [outline_of_strays hstray] at ho
        cases ho
    | none =>
        rw [outline, hstray] at ho
        dsimp only [pure_bind] at ho
        split at ho
        · cases ho
        · cases ho
        · cases ho

theorem respectsGrammars_readRoot : RespectsGrammars root (readRoot root) := by
  cases ho : outline root with
  | ok o => exact respectsGrammars_of_outline ho
  | error m => exact respectsGrammars_of_error ho

theorem respectsGrammars_readDocument (h : Xml.Document.read? bytes = some root) :
    RespectsGrammars root (readDocument bytes) := by
  rw [readDocument, h]
  split
  · exact ⟨fun _ _ _ => ⟨.empty, rfl⟩, by simp⟩
  · exact respectsGrammars_readRoot

end Documents

/-- An integer that may be left blank is none exactly if it is blank, and otherwise the number that its text denotes between
the blanks. So the decimal form of an integer is read back under any padding. A truth value is read exactly from its words.
And a document is refused wherever one of these is outside its grammar. -/
theorem literals_by_grammar :
    (∀ value : Option String, Literal.int? value = .ok none ↔ ∀ text ∈ value, Text.isBlankText text = true) ∧
    (∀ (value : Option String) (i : Int),
      Literal.int? value = .ok (some i) ↔ ∃ text ∈ value, Numeral.Denotes (Text.trim text).toList i) ∧
    (∀ (i : Int) (zeros : Nat) (before s after : List Char), (∀ c ∈ before, Text.isBlank c = true) →
      Numeral.Grouped (Numeral.paddedDigits zeros i) s → (∀ c ∈ after, Text.isBlank c = true) →
      zeros + digitCount i ≤ Numeral.digitLimit →
      Literal.int? (some (String.ofList (before ++ (Numeral.signOf i ++ s) ++ after))) = .ok (some i)) ∧
    (∀ text b, Literal.bool text = .ok b ↔ String.ofList (Text.lower (Text.trim text).toList) ∈ Literal.words b) ∧
    (∀ bytes root, Xml.Document.read? bytes = some root → RespectsGrammars root (readDocument bytes)) ∧
    (∀ text bytes root, Text.utf8? text = some bytes → Xml.Document.read? bytes = some root →
      RespectsGrammars root (readText text)) := by
  refine ⟨fun _ => Literal.int?_eq_none_iff, fun _ _ => Literal.int?_eq_some_iff, ?_, fun _ _ => Literal.bool_eq_ok_iff,
    fun _ _ => respectsGrammars_readDocument, ?_⟩
  · intro i zeros before s after hbefore hs hafter hlimit
    exact Literal.int?_padded hbefore hs hafter hlimit
  · intro text bytes root hbytes hroot
    rw [readText, hbytes]
    exact respectsGrammars_readDocument hroot

/-- A document with a member whose value has two underscores in a row. -/
def doubledDocument : String :=
  "<Schema Namespace='A'><EnumType Name='E'><Member Name='M' Value='1__0'/></EnumType></Schema>"

/-- The root of the document. -/
def doubledRoot : Element :=
  holderElement "" "Schema" [("Namespace", "A")] (some (holderElement "" "EnumType" [("Name", "E")]
    (some (holderElement "" "Member" [("Name", "M"), ("Value", "1__0")] none))))

set_option maxRecDepth 100000 in
/-- The document is refused. Next to it, an integer is read back with a zero in front, an underscore and blanks. -/
theorem literals_by_grammar_of_doubled :
    ⟨.optionalInteger, "1__0"⟩ ∈ documentLiterals doubledRoot ∧
      (∃ fault, readText doubledDocument = .error (.foreseen fault)) ∧
      Literal.int? (some (String.ofList ([' '] ++ (Numeral.signOf (-7) ++ ['0', '_', '7']) ++ ['\n']))) =
        .ok (some (-7)) := by
  obtain ⟨-, -, hpadded, -, -, htexts⟩ := literals_by_grammar
  have hmem : ⟨.optionalInteger, "1__0"⟩ ∈ documentLiterals doubledRoot := by decide +kernel
  have hnot : ¬ LiteralText.IsAccepted ⟨.optionalInteger, "1__0"⟩ := by
    intro h
    obtain ⟨i, hi⟩ := exists_int?_iff.2 h
    have hfault : Literal.int? (some "1__0") = .error (.integer "1__0") := by decide +kernel
    cases hfault.symm.trans hi
  have hrespects : RespectsGrammars doubledRoot (readText doubledDocument) :=
    htexts _ _ _ (Text.utf8?_ofList (by decide)) (Xml.Document.read?_of_tag (by decide) (by decide +kernel))
  refine ⟨hmem, hrespects.refused _ hmem hnot, ?_⟩
  exact hpadded (-7) 1 [' '] ['0', '_', '7'] ['\n'] (List.forall_mem_singleton.2 (by decide)) (.group '0' (.single '7'))
    (List.forall_mem_singleton.2 (by decide)) (by decide)

end Csdl

end EntityModel
