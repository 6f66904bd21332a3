import EntityModel.Edm.Graph
import EntityModel.Failure.Basic
import EntityModel.Xml.Tree

/-!
# Reading with notes

Reading a part of a document yields the part, or stops at the first fault. On the way it makes notes:
annotations, which belong to a target and not to the part, and navigation properties whose association is
missing, which are a fault only once everything else has been read. Notes are only ever added at the end, so the
notes of a sequence are those of its steps one after another.

The name of an element is a fault too if it is no name, but only once somebody looks at it. What is skipped is not
looked at.
-/

namespace EntityModel.Csdl

open Xml (Element)
open Edm

/-- What is noted while a part is read. -/
inductive Note where
  | annotated (target : String) (value : Annotation)
  /-- A fault that does not stop the reading. -/
  | deferred (fault : MetadataFault)

def Note.annotated? : Note → Option (String × Annotation)
  | annotated target a => some (target, a)
  | deferred _ => none

def Note.deferred? : Note → Option MetadataFault
  | annotated _ _ => none
  | deferred fault => some fault

/-- A part that has been read together with the notes made, or the fault that stopped the reading. -/
structure Reading (α : Type) where
  outcome : Except MetadataFault (α × List Note)

namespace Reading

variable {α β γ : Type}

/-- A part that is at hand. -/
protected def pure (a : α) : Reading α := ⟨.ok (a, [])⟩

/-- Goes on with the part that has been read; the notes of both come in order. -/
protected def bind (x : Reading α) (f : α → Reading β) : Reading β :=
  match x.outcome with
  | .error fault => ⟨.error fault⟩
  | .ok (a, notes) =>
      match (f a).outcome with
      | .error fault => ⟨.error fault⟩
      | .ok (b, more) => ⟨.ok (b, notes ++ more)⟩

instance : Monad Reading where
  pure := Reading.pure
  bind := Reading.bind

theorem outcome_pure (a : α) : (pure a : Reading α).outcome = .ok (a, []) := rfl

theorem bind_of_ok {x : Reading α} {a : α} {notes : List Note} (h : x.outcome = .ok (a, notes))
    (f : α → Reading β) :
    (x >>= f).outcome =
      match (f a).outcome with
      | .error fault => .error fault
      | .ok (b, more) => .ok (b, notes ++ more) := by
  change (Reading.bind x f).outcome = _
  unfold Reading.bind
  rw [h]
  cases h' : (f a).outcome <;> simp only [h']

theorem bind_of_error {x : Reading α} {fault : MetadataFault} (h : x.outcome = .error fault)
    (f : α → Reading β) : (x >>= f).outcome = .error fault := by
  change (Reading.bind x f).outcome = _
  unfold Reading.bind
  rw [h]

theorem ext_outcome {x y : Reading α} (h : x.outcome = y.outcome) : x = y := by
  cases x; cases y; exact congrArg mk h

protected theorem bind_pure (x : Reading α) : x >>= pure = x := by
  refine ext_outcome ?_
  cases h : x.outcome with
  | error _ => exact bind_of_error h _
  | ok p => simp [bind_of_ok h, outcome_pure]

protected theorem pure_bind (a : α) (f : α → Reading β) : pure a >>= f = f a := by
  refine ext_outcome ?_
  rw [bind_of_ok (outcome_pure a)]
  cases (f a).outcome <;> simp

protected theorem bind_assoc (x : Reading α) (f : α → Reading β) (g : β → Reading γ) :
    x >>= f >>= g = x >>= fun a => f a >>= g := by
  refine ext_outcome ?_
  cases h : x.outcome with
  | error _ => rw [bind_of_error (bind_of_error h f) g, bind_of_error h]
  | ok p =>
      obtain ⟨a, notes⟩ := p
      rw [bind_of_ok h]
      cases h' : (f a).outcome with
      | error fault =>
          have hx : (x >>= f).outcome = .error fault := by rw [bind_of_ok h, h']
          rw [bind_of_error hx, bind_of_error h']
      | ok q =>
          obtain ⟨b, more⟩ := q
          have hx : (x >>= f).outcome = .ok (b, notes ++ more) := by rw [bind_of_ok h, h']
          rw [bind_of_ok hx, bind_of_ok h']
          cases (g b).outcome <;> simp

instance : LawfulMonad Reading :=
  LawfulMonad.mk' Reading (fun x => Reading.bind_pure x) Reading.pure_bind Reading.bind_assoc

/-- Stops at a fault. -/
def fault (f : MetadataFault) : Reading α := ⟨.error f⟩

/-- Makes a note. -/
def note (n : Note) : Reading Unit := ⟨.ok ((), [n])⟩

def literal : Except LiteralFault α → Reading α
  | .ok a => ⟨.ok (a, [])⟩
  | .error f => ⟨.error (.literal f)⟩

/-- Reads a flag that may be left out. -/
def flag (fallback : Bool) (e : Element) (name : String) : Reading Bool :=
  literal (Literal.boolD fallback (e.attribute? name))

/-- Looks at the name of an element, which must be one. -/
def look (e : Element) : Reading Unit :=
  match e.name.stray? with
  | some text => fault (.literal (.elementName text))
  | none => pure ()

/-- Looks at the names of elements in order. -/
def inspect (es : List Element) : Reading Unit := es.forM look

/-- Reads the child elements with one of some local names, in order. On the way all child elements are looked
at. -/
def children (names : List String) (read : Element → Reading α) (e : Element) : Reading (List α) := do
  let parts ← e.children.mapM fun c => do
    look c
    if names.contains c.localName then some <$> read c else pure none
  return parts.filterMap id

end Reading

end EntityModel.Csdl
