import EntityModel.Text.Half
import EntityModel.Xml.Namespace

/-!
# From tokens to elements

The elements that are open form a stack of frames, the innermost first. A start tag opens a frame, an end
tag closes the innermost one and hands the finished element to the frame around it. Each frame knows which
namespaces its labels stand for.

The text of an element is collected as long as nothing but characters and comments has come. A child
element, a processing instruction and a reference to an entity close it.

A reference to an entity does not put the text of the entity into the tree, but that text must be
well-formed content where it is first used. It is read in a scope of its own, so the labels around the
reference are not bound in it.
-/

namespace EntityModel.Xml

/-! ## The stack -/

/-- An open element. -/
structure Frame where
  /-- Its name as written. -/
  raw : RawName
  /-- Its expanded name. -/
  name : Name
  /-- Its attributes, the declared ones behind the written ones. -/
  attributes : List Attribute
  /-- The labels in scope within it. -/
  scope : Scope
  /-- The runs of its text, the last one first. -/
  text : List (List Char) := []
  /-- Its text may still grow. -/
  textOpen : Bool := true
  /-- Its child elements, the last one first. -/
  children : List Element := []

namespace Frame

/-- Characters as the text that they are. -/
def plain (s : List Char) : String := String.ofList (Text.ofPlain s)

/-- The element of a frame that is closed. -/
def close (f : Frame) : Element :=
  .mk ⟨plain f.name.space.toList, f.name.localName⟩
    (f.attributes.map fun a => ⟨a.name, plain a.value.toList⟩) (plain f.text.reverse.flatten)
    f.children.reverse

/-- A frame with a further child element. -/
def addChild (f : Frame) (e : Element) : Frame :=
  { f with children := e :: f.children, textOpen := false }

/-- A frame with further character data. -/
def addText (f : Frame) (s : List Char) : Frame :=
  if f.textOpen then { f with text := s :: f.text } else f

/-- A frame whose text has ended. -/
def endText (f : Frame) : Frame := { f with textOpen := false }

/-- A frame that stands for the place where an entity is used. -/
def forEntity : Frame :=
  { raw := ⟨"", ""⟩, name := ⟨"", ""⟩, attributes := [], scope := Scope.initial }

end Frame

/-- How far the assembly of elements has come. -/
structure State where
  /-- The open elements, the innermost first. -/
  frames : List Frame
  /-- The root, once it is closed. -/
  root : Option Element := none
  /-- How many elements are open around the text that is being read. -/
  around : Nat := 0
  /-- The text that is being read is that of an entity. -/
  inEntity : Bool := false
  /-- What has been noted. -/
  reckoning : Reckoning

/-- The deepest level at which an element may stand. -/
def maxDepth : Nat := 256

/-! ## Tags -/

/-- The frame that a start tag opens inside a scope, with the reckoning after it. `depth` bounds the nesting of
entities in attribute values. -/
def Doctype.openFrame? (d : Doctype) (depth : Nat) (inEntity : Bool) (outer : Scope) (raw : RawName)
    (written : List RawAttribute) (r : Reckoning) : Option (Frame × Reckoning) := do
  let t ← d.readAttributes? depth raw (r.faultIf !raw.regular) written
  let scope : Scope := t.bindings ++ d.declaredBindings raw t.bindings ++ outer
  let (r, taken) ← scope.reckonNames? (t.attributes.map (·.name)) t.reckoning
  let r ← d.reckonFallbacks? raw scope taken r
  let name := scope.resolveElement raw
  let r := r.faultIf name.isNone
  let attributes := t.attributes.map fun a => ⟨(scope.resolve a.name).getD a.name.unresolved, a.value⟩
  let frame : Frame :=
    { raw, name := name.getD raw.unresolved, attributes := attributes ++ d.declared raw scope, scope }
  let r := t.attributes.foldl (fun r a => d.settle r a.pieces) r
  return (frame, if inEntity then r else d.reckonIdentifiers raw t.attributes r)

namespace State

/-- The state after an element has been finished. -/
def finish (st : State) (e : Element) (outer : List Frame) : State :=
  match outer with
  | [] => { st with frames := [], root := some e }
  | f :: fs => { st with frames := f.addChild e :: fs }

/-- The state after a change of the innermost frame; there has to be one. -/
def mapTop? (st : State) (g : Frame → Frame) : Option State :=
  match st.frames with
  | [] => none
  | f :: fs => some { st with frames := g f :: fs }

/-- The state after a processing instruction has been looked at. -/
def instruct (st : State) (target : String) : State :=
  { st with reckoning := st.reckoning.instruction target }

/-- How many elements are open. -/
def level (st : State) : Nat := st.around + st.frames.length

/-- The state after a start tag. -/
def open? (d : Doctype) (depth : Nat) (st : State) (raw : RawName) (written : List RawAttribute)
    (closed : Bool) : Option State := do
  guard (st.level < maxDepth)
  let scope := (st.frames.head?.map (·.scope)).getD Scope.initial
  let (f, reckoning) ← d.openFrame? depth st.inEntity scope raw written st.reckoning
  let st := { st with reckoning }
  return if closed then st.finish f.close st.frames else { st with frames := f :: st.frames }

/-- The state after an end tag, which must match the innermost open element. -/
def close? (st : State) (raw : String) : Option State :=
  match st.frames with
  | [] => none
  | f :: fs => if f.raw.text = raw then some (st.finish f.close fs) else none

/-- The state in which the text of an entity is read: nothing but a frame for the place is open. -/
def enter (st : State) : State :=
  { frames := [.forEntity], around := st.level, inEntity := true,
    reckoning := { st.reckoning with spent := 0 } }

/-- The state after the text of an entity has been read in an inner state. The size of the entity is its length
with everything that its references stand for. -/
def leave (st inner : State) (name : String) (length : Nat) : State :=
  let r := inner.reckoning
  let sizes := if (r.sizes.lookup name).isSome then r.sizes else (name, length + r.spent) :: r.sizes
  { st with reckoning := { r with spent := st.reckoning.spent, parsed := name :: r.parsed, sizes } }

/-- The state after a reference to an entity whose size is known. -/
def spend? (st : State) (name : String) : Option State :=
  (st.reckoning.spend? (st.reckoning.sizeOf name)).map fun reckoning => { st with reckoning }

end State

/-! ## Content -/

/-- Reads content until the root is closed or the characters end. `entity` reads the text of an entity, `depth`
bounds the texts that may be open at once behind this one, the number bounds the tokens, and `opened` lists the
entities that are being read. -/
def contentWith (d : Doctype) (depth : Nat) (entity : Nat → List String → State → Scan State) :
    Nat → List String → State → Scan State
  | 0, _, _ => Scan.fail
  | fuel + 1, opened, st => fun s =>
      if s.isEmpty || (st.frames.isEmpty && st.root.isSome) then some (st, s)
      else do
        let (t, r) ← Scan.token s
        let st ←
          match t with
          | .startTag raw written closed => st.open? d depth raw written closed
          | .endTag raw => st.close? raw
          | .characters cs => st.mapTop? (·.addText cs)
          | .comment => some st
          | .instruction target => (st.instruct target).mapTop? Frame.endText
          | .reference name => do
              let st ← st.mapTop? Frame.endText
              match d.entities.lookup name with
              | none => if d.tolerant then some { st with reckoning := st.reckoning.warn } else none
              | some .unparsed => none
              | some .external => st.spend? name
              | some (.internal text) =>
                  if st.reckoning.parsed.contains name then st.spend? name
                  else if opened.contains name then none
                  else do
                    let (inner, rest) ← entity (text.length + 1) (name :: opened) st.enter text
                    if rest.isEmpty && inner.frames.length == 1 then
                      (st.leave inner name (byteSize text)).spend? name
                    else none
        contentWith d depth entity fuel opened st r

/-- Reads content, where a number bounds the texts that may be open at once. -/
def content (d : Doctype) : Nat → Nat → List String → State → Scan State
  | 0 => fun _ _ _ => Scan.fail
  | depth + 1 => contentWith d depth (content d depth)

end EntityModel.Xml
