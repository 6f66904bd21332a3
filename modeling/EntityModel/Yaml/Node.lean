import EntityModel.Table
import EntityModel.Yaml.Resolution
import EntityModel.Yaml.Token

/-!
# Nodes

A document is made of nodes, each with a tag in full. The nodes are numbered, and a collection tells by number what
it holds. So a reference to an anchor is the number of the node that carries it, also within that very node.

The tokens are taken one by one, so a fault of a token that is not reached does not matter.

`Document.read` takes a text with at most one document. The text may also be empty of content.
-/

namespace EntityModel.Yaml

/-- A node, which tells by number the nodes that it holds. -/
inductive Node where
  /-- A scalar with its tag and text. -/
  | scalar (tag text : String)
  | sequence (tag : String) (items : List Nat)
  /-- A mapping, by its keys and values in order. -/
  | mapping (tag : String) (entries : List (Nat × Nat))
  deriving Inhabited, DecidableEq, Repr

def Node.tag : Node → String
  | scalar t _ | sequence t _ | mapping t _ => t

/-- A document: its nodes, and the number of the one that holds the others. -/
structure Document where
  /-- The nodes by number. -/
  nodes : Array Node
  /-- The number of the root. -/
  root : Nat
  deriving DecidableEq, Repr

/-- How far the reading of nodes has come. -/
structure NodeState where
  /-- The tokens that are left. -/
  tokens : List Token
  /-- What comes behind the tokens, if it is not the end of the text. -/
  fault : Option Fault := none
  /-- What the handles of tags stand for. -/
  handles : List (String × String) := []
  /-- The nodes that have been read, by number. -/
  nodes : Array Node := #[]
  /-- The anchors with the numbers of their nodes. -/
  anchors : Table String Nat := []
  /-- How many collections the place is within. -/
  depth : Nat := 0

/-- How many collections may be within each other. -/
def maxDepth : Nat := 485

/-- A step of the reading of nodes. -/
abbrev Parse := StateT NodeState (Except Fault)

namespace Parse

/-- The text cannot be read. -/
def fail {α : Type} : Parse α := fun _ => .error .malformed

/-- The next token; none at the end of the text. -/
def peek : Parse (Option Token) := do
  let s ← get
  match s.tokens, s.fault with
  | [], some f => throw f
  | ts, _ => return ts.head?

/-- Goes on to the token after the next one. -/
def next : Parse Unit := modify fun s => { s with tokens := s.tokens.tail }

/-- Adds a node, and tells its number. -/
def add (n : Node) : Parse Nat := modifyGet fun s => (s.nodes.size, { s with nodes := s.nodes.push n })

/-- The node that is left out where one could stand. -/
def empty : Parse Nat := add (.scalar (tagOfForm "") "")

/-! ## Properties of a node -/

/-- An anchor, if there is one here. -/
def anchor? : Parse (Option String) := do
  match ← peek with
  | some (.anchor name) => do next; return some name
  | _ => return none

/-- A tag, if there is one here. -/
def tag? : Parse (Option RawTag) := do
  match ← peek with
  | some (.tag t) => do next; return some t
  | _ => return none

/-- An anchor and a tag, each of which may be missing, in either order. -/
def properties : Parse (Option String × Option RawTag) := do
  match ← anchor? with
  | some a => return (some a, ← tag?)
  | none => do
      let t ← tag?
      return (← if t.isSome then anchor? else pure none, t)

def fullTag (t : RawTag) : Parse String := do
  match t.handle with
  | none => return t.suffix
  | some h =>
      match (← get).handles.lookup h with
      | some meaning => return meaning ++ t.suffix
      | none => fail

/-- The tag that is given and says something. -/
def specific (tag : Option String) : Option String := tag.filter (· ≠ "!")

/-- Remembers the node of an anchor. -/
def remember (anchor : Option String) (n : Nat) : Parse Unit :=
  match anchor with
  | none => return ()
  | some a => modify fun s => { s with anchors := Table.put a n s.anchors }

/-- An anchor may be used only once. -/
def checkAnchor (anchor : Option String) : Parse Unit := do
  match anchor with
  | none => return ()
  | some a => if ((← get).anchors.lookup a).isSome then fail else return ()

def scalarTag (tag : Option String) (text : String) (plain : Bool) : String :=
  match tag with
  | none => if plain then tagOfForm text else standardTag "str"
  | some "!" => tagOfForm text
  | some t => t

def scalarNode (anchor tag : Option String) (text : String) (plain : Bool) : Parse Nat := do
  let n ← add (.scalar (scalarTag tag text plain) text)
  remember anchor n
  return n

/-- Reads what is within a collection. -/
def within {α : Type} (read : Parse α) : Parse α := do
  let depth := (← get).depth
  if maxDepth ≤ depth then throw .tooDeep
  modify fun s => { s with depth := depth + 1 }
  let a ← read
  modify fun s => { s with depth }
  return a

/-- Reads what a collection holds. The collection has its number and its anchor before that. -/
def collection {α : Type} (anchor : Option String) (make : List α → Node) (read : Parse (List α)) :
    Parse Nat := do
  let n ← add (make [])
  remember anchor n
  let inside ← within read
  modify fun s => { s with nodes := s.nodes.set! n (make inside) }
  return n

/-! ## Nodes -/

/-- Where a node stands decides what it may be. -/
inductive Place where
  /-- Between brackets. -/
  | flow
  /-- Anywhere else. -/
  | block
  /-- In a mapping by indentation, where the items of a sequence need not be further right. -/
  | member
  deriving DecidableEq

/-- A node is left out here. -/
def endsBlock : Option Token → Bool
  | some .key | some .value | some .blockEnd => true
  | _ => false

/-- The item of a sequence is left out here. -/
def endsItem (t : Option Token) : Bool :=
  match t with
  | some .item => true
  | t => endsBlock t

mutual

/-- Reads a node. -/
def node : Nat → Place → Parse Nat
  | 0, _ => fail
  | fuel + 1, place => do
      match ← peek with
      | some (.reference name) => do
          next
          match (← get).anchors.lookup name with
          | some n => return n
          | none => fail
      | _ => do
          let (anchor, raw) ← properties
          let tag ← match raw with
            | some t => do pure (some (← fullTag t))
            | none => pure none
          let t ← peek
          checkAnchor anchor
          let sequence (read : Parse (List Nat)) : Parse Nat :=
            collection anchor (.sequence ((specific tag).getD (standardTag "seq"))) read
          let mapping (read : Parse (List (Nat × Nat))) : Parse Nat :=
            collection anchor (.mapping ((specific tag).getD (standardTag "map"))) read
          match t with
          | some .item => if place = .member then sequence (items fuel) else emptyNode anchor tag
          | some (.scalar text plain) => do
              next
              scalarNode anchor tag text plain
          | some .openSequence => do next; sequence (flowItems fuel true)
          | some .openMapping => do next; mapping (flowEntries fuel true)
          | some .blockSequence =>
              if place = .flow then emptyNode anchor tag
              else do next; sequence (blockItems fuel)
          | some .blockMapping =>
              if place = .flow then emptyNode anchor tag
              else do next; mapping (blockEntries fuel)
          | _ => emptyNode anchor tag

/-- A node that is left out behind its properties; it must have some. -/
def emptyNode (anchor : Option String) (tag : Option String) : Parse Nat := do
  if anchor.isNone && tag.isNone then fail
  scalarNode anchor tag "" true

/-- Reads the items of a sequence that is not indented. -/
def items : Nat → Parse (List Nat)
  | 0 => fail
  | fuel + 1 => do
      match ← peek with
      | some .item => do
          next
          let n ← if endsItem (← peek) then empty else node fuel .block
          return n :: (← items fuel)
      | _ => return []

/-- Reads the items of an indented sequence and its end. -/
def blockItems : Nat → Parse (List Nat)
  | 0 => fail
  | fuel + 1 => do
      match ← peek with
      | some .item => do
          next
          let left := match ← peek with | some .item | some .blockEnd => true | _ => false
          let n ← if left then empty else node fuel .block
          return n :: (← blockItems fuel)
      | some .blockEnd => do next; return []
      | _ => fail

/-- Reads the entries of a mapping by indentation and its end. -/
def blockEntries : Nat → Parse (List (Nat × Nat))
  | 0 => fail
  | fuel + 1 => do
      match ← peek with
      | some .key => do
          next
          let k ← if endsBlock (← peek) then empty else node fuel .member
          let v ← match ← peek with
            | some .value => do
                next
                if endsBlock (← peek) then empty else node fuel .member
            | _ => empty
          return (k, v) :: (← blockEntries fuel)
      | some .blockEnd => do next; return []
      | _ => fail

/-- Reads the items of a sequence between brackets and the closing one. -/
def flowItems : Nat → Bool → Parse (List Nat)
  | 0, _ => fail
  | fuel + 1, first => do
      match ← peek with
      | some .closeSequence => do next; return []
      | t => do
          if !first then
            match t with
            | some .comma => next
            | _ => fail
          match ← peek with
          | some .closeSequence => do next; return []
          | some .key => do
              next
              let entry ← within do
                let k ← match ← peek with
                  | some .value | some .comma | some .closeSequence => empty
                  | _ => node fuel .flow
                let v ← match ← peek with
                  | some .value => do
                      next
                      match ← peek with
                      | some .comma | some .closeSequence => empty
                      | _ => node fuel .flow
                  | _ => empty
                return (k, v)
              let n ← add (.mapping (standardTag "map") [entry])
              return n :: (← flowItems fuel false)
          | _ => do
              let n ← node fuel .flow
              return n :: (← flowItems fuel false)

/-- Reads the entries of a mapping between brackets and the closing one. -/
def flowEntries : Nat → Bool → Parse (List (Nat × Nat))
  | 0, _ => fail
  | fuel + 1, first => do
      match ← peek with
      | some .closeMapping => do next; return []
      | t => do
          if !first then
            match t with
            | some .comma => next
            | _ => fail
          match ← peek with
          | some .closeMapping => do next; return []
          | some .key => do
              next
              let k ← match ← peek with
                | some .value | some .comma | some .closeMapping => empty
                | _ => node fuel .flow
              let v ← match ← peek with
                | some .value => do
                    next
                    match ← peek with
                    | some .comma | some .closeMapping => empty
                    | _ => node fuel .flow
                | _ => empty
              return (k, v) :: (← flowEntries fuel false)
          | _ => do
              let k ← node fuel .flow
              let v ← empty
              return (k, v) :: (← flowEntries fuel false)

end

/-! ## Documents -/

/-- What handles stand for unless a directive says otherwise. -/
def defaultHandles : List (String × String) := [("!", "!"), ("!!", standardTag "")]

/-- Reads the directives before a document: at most one version, whose major number is one, and each handle
at most once. -/
def directives : Nat → Bool → List (String × String) → Parse (List (String × String))
  | 0, _, _ => fail
  | fuel + 1, versioned, handles => do
      match ← peek with
      | some (.directive d) => do
          next
          match d with
          | .version major => if versioned || major ≠ 1 then fail else directives fuel true handles
          | .handle name meaning =>
              if (handles.lookup name).isSome then fail
              else directives fuel versioned ((name, meaning) :: handles)
          | .other => directives fuel versioned handles
      | _ => return handles

/-- Goes on behind marks of the end of a document. -/
def skipEnds : Nat → Parse Unit
  | 0 => fail
  | fuel + 1 => do
      match ← peek with
      | some .documentEnd => do
          next
          skipEnds fuel
      | _ => return ()

/-- Makes sure that no other document follows. -/
def noMore (fuel : Nat) : Parse Unit := do
  skipEnds fuel
  if (← peek).isSome then
    let _ ← directives fuel false []
    fail

/-- A document with a mark of its start is left out here. -/
def endsDocument : Option Token → Bool
  | none | some .documentEnd | some .documentStart | some (.directive _) => true
  | _ => false

/-- Reads the document that the tokens make, if they make one at all. -/
def document (fuel : Nat) : Parse (Option Nat) := do
  let root ← match ← peek with
    | none => return none
    | some .documentStart | some (.directive _) => do
        let handles ← directives fuel false []
        match ← peek with
        | some .documentStart => next
        | _ => fail
        modify fun s => { s with handles := handles ++ defaultHandles }
        if endsDocument (← peek) then empty else node fuel .block
    | _ => do
        modify fun s => { s with handles := defaultHandles }
        node fuel .block
  noMore fuel
  return some root

end Parse

/-- The document in a text, if it has content. -/
def Document.read (text : List Char) : Except Fault (Option Document) := do
  let c := cut text
  let (root, s) ← (Parse.document (4 * c.tokens.length + 8)).run { tokens := c.tokens, fault := c.fault }
  return root.map fun root => { nodes := s.nodes, root }

end EntityModel.Yaml
