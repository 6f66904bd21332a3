import EntityModel.Text.Base64
import EntityModel.Value
import EntityModel.Yaml.Node
import EntityModel.Yaml.Number

/-!
# The value of a document

The tag of a node says what value it has. A scalar has its value as soon as it is met. A collection is filled
later, in the order in which collections are met, and each is filled once. So a fault in a collection nearer to
the root is found before one that lies deeper, and of the faults at one depth the first in the text is found.

A mapping may merge others by the key `<<`; their entries come before its own. The key `=` is a text in a mapping,
and it gives a mapping that is marked as a scalar its text. Both change the nodes themselves as the mapping is
filled: what was merged belongs to it from then on, and its value keys are texts wherever else they are used.

Of a collection within another, only the kind is told.
-/

namespace EntityModel.Yaml

/-! ## Scalars -/

/-- The truth value of a word. -/
def truth? (text : String) : Option Bool :=
  let word := String.ofList (text.toList.map Char.toLower)
  if ["yes", "true", "on"].contains word then some true
  else if ["no", "false", "off"].contains word then some false
  else none

/-- The bytes of a text in base 64. -/
def bytesOf (text : String) : Except Fault (List UInt8) :=
  if text.toList.all (·.toNat < 0x80) then
    match Text.Base64.read text.toList with
    | some b => .ok b
    | none => .error .malformed
  else .error .malformed

/-- The moment that a text tells. -/
def momentOf (text : String) : Except Fault Moment :=
  match Form.moment? (withoutLastBreak text.toList) with
  | none => .error .noMoment
  | some m =>
      match m.fault? with
      | some f => .error (.noValue f.message)
      | none => .ok m

/-- The tags of scalars. Merge keys and value keys are not among them. -/
def scalarTags : List String :=
  ["null", "bool", "int", "float", "binary", "timestamp", "str"].map standardTag

/-- The value of a text that is marked as a scalar of a standard type. -/
def scalarValue (tag text : String) : Except Fault Value :=
  if tag = standardTag "null" then .ok .null
  else if tag = standardTag "bool" then
    match truth? text with
    | some b => .ok (.bool b)
    | none => .error .unknownWord
  else if tag = standardTag "int" then (integerOf text).map .int
  else if tag = standardTag "float" then (floatOf text).map .float
  else if tag = standardTag "binary" then (bytesOf text).map .bytes
  else if tag = standardTag "timestamp" then (momentOf text).map .moment
  else if tag = standardTag "str" then .ok (.text text)
  else .error .malformed

/-! ## Nodes that are changed -/

/-- How far the collections of a document are filled. -/
structure Filling where
  /-- The nodes, as they have been changed. -/
  nodes : Array Node
  /-- The values of the nodes that have been met, by number. That of a collection is empty until it is filled. -/
  values : Array (Option Value)
  /-- The collections that have been met, in order. -/
  met : Array Nat := #[]

/-- A step of the filling of collections. -/
abbrev Fill := StateT Filling (Except Fault)

namespace Fill

/-- The node with a number. -/
def node (i : Nat) : Fill Node := do return (← get).nodes[i]!

/-- The tag of the node with a number. -/
def tag (i : Nat) : Fill String := do return (← node i).tag

/-- Changes the node with a number. -/
def change (i : Nat) (n : Node) : Fill Unit := modify fun s => { s with nodes := s.nodes.set! i n }

/-- The entries of a mapping, which nothing else has. -/
def entries (i : Nat) : Fill (List (Nat × Nat)) := do
  match ← node i with
  | .mapping _ entries => return entries
  | _ => throw .malformed

/-- Gives a mapping other entries. -/
def setEntries (i : Nat) (entries : List (Nat × Nat)) : Fill Unit := do
  change i (.mapping (← tag i) entries)

/-- Makes a value key a text. -/
def settle (i : Nat) : Fill Unit := do
  if (← tag i) = standardTag "value" then
    match ← node i with
    | .scalar _ text => change i (.scalar (standardTag "str") text)
    | .sequence _ items => change i (.sequence (standardTag "str") items)
    | .mapping _ entries => change i (.mapping (standardTag "str") entries)

/-! ## Scalars -/

/-- How many mappings may give one another their texts. -/
def maxChain : Nat := 960

/-- The text of a node that is marked as a scalar: its own, or the one that the key `=` gives a mapping. -/
def text : Nat → Nat → Fill String
  | 0, _ => throw .tooDeep
  | fuel + 1, i => do
      match ← node i with
      | .scalar _ text => return text
      | .sequence _ _ => throw .malformed
      | .mapping _ entries =>
          match ← entries.findM? fun e => return (← tag e.1) = standardTag "value" with
          | some (_, v) => text fuel v
          | none => throw .malformed

/-- The value of a node that is marked as a scalar. A moment must be a scalar itself. -/
def scalar (i : Nat) : Fill Value := do
  let n ← node i
  if !scalarTags.contains n.tag then throw .malformed
  let text ← text maxChain i
  match n with
  | .scalar _ _ => scalarValue n.tag text
  | _ => if n.tag = standardTag "timestamp" then throw .notScalar else scalarValue n.tag text

/-! ## Merging -/

/-- Merges into a mapping what its merge keys say, and makes its value keys texts. What is merged into the mappings
that it merges comes first; of a sequence of mappings the last one comes first. Each step inside takes
the merge keys off another mapping, so that there are not more of them than nodes. -/
def merge : Nat → Nat → Fill Unit
  | 0, _ => throw .tooDeep
  | fuel + 1, i => do
      let all ← entries i
      let merging ← all.filterM fun e => return (← tag e.1) = standardTag "merge"
      let own ← all.filterM fun e => return (← tag e.1) ≠ standardTag "merge"
      setEntries i own
      own.forM fun e => settle e.1
      let mergedInto (j : Nat) : Fill (List (Nat × Nat)) := do
        let _ ← entries j
        merge fuel j
        entries j
      let merged ← merging.flatMapM fun e => do
        match ← node e.2 with
        | .sequence _ items => return (← items.mapM mergedInto).reverse.flatten
        | _ => mergedInto e.2
      setEntries i (merged ++ (← entries i))

/-! ## Collections -/

/-- The tags of collections, with the values that they start from. -/
def emptyCollections : List (String × Value) :=
  [("seq", .list []), ("omap", .list []), ("pairs", .list []), ("map", .mapping []), ("set", .set [])].map
    fun p => (standardTag p.1, p.2)

/-- Remembers the value of a node. -/
def remember (i : Nat) (v : Value) : Fill Unit := modify fun s => { s with values := s.values.set! i (some v) }

/-- The value of a node. A collection that is met for the first time is empty, and is filled later. -/
def value (i : Nat) : Fill Value := do
  match (← get).values[i]! with
  | some v => return v
  | none =>
      let v ← match emptyCollections.lookup (← tag i) with
        | some v => do
            modify fun s => { s with met := s.met.push i }
            pure v
        | none => scalar i
      remember i v
      return v

/-- A value may be a key: it is no collection. -/
def isKey : Value → Bool
  | .list _ | .set _ | .mapping _ => false
  | _ => true

def entryValue (e : Nat × Nat) : Fill (Value × Value) := do
  let k ← value e.1
  if !isKey k then throw .malformed
  return (k, ← value e.2)

/-- The value of a pair: of a mapping with one entry. -/
def pairValue (i : Nat) : Fill Value := do
  match ← entries i with
  | [(k, v)] => return .list [← value k, ← value v]
  | _ => throw .malformed

/-- The value of a collection, with the items that its tag asks for. -/
def collection (i : Nat) : Fill Value := do
  let n ← node i
  if n.tag = standardTag "map" || n.tag = standardTag "set" then
    let _ ← entries i
    merge ((← get).nodes.size + 1) i
    let es ← (← entries i).mapM entryValue
    return if n.tag = standardTag "map" then .mapping es else .set (es.map (·.1))
  else
    match n with
    | .sequence _ items => return .list (← items.mapM (if n.tag = standardTag "seq" then value else pairValue))
    | _ => throw .malformed

/-- Fills the collections that have been met, but for the first ones, and those that are met thereby. Each is met
once, so that there are not more of them than nodes. -/
def all : Nat → Nat → Fill Unit
  | 0, _ => return ()
  | fuel + 1, filled => do
      match (← get).met[filled]? with
      | none => return ()
      | some i => do
          remember i (← collection i)
          all fuel (filled + 1)

end Fill

/-! ## Documents -/

def Document.value (d : Document) : Except Fault Value := do
  let fill : Fill Value := do
    let _ ← Fill.value d.root
    Fill.all d.nodes.size 0
    Fill.value d.root
  fill.run' { nodes := d.nodes, values := Array.replicate d.nodes.size none }

/-- The value of a text, if it has content. -/
def read (text : List Char) : Except Fault (Option Value) := do
  match ← Document.read text with
  | none => return none
  | some d => return some (← d.value)

end EntityModel.Yaml
