import EntityModel.Yaml.Tag

/-!
# Tokens

A text is cut into tokens. Those of the indentation are made up: a block collection is opened where a line
starts further right than the collection around it, and closed where a line starts further left.

A key is only known by the colon behind it. So wherever one might begin, the place among the tokens is kept as
a *candidate*, one for each level of brackets. When a colon comes, the tokens that open the mapping and mark
the key are put in at that place. A candidate is given up at the end of its line or after 1024 characters.

Where the text cannot be cut, the tokens before that place are still read, since a fault among them comes first.
Those behind a candidate are not among them: it may yet become a key.
-/

namespace EntityModel.Yaml

/-- A token. -/
inductive Token where
  | directive (value : Directive)
  | documentStart
  | documentEnd
  /-- The start of a sequence by indentation. -/
  | blockSequence
  /-- The start of a mapping by indentation. -/
  | blockMapping
  /-- The end of a collection by indentation. -/
  | blockEnd
  /-- An opening square bracket. -/
  | openSequence
  /-- A closing square bracket. -/
  | closeSequence
  /-- An opening curly bracket. -/
  | openMapping
  /-- A closing curly bracket. -/
  | closeMapping
  /-- A hyphen before an item. -/
  | item
  /-- A comma between brackets. -/
  | comma
  /-- A key follows. -/
  | key
  /-- A value follows. -/
  | value
  /-- A reference to an anchor. -/
  | reference (name : String)
  | anchor (name : String)
  | tag (value : RawTag)
  /-- A scalar, plain or not. -/
  | scalar (text : String) (plain : Bool)

/-- A place where a key may have begun. -/
structure Candidate where
  /-- How many tokens come before. -/
  position : Nat
  /-- There must be a key here. -/
  required : Bool
  /-- The place in the text. -/
  cursor : Cursor

/-- What a text is cut into: tokens, and behind them perhaps a fault. -/
structure Cut where
  tokens : List Token
  /-- Why the rest of the text cannot be cut. -/
  fault : Option Fault := none

/-- How far the cutting has come. -/
structure Cutter where
  /-- The place in the text. -/
  cursor : Cursor
  /-- The columns of the open block collections, the innermost first. -/
  indents : List Nat := []
  /-- The candidates, one for each level of brackets, the innermost first. -/
  candidates : List (Option Candidate) := [none]
  /-- A key may begin here. -/
  keyAllowed : Bool := true
  /-- The tokens so far. -/
  tokens : List Token := []

namespace Cutter

/-- The column of the innermost block collection; minus one outside of all. -/
def indent (k : Cutter) : Int :=
  match k.indents with
  | [] => -1
  | n :: _ => n

/-- The place is between brackets. -/
def inFlow (k : Cutter) : Bool := k.candidates.length > 1

/-- Adds a token. -/
def push (k : Cutter) (t : Token) : Cutter := { k with tokens := k.tokens ++ [t] }

/-- Adds a token that so many characters make. -/
def pushOver (k : Cutter) (t : Token) (n : Nat) : Cutter :=
  { k.push t with cursor := k.cursor.advanceBy n }

/-! ## Candidates -/

/-- The longest that a key may be. -/
def keyLimit : Nat := 1024

/-- A candidate can no longer become a key. -/
def isStale (k : Cutter) (x : Candidate) : Bool :=
  x.cursor.line ≠ k.cursor.line || keyLimit < k.cursor.index - x.cursor.index

/-- Gives up a candidate, unless there must be a key. -/
def giveUp (x : Candidate) : Except Fault (Option Candidate) :=
  if x.required then .error .malformed else .ok none

/-- Gives up all candidates that can no longer become a key. -/
def dropStale (k : Cutter) : Except Fault Cutter := do
  let candidates ← k.candidates.mapM fun x =>
    match x with
    | some x => if k.isStale x then giveUp x else .ok (some x)
    | none => .ok none
  return { k with candidates }

/-- Gives up the candidate of the innermost level. -/
def dropCandidate (k : Cutter) : Except Fault Cutter :=
  match k.candidates with
  | some x :: xs => (giveUp x).map fun x => { k with candidates := x :: xs }
  | _ => .ok k

/-- Keeps the place as a candidate, if a key may begin here. -/
def keepCandidate (k : Cutter) : Except Fault Cutter :=
  if k.keyAllowed then do
    let k ← k.dropCandidate
    let x : Candidate :=
      { position := k.tokens.length, required := !k.inFlow && k.indent = k.cursor.column,
        cursor := k.cursor }
    return { k with candidates := some x :: k.candidates.tail }
  else .ok k

/-! ## Indentation -/

/-- Closes the innermost block collections that are further right than a column. -/
def closeBlocks (column : Int) : List Nat → List Token → List Nat × List Token
  | [], ts => ([], ts)
  | n :: ns, ts => if column < n then closeBlocks column ns (ts ++ [.blockEnd]) else (n :: ns, ts)

/-- Closes block collections, unless the place is between brackets. -/
def unwind (k : Cutter) (column : Int) : Cutter :=
  if k.inFlow then k
  else
    let (indents, tokens) := closeBlocks column k.indents k.tokens
    { k with indents, tokens }

/-- Opens a block collection at a column by a token at a position, if it is further right. -/
def openBlock (k : Cutter) (column position : Nat) (t : Token) : Cutter :=
  if k.indent < column then
    { k with indents := column :: k.indents, tokens := k.tokens.insertIdx position t }
  else k

/-! ## Blanks -/

/-- Goes on to the next token, over blanks, comments and line ends. Outside of brackets a key may begin
after a line end. -/
def skipBlanks : Nat → Cutter → Cutter
  | 0, k => k
  | fuel + 1, k =>
      let c := k.cursor.skip (· == ' ')
      let c := if c.head? = some '#' then c.skip (!isBreak ·) else c
      match c.head? with
      | some x =>
          if isBreak x then
            skipBlanks fuel { k with cursor := c.advance, keyAllowed := k.keyAllowed || !k.inFlow }
          else { k with cursor := c }
      | none => { k with cursor := c }

/-! ## Tokens -/

/-- A directive or a mark of a document ends all block collections. -/
def documentLevel (k : Cutter) : Except Fault Cutter := do
  let k ← (k.unwind (-1)).dropCandidate
  return { k with keyAllowed := false }

/-- An opening bracket may begin a key and opens a level. -/
def openFlow (k : Cutter) (t : Token) : Except Fault Cutter := do
  let k ← k.keepCandidate
  return { k.pushOver t 1 with candidates := none :: k.candidates, keyAllowed := true }

/-- A closing bracket closes a level. -/
def closeFlow (k : Cutter) (t : Token) : Except Fault Cutter := do
  let k ← k.dropCandidate
  if !k.inFlow then .error .malformed
  return { k.pushOver t 1 with candidates := k.candidates.tail, keyAllowed := false }

/-- A comma ends an item. -/
def comma (k : Cutter) : Except Fault Cutter := do
  let k ← k.dropCandidate
  return { k.pushOver .comma 1 with keyAllowed := true }

/-- An indicator that opens a block collection outside of brackets, where a key may begin. -/
def blockIndicator (k : Cutter) (opening t : Token) (keyAllowed : Bool) : Except Fault Cutter := do
  let k ←
    if k.inFlow then .ok k
    else if k.keyAllowed then .ok (k.openBlock k.cursor.column k.tokens.length opening)
    else .error .malformed
  let k ← k.dropCandidate
  return { k.pushOver t 1 with keyAllowed }

/-- A colon makes a key of the candidate, or stands before a value without a key of its own. -/
def colon (k : Cutter) : Except Fault Cutter :=
  match k.candidates with
  | some x :: xs =>
      let k : Cutter := { k with tokens := k.tokens.insertIdx x.position .key, candidates := none :: xs }
      let k := if k.inFlow then k else k.openBlock x.cursor.column x.position .blockMapping
      .ok { k.pushOver .value 1 with keyAllowed := false }
  | _ => k.blockIndicator .blockMapping .value (!k.inFlow)

/-- A token that may begin a key. -/
def content (k : Cutter) (read : Cursor → Except Fault (Token × Cursor)) : Except Fault Cutter := do
  let k ← k.keepCandidate
  let (t, cursor) ← read k.cursor
  return { k.push t with cursor, keyAllowed := false }

/-- A block scalar. -/
def block (k : Cutter) (folded : Bool) : Except Fault Cutter := do
  let k ← k.dropCandidate
  let (s, cursor) ← blockScalar folded k.indent k.cursor.advance
  return { k.push (.scalar (String.ofList s) false) with cursor, keyAllowed := true }

/-- A quoted scalar. -/
def quoted (k : Cutter) (quote : Char) : Except Fault Cutter :=
  k.content fun c => (quotedScalar quote c).map fun (s, c) => (.scalar (String.ofList s) false, c)

/-- A plain scalar. -/
def plain (k : Cutter) : Except Fault Cutter := do
  let k ← k.keepCandidate
  let (s, cursor, crossed) :=
    plainScalar k.inFlow (k.indent + 1) false (k.cursor.rest.length + 1) k.cursor
  return { k.push (.scalar (String.ofList s) true) with cursor, keyAllowed := crossed }

/-- An anchor, or a reference to one. -/
def anchored (k : Cutter) (t : String → Token) : Except Fault Cutter :=
  k.content fun c => (anchorName c.advance).map fun (name, c) => (t name, c)

/-- The token that starts with a character. -/
def token (k : Cutter) (x : Char) : Except Fault Cutter :=
  let c := k.cursor
  let atStart := c.column = 0
  let spaced := endsWord (c.peek 1)
  if x = '%' && atStart then do
    let k ← k.documentLevel
    let (d, cursor) ← directive c
    return { k.push (.directive d) with cursor }
  else if atStart && c.startsMark '-' then k.documentLevel.map (·.pushOver .documentStart 3)
  else if atStart && c.startsMark '.' then k.documentLevel.map (·.pushOver .documentEnd 3)
  else if x = '[' then k.openFlow .openSequence
  else if x = '\x7b' then k.openFlow .openMapping
  else if x = ']' then k.closeFlow .closeSequence
  else if x = '\x7d' then k.closeFlow .closeMapping
  else if x = ',' then k.comma
  else if x = '-' && spaced then k.blockIndicator .blockSequence .item true
  else if x = '?' && (k.inFlow || spaced) then k.blockIndicator .blockMapping .key (!k.inFlow)
  else if x = ':' && (k.inFlow || spaced) then k.colon
  else if x = '*' then k.anchored .reference
  else if x = '&' then k.anchored .anchor
  else if x = '!' then k.content fun c => (rawTag c).map fun (t, c) => (.tag t, c)
  else if x = '|' && !k.inFlow then k.block false
  else if x = '>' && !k.inFlow then k.block true
  else if x = Char.ofNat 0x27 || x = '"' then k.quoted x
  else if startsPlain k.inFlow c then k.plain
  else .error .malformed

/-- How many tokens are settled: no more are put in before the end of them, whatever follows. -/
def settled (k : Cutter) : Nat :=
  k.candidates.foldl
    (fun n x =>
      match x with
      | some x => if x.required || !k.isStale x then min n x.position else n
      | none => n)
    k.tokens.length

/-- Goes on to the next token; the block collections that end before it are closed. -/
def approach (k : Cutter) : Except Fault Cutter := do
  let k ← (k.skipBlanks (k.cursor.rest.length + 1)).dropStale
  return k.unwind k.cursor.column

/-- Closes what is open at the end of the text. -/
def finish (k : Cutter) : Except Fault Cutter := (k.unwind (-1)).dropCandidate

/-- The tokens that are settled, before a fault. -/
def stop (k : Cutter) (f : Fault) : Cut := { tokens := k.tokens.take k.settled, fault := some f }

/-- Cuts the rest of the text. -/
def run : Nat → Cutter → Cut
  | 0, k => k.stop .malformed
  | fuel + 1, k =>
      match k.approach with
      | .error f => k.stop f
      | .ok next =>
          match next.cursor.head? with
          | none =>
              match next.finish with
              | .error f => k.stop f
              | .ok last => { tokens := last.tokens }
          | some x =>
              match next.token x with
              | .error f => k.stop f
              | .ok next => run fuel next

end Cutter

/-- A character that may stand in a text. -/
def isReadable (c : Char) : Bool :=
  let n := c.toNat
  n == 0x9 || n == 0xA || n == 0xD || (0x20 ≤ n && n ≤ 0x7E) || n == 0x85 ||
    (0xA0 ≤ n && n ≤ 0xD7FF) || (0xE000 ≤ n && n ≤ 0xFFFD) || 0x10000 ≤ n

/-- The tokens of a text. A byte order mark at its start is left out. -/
def cut (text : List Char) : Cut :=
  if !text.all isReadable then { tokens := [], fault := some .malformed }
  else
    let c : Cursor := { rest := text }
    let c := if c.head? = some byteOrderMark then c.advance else c
    Cutter.run (text.length + 2) { cursor := c }

end EntityModel.Yaml
