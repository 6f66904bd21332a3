import EntityModel.Xml.Doctype

/-!
# Expanding references in attribute values

An entity may stand in an attribute value if it is an internal one whose text holds no markup, and if the
same is true of the entities in that text. `Doctype.approve?` looks at an entity and at everything below it
once. It also finds out how many bytes a reference to the entity stands for.

The text of an entity is put in place of a reference as it is: white space in it stays what it is, while the
white space of the value itself becomes blanks. References that are approved and have no declaration stand
for nothing.

Values that bind labels are treated apart (`Doctype.replace?`), since they never become a part of the tree.
-/

namespace EntityModel.Xml

/-- The pieces of the text of an entity where it is used in an attribute value; markup may not stand in
it. `fuel` bounds the number of pieces, and `acc` holds the ones before, in reverse. -/
def textPiecesFuel : Nat → List Piece → List Char → Option (List Piece)
  | 0, _, _ => none
  | _ + 1, acc, [] => some acc.reverse
  | fuel + 1, acc, c :: s =>
      if c == '<' then none
      else if c == '&' then
        match Scan.reference s with
        | some (p, r) => textPiecesFuel fuel (p :: acc) r
        | none => none
      else textPiecesFuel fuel (.char c :: acc) s

/-- The pieces of the text of an entity. -/
def textPieces (s : List Char) : Option (List Piece) := textPiecesFuel (s.length + 1) [] s

/-- How many bytes a text takes. -/
def byteSize (s : List Char) : Nat := s.foldl (fun n c => n + c.utf8Size) 0

namespace Reckoning

/-- The entity is approved, and if sizes matter its size is known. -/
def knows (r : Reckoning) (sized : Bool) (name : String) : Bool :=
  r.approved.contains name && (!sized || (r.sizes.lookup name).isSome)

/-- The reckoning once an entity has been looked at. -/
def approve (r : Reckoning) (sized : Bool) (name : String) (size : Nat) : Reckoning :=
  { r with
    approved := name :: r.approved
    sizes := if sized then (name, size) :: r.sizes else r.sizes }

end Reckoning

namespace Doctype

/-- The reckoning after an entity has been found to be usable in attribute values. `depth` bounds the nesting
of entities and `opened` lists the entities around this one. Before all declarations have been read the sizes
of entities cannot be known: then `sized` is false. -/
def approve? (d : Doctype) (sized : Bool) : Nat → List String → String → Reckoning → Option Reckoning
  | depth, opened, name, r =>
      match d.entities.lookup name with
      | none => if d.tolerant then some r.warn else none
      | some (.internal text) =>
          if r.knows sized name then some r
          else if opened.contains name then none
          else
            match depth with
            | 0 => none
            | depth + 1 => do
                let pieces ← textPieces text
                let (r, size) ← pieces.foldlM (fun (r, size) p =>
                  match p with
                  | .char _ => some (r, size)
                  | .reference inner => do
                      let r ← d.approve? sized depth (name :: opened) inner r
                      let cost := if (d.entities.lookup inner).isSome then Reckoning.referenceCost else 0
                      return (r, size + r.sizeOf inner + cost)) (r, byteSize text)
                return r.approve sized name size
      | some _ => none

/-- The reckoning after the references of an attribute value. -/
def approveValue? (d : Doctype) (sized : Bool) (depth : Nat) (r : Reckoning) (value : List Piece) :
    Option Reckoning :=
  value.foldlM (fun r p =>
    match p with
    | .char _ => some r
    | .reference name => do
        let r ← d.approve? sized depth [] name r
        if (d.entities.lookup name).isSome then r.spend? (if sized then r.sizeOf name else 0) else return r)
    r

/-- The characters that pieces stand for. `fuel` bounds the nesting of entities. -/
def expandFuel (d : Doctype) : Nat → List Piece → List Char
  | fuel, pieces =>
      pieces.flatMap fun p =>
        match p with
        | .char c => [c]
        | .reference name =>
            match fuel, d.entities.lookup name with
            | fuel + 1, some (.internal text) => d.expandFuel fuel ((textPieces text).getD [])
            | _, _ => []

/-- The characters that pieces stand for, all references in them approved. No approved entity is within itself, so
they are nested no deeper than there are entities. -/
def expand (d : Doctype) (pieces : List Piece) : List Char := d.expandFuel d.entities.length pieces

/-- The reckoning after the references of a value that binds a label, with the characters that the value stands for.
Such references are replaced at once: nothing is remembered of an entity, and each use of it counts by itself. -/
def replace? (d : Doctype) : Nat → List String → List Piece → Reckoning → Option (Reckoning × List Char)
  | depth, opened, pieces, r =>
      pieces.foldlM (fun (r, before) p =>
        match p with
        | .char c => some (r, before ++ [c])
        | .reference name =>
            match d.entities.lookup name with
            | none => if d.tolerant then some (r.warn, before) else none
            | some (.internal text) =>
                if opened.contains name then none
                else
                  match depth with
                  | 0 => none
                  | depth + 1 => do
                      let r ← r.spend? (byteSize text)
                      let (r, inside) ← d.replace? depth (name :: opened) (← textPieces text) r
                      return (r, before ++ inside)
            | some _ => none) (r, [])

/-- The entities whose texts need not be read as content any more once a value with some pieces has become a part of
the tree: those that it refers to and those that their texts refer to. `fuel` bounds the nesting of entities. -/
def settledFuel (d : Doctype) : Nat → List Piece → List String → List String
  | fuel, pieces, settled =>
      pieces.foldl (fun settled p =>
        match p with
        | .char _ => settled
        | .reference name =>
            if settled.contains name then settled
            else
              match fuel, d.entities.lookup name with
              | fuel + 1, some (.internal text) =>
                  d.settledFuel fuel ((textPieces text).getD []) (name :: settled)
              | _, _ => settled) settled

/-- The reckoning once a value has become a part of the tree. -/
def settle (d : Doctype) (r : Reckoning) (value : List Piece) : Reckoning :=
  { r with parsed := d.settledFuel d.entities.length value r.parsed }

/-- A value without blanks at its ends and with single blanks inside. References are no blanks. -/
def collapsePieces (value : List Piece) : List Piece :=
  let squeezed := value.foldr (fun p ps =>
    if p = .char ' ' && (ps.head? = some (.char ' ') || ps.isEmpty) then ps else p :: ps) []
  if squeezed.head? = some (.char ' ') then squeezed.drop 1 else squeezed

/-- A value with its references to declared entities as they are written. An ampersand that is no reference
is written as a reference by number. -/
def literal (d : Doctype) (value : List Piece) : String :=
  String.ofList (value.flatMap fun p =>
    match p with
    | .char c => if c == '&' then "&#38;".toList else [c]
    | .reference name =>
        if (d.entities.lookup name).isSome then '&' :: (name.toList ++ [';']) else [])

/-- Some reference of a value is to a declared entity. -/
def hasReference (d : Doctype) (value : List Piece) : Bool :=
  value.any fun p =>
    match p with
    | .char _ => false
    | .reference name => (d.entities.lookup name).isSome

end Doctype

end EntityModel.Xml
