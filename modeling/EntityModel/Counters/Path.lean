import EntityModel.Text.DecimalDigit

/-!
# Paths under which requests are counted

Requests are counted by path, but a path that contains the key of some entity would give each entity a
counter of its own. So a UUID that begins a segment becomes `:uuid`, and then a run of decimal digits that
begins a segment becomes `:id`. What follows in the segment stays.
-/

namespace EntityModel.Counters

/-! ## UUIDs -/

/-- A hexadecimal digit. -/
def isHexDigit (c : Char) : Bool :=
  c.isDigit || ('a' ≤ c && c ≤ 'f') || ('A' ≤ c && c ≤ 'F')

/-- How many characters each group of a UUID has. -/
def uuidGroups : List Nat := [8, 4, 4, 4, 12]

/-- What stands behind a number of hexadecimal digits. -/
def afterHexDigits : Nat → List Char → Option (List Char)
  | 0, s => some s
  | _ + 1, [] => none
  | n + 1, c :: s => if isHexDigit c then afterHexDigits n s else none

/-- What stands behind groups of hexadecimal digits with hyphens between them. -/
def afterGroups : List Nat → List Char → Option (List Char)
  | [], s => some s
  | [n], s => afterHexDigits n s
  | n :: ns, s =>
      match afterHexDigits n s with
      | some ('-' :: r) => afterGroups ns r
      | _ => none

/-- The characters begin with a UUID. -/
def startsWithUuid (s : List Char) : Bool := (afterGroups uuidGroups s).isSome

/-- How many characters a UUID has. -/
def uuidLength : Nat := 36

/-- Puts `:uuid` in place of every UUID behind a slash. `skip` characters are dropped first: the rest of
the UUID that has just been replaced. -/
def replaceUuids : Nat → List Char → List Char
  | _, [] => []
  | skip + 1, _ :: s => replaceUuids skip s
  | 0, c :: s =>
      if c = '/' && startsWithUuid s then "/:uuid".toList ++ replaceUuids uuidLength s
      else c :: replaceUuids 0 s

/-! ## Numbers -/

/-- The characters begin with a decimal digit. -/
def startsWithDigit (s : List Char) : Bool := s.head?.any Text.isDecimalDigit

/-- Puts `:id` in place of every run of digits behind a slash. `within` says that such a run has been
replaced and may go on. -/
def replaceNumbers : Bool → List Char → List Char
  | _, [] => []
  | within, c :: s =>
      if within && Text.isDecimalDigit c then replaceNumbers true s
      else if c = '/' && startsWithDigit s then "/:id".toList ++ replaceNumbers true s
      else c :: replaceNumbers false s

/-- The path under which requests to a path are counted. The empty path is the root. -/
def normalizePath (path : String) : String :=
  let p := if path = "" then "/" else path
  String.ofList (replaceNumbers false (replaceUuids 0 p.toList))

end EntityModel.Counters
