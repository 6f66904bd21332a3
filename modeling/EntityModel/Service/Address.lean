import EntityModel.Numeral.Integer
import EntityModel.Text.Blank
import EntityModel.Text.Half
import EntityModel.Text.HexDigit
import EntityModel.Text.Lower
import EntityModel.Text.Split

/-!
# Addresses

An address has a scheme, an authority, a path, a query and a fragment, most of which may be missing. The authority
names a host, with a user before it and a port behind it. `Address.ofText` takes an address apart, whatever it
is; `Address.fault?` tells whether a request can be sent to it.

A host of four numbers or one between brackets must be an address of version 4 or 6. Other hosts are names, whose
letters beyond ASCII must be letters that domain names may have.
-/

namespace EntityModel.Service

/-- An address in its parts. -/
structure Address where
  /-- The scheme; empty if there is none. -/
  scheme : List Char := []
  /-- The user before the host. -/
  user : List Char := []
  /-- The host; empty if there is none. -/
  host : List Char := []
  /-- The port; empty if there is none. -/
  port : List Char := []
  /-- The path with its escapes. -/
  path : List Char := []
  /-- The query and the fragment. -/
  rest : List Char := []
  deriving DecidableEq, Repr

/-- Why no request can be sent. -/
inductive AddressFault where
  /-- The address is none. -/
  | invalid
  /-- The address holds a half of a surrogate pair, or a header what is not in ASCII. -/
  | unencodable
  /-- No request is sent by the scheme. -/
  | unknownScheme
  /-- The scheme asks for a connection that stays open. -/
  | connection
  /-- The host is one of version 6, behind whose first colon the port is looked for. -/
  | portNotNumeric (text : String)
  deriving DecidableEq, Repr

namespace Address

/-! ## Parts -/

def isSchemeChar (c : Char) : Bool := c.isAlphanum || c = '+' || c = '.' || c = '-'

/-- A scheme and what is behind it. -/
def splitScheme (s : List Char) : List Char × List Char :=
  match Text.cutFirst ':' s with
  | some (scheme, rest) =>
      if scheme.head?.all Char.isAlpha && scheme.all isSchemeChar then (scheme, rest) else ([], s)
  | none => ([], s)

/-- A character of an authority or of a path. -/
def isPathChar (c : Char) : Bool := c ≠ '?' && c ≠ '#'

/-- An authority and what is behind it. -/
def splitAuthority : List Char → List Char × List Char
  | '/' :: '/' :: s =>
      let isAuthorityChar (c : Char) : Bool := isPathChar c && c ≠ '/'
      (s.takeWhile isAuthorityChar, s.dropWhile isAuthorityChar)
  | s => ([], s)

/-- A host and what is behind it. A host between brackets may hold colons. -/
def splitHost (s : List Char) : List Char × List Char :=
  match s, Text.cutLast ']' s with
  | '[' :: _, some (inside, rest) => (inside ++ [']'], rest)
  | _, _ =>
      let isHostChar (c : Char) : Bool := c ≠ ':' && c ≠ '@'
      (s.takeWhile isHostChar, s.dropWhile isHostChar)

/-- The parts of an address. -/
def ofText (s : List Char) : Address :=
  let (scheme, s) := splitScheme s
  let (authority, s) := splitAuthority s
  let (user, place) := (Text.cutLast '@' authority).getD ([], authority)
  let (host, port) := splitHost place
  { scheme := scheme.map Char.toLower, user, host,
    port := match port with
      | ':' :: port => port
      | port => port,
    path := s.takeWhile isPathChar, rest := s.dropWhile isPathChar }

/-! ## Hosts -/

/-- How far a text with four numbers may have been read: in which number, and whether a digit of it has come. -/
abbrev Quarter := Nat × Bool

/-- The places that a further character leads to. Any character may stand between two numbers. -/
def quarterStep (places : List Quarter) (c : Char) : List Quarter :=
  let within := if c.isDigit then places.map fun p => (p.1, true) else []
  let behind := places.filterMap fun p => if p.2 && p.1 < 3 then some (p.1 + 1, false) else none
  (within ++ behind).eraseDups

/-- A host that looks like four numbers. -/
def isFourNumbers (host : List Char) : Bool := (host.foldl quarterStep [(0, false)]).contains (3, true)

/-- A number below 256 without zeros in front. -/
def isOctet (s : List Char) : Bool :=
  !s.isEmpty && s.length ≤ 3 && s.all Char.isDigit && (s = ['0'] || s.head? ≠ some '0') &&
    s.foldl (fun n d => 10 * n + (d.toNat - 0x30)) 0 ≤ 255

/-- An address of version 4. -/
def isVersion4 (s : List Char) : Bool :=
  let parts := Text.pieces '.' s
  parts.length = 4 && parts.all isOctet

/-- A group of at most four hexadecimal digits. -/
def isGroup (s : List Char) : Bool := !s.isEmpty && s.length ≤ 4 && s.all fun c => (Text.hexDigit? c).isSome

/-- Eight groups, of which some may be left out once, where two colons follow each other. -/
def isGroups (parts : List (List Char)) : Bool :=
  let inner := (parts.drop 1).dropLast
  match inner.filter (·.isEmpty) with
  | [] => parts.length = 8 && parts.all isGroup
  | [_] =>
      let before := parts.takeWhile (!·.isEmpty)
      let (before, after) :=
        if parts.head? = some [] then ([], parts.drop 2)
        else (before, parts.drop (before.length + 1))
      let after := if after = [[]] then [] else after
      before.length + after.length ≤ 7 && before.all isGroup && after.all isGroup
  | _ => false

/-- An address of version 6. Its last two groups may be one of version 4, and it may name a zone. -/
def isVersion6 (s : List Char) : Bool :=
  let (s, zoned) :=
    match Text.cutFirst '%' s with
    | some (a, zone) => (a, !zone.isEmpty && !zone.contains '%')
    | none => (s, true)
  let parts := Text.pieces ':' s
  let last := parts.getLast?.getD []
  let whole := if last.contains '.' then parts.dropLast ++ [['0'], ['0']] else parts
  zoned && 3 ≤ parts.length && whole.length ≤ 9 && (!last.contains '.' || isVersion4 last) && isGroups whole

/-- A letter beyond ASCII that the name of a host may have. Symbols and forms for compatibility are none. -/
def isNameLetter (c : Char) : Bool :=
  let n := c.toNat
  (Text.isCased c || (0x300 ≤ n && n < 0x2000) || (0x3005 ≤ n && n < 0xD7A4) ||
      (0xFA0E ≤ n && n < 0xFA30) || (0x10000 ≤ n && n < 0x1D000) || (0x20000 ≤ n && n < 0x2F800)) &&
    0xDF ≤ n && Text.smalls c = [c]

/-- A label of a host: letters, digits and hyphens, of which none is at an end. -/
def isLabel (s : List Char) : Bool :=
  !s.isEmpty && s.length ≤ 63 && s.head? ≠ some '-' && s.getLast? ≠ some '-' &&
    s.all fun c => if c.toNat < 0x80 then c.isAlphanum || c = '-' else isNameLetter c

/-- A host may be asked. -/
def isHost (host : List Char) : Bool :=
  if isFourNumbers host then isVersion4 host
  else if host.head? = some '[' && host.getLast? = some ']' then isVersion6 ((host.drop 1).dropLast)
  else if host.all (·.toNat < 0x80) then true
  else
    let labels := Text.pieces '.' (Text.lower host)
    (if labels.getLast? = some [] then labels.dropLast else labels).all isLabel

/-! ## Faults -/

/-- How long an address may be. -/
def maxLength : Nat := 65536

/-- A character that no address has. -/
def isControl (c : Char) : Bool := c.toNat < 0x20 || c.toNat = 0x7F

def portNumber? (port : List Char) : Option Int := (Numeral.readInteger (Text.trimWhile Text.isBlank port)).toOption

/-- There is nothing before the path. -/
def isAlone (a : Address) : Bool := a.scheme.isEmpty && a.user.isEmpty && a.host.isEmpty && a.port.isEmpty

/-- The path fits what is before it: alone, it does not begin like an authority or like what is behind a scheme. -/
def fits (a : Address) : Bool := !a.isAlone || !(a.path.take 2 = ['/', '/'] || a.path.head? = some ':')

/-- The address says all by itself where a request is sent. Others are looked up below the root of the service. -/
def isWhole (a : Address) : Bool := !a.scheme.isEmpty && !a.host.isEmpty

/-- The schemes by which requests are sent, with their ports, and whether the connection stays open. -/
def schemes : List (String × Int × Bool) :=
  [("http", 80, false), ("https", 443, false), ("ws", 80, true), ("wss", 443, true)]

/-- The fault of a whole address, of which the host and the port are asked. -/
def serviceFault? (a : Address) : Option AddressFault :=
  match schemes.lookup (String.ofList a.scheme) with
  | none => some .unknownScheme
  | some (usual, stays) =>
      match a.host, Text.cutFirst ':' a.host with
      | '[' :: _, some (_, behind) =>
          let port := ((portNumber? a.port).filter (· ≠ usual)).elim "" fun n => ":" ++ toString n
          some (.portNotNumeric (String.ofList behind ++ port))
      | _, _ => if stays then some .connection else none

/-- Why no request can be sent to an address. -/
def fault? (s : List Char) : Option AddressFault :=
  let a := ofText s
  if maxLength < s.length || s.any isControl then some .invalid
  else if Text.hasHalf (String.ofList a.user) then some .unencodable
  else if !isHost a.host || !(a.port.isEmpty || (portNumber? a.port).isSome) || !a.fits then some .invalid
  else if Text.hasHalf (String.ofList (a.path ++ a.rest)) then some .unencodable
  else if a.isWhole then a.serviceFault?
  else none

end Address

end EntityModel.Service
