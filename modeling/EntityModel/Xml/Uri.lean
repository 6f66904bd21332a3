/-!
# References to resources

The name of a namespace has to be a reference to a resource, absolute or relative: a scheme, an authority, a
path, a query and a fragment, each optional, in ASCII characters and percent escapes. Only the syntax
matters here. Nothing is resolved.

A part is taken off the front of the characters by a function to the characters behind it. Every part is as
long as its characters allow, so a reference is well-formed if nothing is left behind its fragment.
-/

namespace EntityModel.Xml.Uri

/-! ## Characters -/

/-- A letter, a digit or one of four marks. -/
def isUnreserved (c : Char) : Bool := c.isAlphanum || "-._~".toList.contains c

/-- A delimiter within a component. -/
def isSubDelimiter (c : Char) : Bool := "!$&'()*+,;=".toList.contains c

/-- A hexadecimal digit. -/
def isHex (c : Char) : Bool := c.isDigit || ('a' ≤ c && c ≤ 'f') || ('A' ≤ c && c ≤ 'F')

/-- A character of the name of a host. -/
def isHostChar (c : Char) : Bool := isUnreserved c || isSubDelimiter c

/-- A character of the user information. -/
def isUserChar (c : Char) : Bool := isHostChar c || c == ':'

/-- A character of a segment of a path. -/
def isPathChar (c : Char) : Bool := isUserChar c || c == '@'

def isQueryChar (c : Char) : Bool := isPathChar c || c == '/' || c == '?'

/-- A character of a fragment; brackets may stand in it. -/
def isFragmentChar (c : Char) : Bool := isQueryChar c || c == '[' || c == ']'

/-- What follows the longest run of characters of a kind and percent escapes. -/
def skip (p : Char → Bool) : List Char → List Char
  | '%' :: a :: b :: s => if isHex a && isHex b then skip p s else '%' :: a :: b :: s
  | c :: s => if p c then skip p s else c :: s
  | [] => []

/-! ## Parts -/

/-- What follows the user information and its sign, if there is some. -/
def afterUser (s : List Char) : List Char :=
  match skip isUserChar s with
  | '@' :: r => r
  | _ => s

/-- What follows a host: an address in brackets, which may hold anything, or a name, which may be empty. -/
def afterHost? : List Char → Option (List Char)
  | '[' :: s =>
      match s.dropWhile (· != ']') with
      | _ :: r => some r
      | [] => none
  | s => some (skip isHostChar s)

/-- The greatest number of a socket: the greatest signed number of 32 bits. -/
def maxSocket : Nat := 2147483647

/-- What follows the number of a socket and the colon before it, if there is one. -/
def afterSocket? : List Char → Option (List Char)
  | ':' :: s =>
      let digits := s.takeWhile Char.isDigit
      let n := digits.foldl (fun n d => 10 * n + (d.toNat - 0x30)) 0
      if digits.isEmpty || maxSocket < n then none else some (s.dropWhile Char.isDigit)
  | s => some s

/-- What follows the segments of a path, each behind a slash. -/
def afterSegments : List Char → List Char
  | '/' :: s => skip (fun c => isPathChar c || c == '/') s
  | s => s

/-- What follows an authority and a path, or a path whose first segment is made of characters of a kind. -/
def afterPath? (first : Char → Bool) : List Char → Option (List Char)
  | '/' :: '/' :: s => do
      let s ← afterHost? (afterUser s)
      let s ← afterSocket? s
      return afterSegments s
  | s => some (afterSegments (skip first s))

/-- The characters are a fragment with its sign, or there are none. -/
def isFragment : List Char → Bool
  | '#' :: s => (skip isFragmentChar s).isEmpty
  | s => s.isEmpty

/-- The characters are a query with its sign and a fragment, both optional. -/
def isEnd : List Char → Bool
  | '?' :: s => isFragment (skip isQueryChar s)
  | s => isFragment s

/-! ## References -/

/-- What follows a scheme and its colon: a letter, then letters, digits and three marks. -/
def afterScheme? : List Char → Option (List Char)
  | c :: s =>
      if c.isAlpha then
        match s.dropWhile fun c => c.isAlphanum || c == '+' || c == '-' || c == '.' with
        | ':' :: r => some r
        | _ => none
      else none
  | [] => none

/-- A reference with a scheme. -/
def isAbsolute (s : List Char) : Bool :=
  (afterScheme? s).any fun r => (afterPath? isPathChar r).any isEnd

/-- A reference without a scheme. A colon in its first segment would make that segment a scheme. -/
def isRelative (s : List Char) : Bool := (afterPath? (fun c => isPathChar c && c != ':') s).any isEnd

/-- A well-formed reference. -/
def isReference (s : List Char) : Bool := isAbsolute s || isRelative s

end EntityModel.Xml.Uri
