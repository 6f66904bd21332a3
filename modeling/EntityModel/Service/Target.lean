import EntityModel.Service.Address
import EntityModel.Text.Bytes
import EntityModel.Text.HexDigit
import EntityModel.Text.Split

/-!
# Targets

A target may be a whole address or a part of one. Its path is what is behind the scheme and the host, up to the
query or the fragment. A relative target is resolved against the root, so any number of slashes at its
front is one, and steps to the same or to the upper level are taken.

Escapes in a path are replaced twice: a client keeps the path without escapes, and the transport takes what
is still an escape for one. Requests are counted under the *shown* path, where the marks of a query and of a
fragment and the backslash are escapes again.
-/

namespace EntityModel.Service.Target

/-! ## Steps -/

/-- Takes a step; `taken` holds the steps before, in reverse. The root stays at the front. -/
def takeStep (taken : List (List Char)) (step : List Char) : List (List Char) :=
  if step = ['.'] then taken
  else if step = ['.', '.'] then (if taken = [[]] then taken else taken.tail)
  else step :: taken

/-- A path with the steps to the same or to the upper level taken. -/
def resolved (path : List Char) : List Char :=
  ['/'].intercalate ((Text.pieces '/' path).foldl takeStep []).reverse

/-- The path of a target with its escapes. -/
def rawPath (target : List Char) : List Char :=
  let a := Address.ofText target
  let path := if a.isAlone then a.path else resolved a.path
  if a.isWhole then path else resolved ('/' :: path.dropWhile (· = '/'))

/-! ## Escapes -/

/-- A path with its escapes replaced; `bytes` holds those of the escapes right before. -/
def unescapeFrom (bytes : List UInt8) : List Char → List Char
  | [] => Text.mended bytes
  | '%' :: a :: b :: s =>
      match Text.hexByte? a b with
      | some byte => unescapeFrom (bytes ++ [byte]) s
      | none => Text.mended bytes ++ '%' :: unescapeFrom [] (a :: b :: s)
  | c :: s => Text.mended bytes ++ c :: unescapeFrom [] s

/-- A path with its escapes replaced. -/
def unescape (s : List Char) : List Char := unescapeFrom [] s

/-- The path of a target; without one it is the root. -/
def path (target : String) : List Char :=
  let raw := rawPath target.toList
  unescape (unescape (if raw.isEmpty then ['/'] else raw))

/-- A character of a path as it is shown. Characters that do not belong into an address are left out. -/
def shownChar (c : Char) : List Char :=
  if c = '\t' || c = '\n' || c = '\r' then []
  else if c = '?' then ['%', '3', 'F']
  else if c = '#' then ['%', '2', '3']
  else if c = '\\' then ['%', '5', 'C']
  else [c]

def shown (path : List Char) : String := String.ofList (path.flatMap shownChar)

end EntityModel.Service.Target
