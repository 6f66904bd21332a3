import EntityModel.Text.Split

/-!
# Files

A file that is named in a call, as it is found: with its content, or not at all. Looking for it may fail without an
answer, which is not the same as finding nothing. Messages show the name of a file with the steps of its path that lead
nowhere left out.
-/

namespace EntityModel

/-- What is found under a path. -/
inductive FileContent where
  /-- Nothing. A path that cannot be one, since it has a zero or no bytes, is a path where nothing is found. -/
  | missing
  /-- The path cannot be followed: a step of it or the whole is too long, or it leads through a closed directory. -/
  | unreachable
  | directory
  /-- A file with its bytes. -/
  | bytes (content : List UInt8)
  deriving DecidableEq, Repr

/-- A file by its name. -/
structure SourceFile where
  /-- Its name, as messages show it. -/
  name : String
  /-- What is found there. -/
  content : FileContent
  deriving DecidableEq, Repr

/-- What stands before the first step of a path: a slash or exactly two of them. -/
def rootOf (path : List Char) : String :=
  match (path.takeWhile (· = '/')).length with
  | 0 => ""
  | 2 => "//"
  | _ => "/"

/-- A path without the steps that stay where they are. -/
def plainPath (path : String) : String :=
  let steps := (Text.segments '/' path).filter fun s => s ≠ "" && s ≠ "."
  let plain := rootOf path.toList ++ "/".intercalate steps
  if plain = "" then "." else plain

end EntityModel
