import EntityModel.Edm.Name
import EntityModel.Xml.Tree

/-!
# Aliases

A document may declare a short name for a namespace, and a reference may then use the short name in place of
the namespace. Only the first segment of a reference is looked at, so a namespace of one segment hides
behind an alias of the same name. Where a short name is declared more than once, the last declaration counts.
-/

namespace EntityModel.Csdl

open Xml (Element)

/-- Short names with their namespaces, in the order of their declarations. -/
abbrev Aliases := List (String × String)

namespace Aliases

/-- The namespace that a short name stands for. -/
def space? (aliases : Aliases) (short : String) : Option String := aliases.reverse.lookup short

/-- A name with a short name at its front replaced by the namespace. -/
def expand (aliases : Aliases) (name : String) : String :=
  match Text.cutFirst '.' name.toList with
  | none => name
  | some (short, rest) =>
      match aliases.space? (String.ofList short) with
      | none => name
      | some space => space ++ "." ++ String.ofList rest

/-- A reference to a type, or to a collection of it, by its full name. -/
def qualify (aliases : Aliases) (reference : String) : String :=
  let r := TypeReference.ofText reference
  { r with element := aliases.expand r.element : TypeReference }.text

/-- A target path with its part before the first slash by its full name. -/
def qualifyTarget (aliases : Aliases) (target : String) : String :=
  match Text.cutFirst '/' target.toList with
  | none => aliases.qualify target
  | some (head, tail) => aliases.qualify (String.ofList head) ++ "/" ++ String.ofList tail

/-- The reference in an attribute by its full name; empty if there is none. -/
def reference (aliases : Aliases) (e : Element) (name : String) : String :=
  aliases.qualify (e.attributeD name)

end Aliases

/-- A text, unless it is empty. -/
def nonEmpty? (s : String) : Option String := if s = "" then none else some s

/-! ## Declarations -/

/-- The aliases that the schemas of a document declare for themselves. -/
def schemaAliases (schemas : List Element) : Aliases :=
  schemas.filterMap fun s => (nonEmpty? (s.attributeD "Alias")).map (·, s.attributeD "Namespace")

/-- The namespaces that a document includes, each with its alias if it has one. -/
def inclusions (root : Element) : List (Option String × String) :=
  (root.childrenNamed ["Reference"]).flatMap fun r =>
    (r.childrenNamed ["Include"]).map fun i => (nonEmpty? (i.attributeD "Alias"), i.attributeD "Namespace")

/-- The aliases among the inclusions. -/
def includedAliases (included : List (Option String × String)) : Aliases :=
  included.filterMap fun i => i.1.map (·, i.2)

/-- The references that the inclusions make: by alias, or by the namespace itself if it has none. -/
def referencesOf (included : List (Option String × String)) : List (String × String) :=
  included.filterMap fun i =>
    match i.1 with
    | some short => some (short, i.2)
    | none => (nonEmpty? i.2).map fun space => (space, space)

end EntityModel.Csdl
