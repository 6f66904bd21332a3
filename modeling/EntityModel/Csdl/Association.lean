import EntityModel.Csdl.Alias

/-!
# Associations

The older dialect does not give a navigation property a type. It names an association, which is declared
somewhere in the document, and the role at which the property ends. The end with that role tells where the
property leads and how many there are.

Where an association is declared more than once under one full name, or a role more than once in one
association, the last declaration counts.
-/

namespace EntityModel.Csdl

open Xml (Element)

/-- One end of an association. -/
structure AssociationEnd where
  /-- The full name of the type at this end. -/
  type : String
  /-- How many there are at this end, as written. -/
  multiplicity : String
  deriving DecidableEq, Repr

/-- There may be many at this end. -/
def AssociationEnd.isMany (e : AssociationEnd) : Bool := e.multiplicity == "*"

/-- There may be none at this end. -/
def AssociationEnd.isOptional (e : AssociationEnd) : Bool := e.multiplicity != "1"

/-- Associations by full name, each with its ends by role, in the order of their declarations. -/
abbrev Associations := List (String × List (String × AssociationEnd))

/-- The end of an association with a role. -/
def Associations.end? (as : Associations) (relationship role : String) : Option AssociationEnd :=
  (as.reverse.lookup relationship).bind fun ends => ends.reverse.lookup role

def associationEnds (aliases : Aliases) (e : Element) : List (String × AssociationEnd) :=
  (e.childrenNamed ["End"]).map fun x =>
    (x.attributeD "Role", ⟨aliases.reference x "Type", (x.attribute? "Multiplicity").getD "1"⟩)

/-- The associations that a schema declares. One without a name goes by the name `None`. -/
def schemaAssociations (aliases : Aliases) (schema : Element) : Associations :=
  (schema.childrenNamed ["Association"]).map fun e =>
    (schema.attributeD "Namespace" ++ "." ++ (e.attribute? "Name").getD "None",
      associationEnds aliases e)

end EntityModel.Csdl
