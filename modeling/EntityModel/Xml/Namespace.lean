import EntityModel.Xml.Expansion
import EntityModel.Xml.Tree
import EntityModel.Xml.Uri

/-!
# Namespaces of a start tag

A start tag binds labels to namespaces and has further attributes, some of them only declared. Here the
attributes as written are read one after the other (`Doctype.readAttributes?`), and the labels of the names are
resolved in the scope that the bindings give (`Scope.resolve`). A binding that is not allowed and a label that
is not bound are faults; a name with such a label is in no namespace, and the label stays a part of it.

Declared attributes that are not written do not belong to the element, but a lookup finds them
(`Doctype.declared`), and they bind labels too.
-/

namespace EntityModel.Xml

/-! ## Scopes -/

/-- The namespace that is bound to the label `xml`. -/
def xmlSpace : String := "http://www.w3.org/XML/1998/namespace"

/-- The namespace of the attributes that bind labels. -/
def bindingSpace : String := "http://www.w3.org/2000/xmlns/"

/-- What the labels in scope stand for, the innermost binding first; the empty label stands for the default
namespace. -/
abbrev Scope := List (String × String)

namespace Scope

/-- The scope around the root. -/
def initial : Scope := [("xml", xmlSpace)]

/-- The expanded name of an attribute, if its label is bound; without a label it is in no namespace. -/
def resolve (scope : Scope) (n : RawName) : Option Name :=
  if n.label = "" then some ⟨"", n.localName⟩
  else (scope.lookup n.label).map fun space => ⟨space, n.localName⟩

/-- The expanded name of an element, if its label is bound. -/
def resolveElement (scope : Scope) (n : RawName) : Option Name :=
  (if n.label = "" then some ((scope.lookup "").getD "") else scope.lookup n.label).map fun space =>
    ⟨space, n.localName⟩

/-- The bindings that are not hidden by inner ones. -/
def visible : Scope → Scope
  | [] => []
  | b :: bs => b :: (visible bs).filter fun c => c.1 != b.1

end Scope

namespace RawName

/-- The label that an attribute binds, if it is one that does. -/
def bound? (n : RawName) : Option String :=
  if n.label = "" then (if n.localName = "xmlns" then some "" else none)
  else if n.label = "xmlns" then some n.localName
  else none

/-- The name without a namespace, the label a part of it. -/
def unresolved (n : RawName) : Name := ⟨"", n.text⟩

end RawName

/-! ## Written attributes -/

/-- An attribute of a start tag whose value has been read. -/
structure WrittenAttribute where
  name : RawName
  /-- Its value as written, blanks that do not count left out. -/
  pieces : List Piece
  value : String

/-- The attributes of a start tag that have been read. -/
structure TagContent where
  /-- The bindings of labels, the first one first. -/
  bindings : Scope := []
  /-- The other attributes, the first one first. -/
  attributes : List WrittenAttribute := []
  /-- What has been noted. -/
  reckoning : Reckoning

namespace TagContent

/-- The content after a binding. The label must not be bound in the same tag before. -/
def bind? (t : TagContent) (label space : String) : Option TagContent :=
  if (t.bindings.lookup label).isSome then none
  else some { t with bindings := t.bindings ++ [(label, space)] }

/-- The content after a fault. -/
def fault (t : TagContent) : TagContent := { t with reckoning := t.reckoning.fault }

/-- The content after a reference to a namespace has been looked at: it must be well-formed, and one for the
default namespace should be absolute. -/
def checkReference (t : TagContent) (label space : String) : TagContent :=
  if !Uri.isReference space.toList then t.fault
  else if label = "" && !Uri.isAbsolute space.toList then { t with reckoning := t.reckoning.warn }
  else t

/-- The content after an attribute that binds a label. The two reserved labels and the two reserved namespaces
stay as they are, and only the default namespace may be empty. -/
def bindingAttribute? (t : TagContent) (label space : String) : Option TagContent :=
  if label = "" then
    let t := if space = "" then t else t.checkReference label space
    if space = xmlSpace || space = bindingSpace then some t.fault else t.bind? label space
  else if label = "xml" then some (if space = xmlSpace then t else t.fault)
  else if space = xmlSpace || label = "xmlns" || space = bindingSpace || space = "" then some t.fault
  else (t.checkReference label space).bind? label space

end TagContent

namespace Doctype

/-- The tag content after one more attribute. `depth` bounds the nesting of entities. -/
def readAttribute? (d : Doctype) (depth : Nat) (element : RawName) (t : TagContent) (a : RawAttribute) :
    Option TagContent := do
  let r := t.reckoning.faultIf !a.name.regular
  let pieces := if d.isTokenized element.text a.name.text then collapsePieces a.value else a.value
  match a.name.bound? with
  | some label =>
      let (r, value) ← d.replace? depth [] pieces r
      { t with reckoning := r }.bindingAttribute? label (String.ofList value)
  | none =>
      let r ← d.approveValue? true depth r pieces
      let odd := a.name = ⟨"xml", "space"⟩ && !(["default", "preserve"].contains (d.literal pieces))
      return { t with
        attributes := t.attributes ++ [⟨a.name, pieces, String.ofList (d.expand pieces)⟩]
        reckoning := if odd then r.warn else r }

/-- The content of a tag. -/
def readAttributes? (d : Doctype) (depth : Nat) (element : RawName) (r : Reckoning)
    (written : List RawAttribute) : Option TagContent :=
  written.foldlM (d.readAttribute? depth element) { reckoning := r }

/-! ## Declared attributes -/

/-- The bindings that are only declared. -/
def declaredBindings (d : Doctype) (element : RawName) (written : Scope) : Scope :=
  (d.fallbacks.filter fun r => RawName.ofDeclaration r.element = element).foldl (fun bs r =>
    match (RawName.ofDeclaration r.name).bound?, r.fallback with
    | some label, some space =>
        if label = "xml" || ((written ++ bs).lookup label).isSome then bs else bs ++ [(label, space)]
    | _, _ => bs) []

/-- The reckoning after a declared attribute that binds no label, given the names of the ones before, with the
names up to now. Such an attribute counts like a reference unless it is written. It is a fault if its label
is not bound and if its expanded name is written with another label. -/
def reckonFallback? (scope : Scope) (state : Reckoning × List (String × Name)) (f : AttributeRule) :
    Option (Reckoning × List (String × Name)) := do
  let name := RawName.ofDeclaration f.name
  let resolved := scope.resolve name
  let r := state.1.faultIf resolved.isNone
  let full := resolved.getD ⟨"", name.localName⟩
  let cost := f.name.utf8ByteSize + (f.fallback.getD "").utf8ByteSize
  match state.2.find? fun t => t.2 = full with
  | some (label, _) =>
      if label = name.label then return (r, state.2)
      else return (← r.fault.spend? cost, state.2)
  | none => return (← r.spend? cost, state.2 ++ [(name.label, full)])

/-- The reckoning after all declared attributes of an element type, given the names of the written ones. -/
def reckonFallbacks? (d : Doctype) (element : RawName) (scope : Scope) (taken : List (String × Name))
    (r : Reckoning) : Option Reckoning :=
  let rules := d.fallbacks.filter fun f =>
    RawName.ofDeclaration f.element = element && (RawName.ofDeclaration f.name).bound?.isNone
  (rules.foldlM (reckonFallback? scope) (r, taken)).map (·.1)

/-- The declared attributes that a lookup on an element finds. In a namespace they are found under the labels that
are bound to it, of which the first one with a declaration counts. -/
def declared (d : Doctype) (element : RawName) (scope : Scope) : List Attribute :=
  let rules := (d.rules.filter fun r => r.element = element.text).map fun r =>
    (RawName.ofDeclaration r.name, r.fallback)
  let plain := rules.filterMap fun r =>
    if r.1.label = "" then some ((⟨"", r.1.localName⟩ : Name), r.2) else none
  let spaced := scope.visible.flatMap fun b =>
    (rules.filter fun r => r.1.label = b.1).map fun r => ((⟨b.2, r.1.localName⟩ : Name), r.2)
  let first := (plain ++ spaced).foldl (fun (found : List (Name × Option String)) p =>
    if found.any fun q => q.1 = p.1 then found else found ++ [p]) []
  first.filterMap fun p => p.2.map fun v => ⟨p.1, v⟩

end Doctype

/-! ## Names and identifiers -/

/-- The reckoning after one more name of an attribute has been resolved, given the names of the ones before, with
the names up to now. It is a fault if the label is not bound, and such a name is not compared with others. No name
may be written twice; it is a fault if two names stand for the same. -/
def Scope.reckonName? (scope : Scope) (state : Reckoning × List (String × Name)) (n : RawName) :
    Option (Reckoning × List (String × Name)) :=
  match scope.resolve n with
  | none => some (state.1.fault, state.2)
  | some full =>
      match state.2.find? fun t => t.2 = full with
      | none => some (state.1, state.2 ++ [(n.label, full)])
      | some (label, _) => if label = n.label then none else some (state.1.fault, state.2)

/-- The reckoning after the names of the attributes of a tag have been resolved. -/
def Scope.reckonNames? (scope : Scope) (names : List RawName) (r : Reckoning) :
    Option (Reckoning × List (String × Name)) :=
  names.foldlM scope.reckonName? (r, [])

/-- The value of a universal identifier: a name without a colon, with white space around it. -/
def isIdentifier (s : List Char) : Bool :=
  isNcName ((s.dropWhile isXmlSpace).reverse.dropWhile isXmlSpace).reverse

/-- The reckoning after the identifiers among the attributes of a tag. An identifier may not be empty, and no two
elements may have the same. Values with references to entities are no identifiers. -/
def Doctype.reckonIdentifiers (d : Doctype) (element : RawName) (attributes : List WrittenAttribute)
    (r : Reckoning) : Reckoning :=
  attributes.foldl (fun r a =>
    let universal := a.name = ⟨"xml", "id"⟩
    let typed := d.rules.any fun q =>
      q.element = element.text && RawName.ofDeclaration q.name = a.name && q.kind = .identifier
    if (universal || typed) && !d.hasReference a.pieces then
      let r := r.faultIf (universal && !isIdentifier a.value.toList)
      if a.value = "" || r.identifiers.contains a.value then r.fault
      else { r with identifiers := a.value :: r.identifiers }
    else r) r

end EntityModel.Xml
