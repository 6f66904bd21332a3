import EntityModel.CodeModel.Store

/-!
# What changes of a store are seen

A store is looked at through four views: the type at a place, the class there, the method there, and the
property at a place. This module tells what each change of a store does to them. A change of a class is seen in
that class alone, and no view of another type or property notices it.
-/

namespace EntityModel.CodeModel.Store

variable {s : Store} {t u : TypeId} {p q : PropertyId}

/-! ## Properties of a class -/

theorem property?_of_mem_declared {e : PropertyId × Property} (h : e ∈ s.declared t) :
    s.property? e.1 = some e.2 := by
  obtain ⟨p, -, hp⟩ := List.mem_filterMap.1 h
  obtain ⟨x, hx, rfl⟩ := Option.map_eq_some_iff.1 hp
  exact hx

/-! ## Changing a class -/

theorem type?_changeClass (f : ClassDetail → ClassDetail) :
    (s.changeClass t f).type? u =
      (s.type? u).map fun e => if t = u then { e with shape := changeShape f e.shape } else e := by
  have hindex : t.index = u.index ↔ t = u := by cases t; cases u; simp
  simp only [type?, changeClass, List.getElem?_modify, hindex]
  rfl

theorem class?_changeShape (f : ClassDetail → ClassDetail) (x : Shape) :
    (changeShape f x).class? = x.class?.map f := by cases x <;> rfl

theorem class?_changeClass (f : ClassDetail → ClassDetail) :
    (s.changeClass t f).class? u = if t = u then (s.class? u).map f else s.class? u := by
  rw [class?, type?_changeClass, class?]
  cases s.type? u with
  | none => simp
  | some e =>
      by_cases h : t = u
      · simp [h, class?_changeShape]
      · simp [h]

@[simp] theorem length_types_changeClass (f : ClassDetail → ClassDetail) :
    (s.changeClass t f).types.length = s.types.length := by simp [changeClass]

/-! ## Adding a type -/

theorem type?_addType (e : TypeEntry) :
    (s.addType e).1.type? u = if u.index = s.types.length then some e else s.type? u := by
  simp only [type?, addType]
  by_cases h : u.index = s.types.length
  · rw [if_pos h, h, List.getElem?_concat_length]
  · rw [if_neg h]
    by_cases hlt : u.index < s.types.length
    · rw [List.getElem?_append_left hlt]
    · have hle : s.types.length + 1 ≤ u.index := by omega
      rw [List.getElem?_eq_none (by simpa using hle), List.getElem?_eq_none (by omega)]

/-- A type that is no class is seen by none of the classes. -/
theorem class?_addType {e : TypeEntry} (he : e.shape.class? = none) :
    (s.addType e).1.class? u = s.class? u := by
  rw [class?, type?_addType, class?]
  split
  · next h =>
      have hnone : s.type? u = none := List.getElem?_eq_none (Nat.le_of_eq h.symm)
      rw [hnone]
      exact he
  · rfl

theorem type?_addType_of_some {e x : TypeEntry} (h : s.type? u = some x) :
    (s.addType e).1.type? u = some x := by
  have hlt : u.index < s.types.length := (List.getElem?_eq_some_iff.1 h).1
  rw [type?_addType, if_neg (Nat.ne_of_lt hlt), h]

/-! ## Adding a member -/

/-- The store with one more property, the last one of a class. -/
def withProperty (s : Store) (c : TypeId) (x : Property) : Store :=
  let s' : Store := { s with properties := s.properties ++ [{ x with owner := some c }] }
  s'.changeClass c fun d => { d with properties := d.properties ++ [⟨s.properties.length⟩] }

/-- The store with one more method, the last one of a class. -/
def withMethod (s : Store) (c : TypeId) (name : QualifiedName) (m : MethodDetail) : Store :=
  (s.addType ⟨name, .method { m with owner := some c }⟩).1.changeClass c fun d =>
    { d with methods := d.methods ++ [⟨s.types.length⟩] }

theorem modify_length_concat {α : Type} (l : List α) (a : α) (f : α → α) :
    (l ++ [a]).modify l.length f = l ++ [f a] := by
  induction l with
  | nil => rfl
  | cons b l ih => simpa using ih

theorem attachProperty_addProperty (c : TypeId) (x : Property) :
    (s.addProperty x).1.attachProperty c (s.addProperty x).2 = s.withProperty c x := by
  simp only [attachProperty, addProperty, changeProperty, withProperty, modify_length_concat]

theorem attachMethod_addType (c : TypeId) (name : QualifiedName) (m : MethodDetail) :
    (s.addType ⟨name, .method m⟩).1.attachMethod c (s.addType ⟨name, .method m⟩).2 =
      s.withMethod c name m := by
  simp only [attachMethod, addType, withMethod, modify_length_concat]

/-- The method stands behind the types that were there. -/
theorem type?_withMethod_length (c : TypeId) (name : QualifiedName) (m : MethodDetail) :
    (s.withMethod c name m).type? ⟨s.types.length⟩ =
      some ⟨name, .method { m with owner := some c }⟩ := by
  rw [withMethod, type?_changeClass, type?_addType, if_pos rfl, Option.map_some]
  split
  · rfl
  · rfl

theorem properties_withProperty (c : TypeId) (x : Property) :
    (s.withProperty c x).properties = s.properties ++ [{ x with owner := some c }] := rfl

theorem class?_withProperty (c : TypeId) (x : Property) :
    (s.withProperty c x).class? u =
      if c = u then
        (s.class? u).map fun d => { d with properties := d.properties ++ [⟨s.properties.length⟩] }
      else s.class? u := class?_changeClass _

theorem class?_withMethod (c : TypeId) (name : QualifiedName) (m : MethodDetail) :
    (s.withMethod c name m).class? u =
      if c = u then
        (s.class? u).map fun d => { d with methods := d.methods ++ [⟨s.types.length⟩] }
      else s.class? u := by
  rw [withMethod, class?_changeClass, class?_addType rfl]

end EntityModel.CodeModel.Store
