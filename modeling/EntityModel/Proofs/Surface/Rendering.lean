import EntityModel.Proofs.Json.Layout
import EntityModel.Surface.Format

/-!
# Rendering a surface

The text of a surface is in characters of ASCII and has the members of every object in the order of their names. It is
read back as the surface with the halves of pairs taken together in its texts, and two surfaces have the same text exactly
if they are the same with pairs taken together (`render_faithful`). A surface can be written: it has no numbers, and the
depth of its value is fixed (`writable`). No two surfaces are written as the same value, even if the order of members does
not count (`sorted_injective`).

So a rendering loses nothing but the difference between a character and two halves of it that stand next to each other
(`joined_eq_self_iff`), and it loses this one (`not_render_faithful_of_halves`). Characters that are no halves are never
joined (`Text.isUnicode_ofPlain`), and what is read from JSON has one character for such a pair.
-/

namespace EntityModel

open CodeModel
open Json (Writable lookup_of_sorted_eq eq_of_sorted_list_eq)

namespace Surface

/-! ## Texts -/

/-- The texts of a navigation property. -/
def Navigation.texts (n : Navigation) : List String := n.name :: n.type :: (n.accessors ++ n.key.getD [])

/-- The texts of an entry; the words for its capabilities are none of them. -/
def Entry.texts (e : Entry) : List String :=
  e.name :: e.type :: e.projection.1 :: (e.navigation.flatMap Navigation.texts ++ e.accessors ++ e.key.getD [])

/-- The texts of an operation. -/
def Operation.texts (o : Operation) : List String := o.name :: o.verbs :: (o.parameters ++ o.returns.toList)

/-- The texts of a surface. -/
def texts (x : Surface) : List String :=
  x.service.toList ++ (x.collections ++ x.singletons).flatMap Entry.texts ++ x.operations.flatMap Operation.texts

/-- In no text of a surface two halves are next to each other that would be a pair. -/
def IsUnicode (x : Surface) : Prop := ∀ t ∈ x.texts, Text.IsUnicode t

instance : DecidablePred IsUnicode := fun x => inferInstanceAs (Decidable (∀ t ∈ x.texts, Text.IsUnicode t))

/-! ## Joined texts -/

/-- A navigation property with the halves of pairs taken together in its texts. -/
def Navigation.joined (n : Navigation) : Navigation :=
  { n with
    name := Text.joined n.name, type := Text.joined n.type, accessors := n.accessors.map Text.joined,
    key := n.key.map (List.map Text.joined) }

/-- An entry with the halves of pairs taken together in its texts. -/
def Entry.joined (e : Entry) : Entry :=
  { name := Text.joined e.name, type := Text.joined e.type,
    projection := (Text.joined e.projection.1, e.projection.2),
    navigation := e.navigation.map Navigation.joined, accessors := e.accessors.map Text.joined,
    key := e.key.map (List.map Text.joined) }

/-- An operation with the halves of pairs taken together in its texts. -/
def Operation.joined (o : Operation) : Operation :=
  { o with
    name := Text.joined o.name, verbs := Text.joined o.verbs, parameters := o.parameters.map Text.joined,
    returns := o.returns.map Text.joined }

/-- A surface with the halves of pairs taken together in its texts. -/
def joined (x : Surface) : Surface :=
  { service := x.service.map Text.joined, collections := x.collections.map Entry.joined,
    singletons := x.singletons.map Entry.joined, operations := x.operations.map Operation.joined }

/-- A list is left as it is exactly if each member is. -/
theorem map_eq_self_iff {α : Type} {f : α → α} {as : List α} : as.map f = as ↔ ∀ a ∈ as, f a = a := by
  have hid := List.map_inj_left (f := f) (g := id) (l := as)
  rwa [List.map_id] at hid

theorem map_joined_eq_self_iff {ss : List String} : ss.map Text.joined = ss ↔ ∀ t ∈ ss, Text.IsUnicode t := by
  simp only [map_eq_self_iff, Text.joined_eq_self_iff]

theorem map_key_eq_self_iff : ∀ {key : Option (List String)},
    key.map (List.map Text.joined) = key ↔ ∀ t ∈ key.getD [], Text.IsUnicode t
  | none => by simp
  | some ss => by simp [map_joined_eq_self_iff]

theorem map_text?_eq_self_iff : ∀ {o : Option String}, o.map Text.joined = o ↔ ∀ t ∈ o.toList, Text.IsUnicode t
  | none => by simp
  | some s => by simp [Text.joined_eq_self_iff]

theorem Navigation.joined_eq_self_iff {n : Navigation} : n.joined = n ↔ ∀ t ∈ n.texts, Text.IsUnicode t := by
  cases n
  simp only [joined, texts, Navigation.mk.injEq, List.forall_mem_cons, List.forall_mem_append, Text.joined_eq_self_iff,
    map_joined_eq_self_iff, map_key_eq_self_iff, true_and]

theorem Entry.joined_eq_self_iff {e : Entry} : e.joined = e ↔ ∀ t ∈ e.texts, Text.IsUnicode t := by
  obtain ⟨name, type, ⟨projected, capabilities⟩, navigation, accessors, key⟩ := e
  simp only [joined, texts, Entry.mk.injEq, Prod.mk.injEq, List.forall_mem_cons, List.forall_mem_append,
    List.forall_mem_flatMap, Text.joined_eq_self_iff, map_key_eq_self_iff, map_eq_self_iff, Navigation.joined_eq_self_iff,
    and_true, and_assoc]

theorem Operation.joined_eq_self_iff {o : Operation} : o.joined = o ↔ ∀ t ∈ o.texts, Text.IsUnicode t := by
  cases o
  simp only [joined, texts, Operation.mk.injEq, List.forall_mem_cons, List.forall_mem_append, Text.joined_eq_self_iff,
    map_joined_eq_self_iff, map_text?_eq_self_iff, and_true]

/-- Taking pairs together changes exactly the surfaces that have halves of one next to each other. -/
theorem joined_eq_self_iff {x : Surface} : x.joined = x ↔ x.IsUnicode := by
  cases x
  simp only [joined, IsUnicode, texts, Surface.mk.injEq, List.forall_mem_append, List.forall_mem_flatMap,
    map_text?_eq_self_iff, map_eq_self_iff, Entry.joined_eq_self_iff, Operation.joined_eq_self_iff, and_assoc]

/-! ## Written surfaces -/

section Written

variable {depth : Nat} {k : Option (List String)}

/-- An object with the names of key properties behind some other members can be written. -/
theorem writable_keyed {fs : List (String × Json)} (names : List String)
    (hnames : fs.map (·.1) = names) (hnodup : (names ++ ["key"]).Nodup)
    (hunicode : ∀ n ∈ names ++ ["key"], Text.IsUnicode n) (h : ∀ f ∈ fs, Writable (depth + 1) f.2) :
    Writable (depth + 2) (.object (fs ++ keyMember k)) := by
  subst hnames
  cases k with
  | none =>
      rw [keyMember, List.append_nil]
      exact Writable.of_names _ rfl (List.nodup_append.1 hnodup).1 (List.forall_mem_append.1 hunicode).1 h
  | some ss =>
      refine Writable.of_names _ List.map_append hnodup hunicode ?_
      exact List.forall_mem_append.2 ⟨h, List.forall_mem_singleton.2 (Writable.texts ss)⟩

theorem writable_capability (c : Capability) : Writable (depth + 1) c.toJson := by
  refine Writable.of_names ["kind", "flag"] rfl (by decide) (by decide) ?_
  simp only [List.forall_mem_cons]
  exact ⟨.text _, .bool _, List.forall_mem_nil _⟩

theorem writable_projection (type : String) (cs : List Capability) : Writable (depth + 3) (projectionJson type cs) := by
  refine Writable.of_names ["type", "capabilities"] rfl (by decide) (by decide) ?_
  simp only [List.forall_mem_cons]
  exact ⟨.text _, .list (List.forall_mem_map.2 fun c _ => writable_capability c), List.forall_mem_nil _⟩

theorem Navigation.writable (n : Navigation) : Writable (depth + 2) n.toJson := by
  refine writable_keyed ["name", "type", "is_collection", "expandable", "accessors"] rfl (by decide) (by decide) ?_
  simp only [List.forall_mem_cons]
  exact ⟨.text _, .text _, .bool _, .bool _, Writable.texts _, List.forall_mem_nil _⟩

theorem Entry.writable (e : Entry) : Writable (depth + 4) e.toJson := by
  refine writable_keyed ["name", "type", "projection", "navigation", "accessors"] rfl (by decide) (by decide) ?_
  simp only [List.forall_mem_cons]
  exact ⟨.text _, .text _, writable_projection _ _, .list (List.forall_mem_map.2 fun n _ => n.writable),
    Writable.texts _, List.forall_mem_nil _⟩

theorem Operation.writable (o : Operation) : Writable (depth + 2) o.toJson := by
  refine Writable.of_names ["name", "verbs", "parameters", "returns", "returns_collection"] rfl (by decide) (by decide)
    ?_
  simp only [List.forall_mem_cons]
  exact ⟨.text _, .text _, Writable.texts _, Writable.ofText? _, .bool _, List.forall_mem_nil _⟩

/-- Every surface can be written. -/
theorem writable (x : Surface) : Writable (depth + 6) x.toJson := by
  refine Writable.of_names ["service", "collections", "singletons", "operations"] rfl (by decide) (by decide) ?_
  simp only [List.forall_mem_cons]
  exact ⟨Writable.ofText? _, .list (List.forall_mem_map.2 fun e _ => e.writable),
    .list (List.forall_mem_map.2 fun e _ => e.writable), .list (List.forall_mem_map.2 fun o _ => o.writable),
    List.forall_mem_nil _⟩

/-! ## What is written of joined texts -/

theorem joined_texts (ss : List String) : Json.joined (.texts ss) = .texts (ss.map Text.joined) := by
  simp [Json.texts, Json.joined, Json.joinedItems_eq_map]

theorem joined_ofText? : ∀ o : Option String, Json.joined (.ofText? o) = .ofText? (o.map Text.joined)
  | none => rfl
  | some _ => rfl

theorem joinedFields_keyMember :
    Json.joinedFields (keyMember k) = keyMember (k.map (List.map Text.joined)) := by
  cases k with
  | none => rfl
  | some ss => simp [keyMember, Json.joinedFields, joined_texts]

/-- The parts of an array may be joined before they are written. -/
theorem joined_list {α : Type} {f : α → Json} {g : α → α} (h : ∀ a, Json.joined (f a) = f (g a)) (as : List α) :
    Json.joined (.list (as.map f)) = .list ((as.map g).map f) := by
  rw [Json.joined, Json.joinedItems_eq_map, List.map_map, List.map_map]
  exact congrArg Json.list (List.map_congr_left fun a _ => h a)

/-- The words for capabilities have no halves. -/
theorem joined_capability (c : Capability) : Json.joined c.toJson = c.toJson := by
  have hword : Text.joined c.kind.text = c.kind.text := by cases c.kind <;> decide
  simp only [Capability.toJson, Json.joined, Json.joinedFields, hword]

theorem joined_projection (type : String) (cs : List Capability) :
    Json.joined (projectionJson type cs) = projectionJson (Text.joined type) cs := by
  have hlist := joined_list (g := id) joined_capability cs
  rw [List.map_id] at hlist
  simp only [projectionJson, Json.joined, Json.joinedFields] at hlist ⊢
  rw [hlist]

theorem Navigation.joined_toJson (n : Navigation) : Json.joined n.toJson = n.joined.toJson := by
  simp only [Navigation.toJson, Navigation.joined, List.cons_append, List.nil_append, Json.joined, Json.joinedFields,
    joined_texts, joinedFields_keyMember]

theorem Entry.joined_toJson (e : Entry) : Json.joined e.toJson = e.joined.toJson := by
  have hnavigation := joined_list Navigation.joined_toJson e.navigation
  simp only [Json.joined] at hnavigation
  simp only [Entry.toJson, Entry.joined, List.cons_append, List.nil_append, Json.joined, Json.joinedFields, joined_texts,
    joinedFields_keyMember, joined_projection, hnavigation]

theorem Operation.joined_toJson (o : Operation) : Json.joined o.toJson = o.joined.toJson := by
  simp only [Operation.toJson, Operation.joined, Json.joined, Json.joinedFields, joined_texts, joined_ofText?]

/-- A joined surface is written as the surface, joined. -/
theorem joined_toJson (x : Surface) : Json.joined x.toJson = x.joined.toJson := by
  simp only [toJson, joined, Json.joined, Json.joinedFields, joined_ofText?,
    ← joined_list Entry.joined_toJson, ← joined_list Operation.joined_toJson]

end Written

/-! ## Different surfaces are written differently -/

theorem lookup_keyMember (k : Option (List String)) :
    ((keyMember k).lookup "key").map Json.sorted = k.map Json.texts := by
  cases k <;> simp [keyMember]

theorem text_injective : Function.Injective CapabilityKind.text := fun k k' h => by
  have hkind := congrArg CapabilityKind.ofText? h
  rwa [CapabilityKind.ofText?_text, CapabilityKind.ofText?_text, Option.some.injEq] at hkind

/-- Capabilities are written with different words for different kinds. -/
theorem capability_injective : Function.Injective fun c : Capability => c.toJson.sorted := fun c c' h => by
  have hmember := lookup_of_sorted_eq h
  have hkind : c.kind.text = c'.kind.text := by simpa [Json.sorted] using hmember "kind"
  have hflag : c.flag = c'.flag := by simpa [List.lookup_cons, Json.sorted] using hmember "flag"
  cases c
  cases c'
  rw [Capability.mk.injEq]
  exact ⟨text_injective hkind, hflag⟩

theorem Navigation.sorted_injective : Function.Injective fun n : Navigation => n.toJson.sorted := fun n n' h => by
  have hmember := lookup_of_sorted_eq h
  have hname : n.name = n'.name := by simpa [Json.sorted] using hmember "name"
  have htype : n.type = n'.type := by simpa [List.lookup_cons, Json.sorted] using hmember "type"
  have hcollection : n.collection = n'.collection := by
    simpa [List.lookup_cons, Json.sorted] using hmember "is_collection"
  have hexpandable : n.expandable = n'.expandable := by simpa [List.lookup_cons, Json.sorted] using hmember "expandable"
  have haccessors : n.accessors = n'.accessors :=
    Json.texts_injective (by simpa [List.lookup_cons] using hmember "accessors")
  have hkey : n.key = n'.key := Option.map_injective Json.texts_injective (by
    simpa [List.lookup_cons, lookup_keyMember] using hmember "key")
  cases n
  cases n'
  rw [Navigation.mk.injEq]
  exact ⟨hname, htype, hcollection, hexpandable, haccessors, hkey⟩

theorem Entry.sorted_injective : Function.Injective fun e : Entry => e.toJson.sorted := fun e e' h => by
  have hmember := lookup_of_sorted_eq h
  have hname : e.name = e'.name := by simpa [Json.sorted] using hmember "name"
  have htype : e.type = e'.type := by simpa [List.lookup_cons, Json.sorted] using hmember "type"
  have hprojection : (projectionJson e.projection.1 e.projection.2).sorted =
      (projectionJson e'.projection.1 e'.projection.2).sorted := by simpa [List.lookup_cons] using hmember "projection"
  have hnavigation : e.navigation = e'.navigation :=
    eq_of_sorted_list_eq Navigation.sorted_injective (by simpa [List.lookup_cons] using hmember "navigation")
  have haccessors : e.accessors = e'.accessors :=
    Json.texts_injective (by simpa [List.lookup_cons] using hmember "accessors")
  have hkey : e.key = e'.key := Option.map_injective Json.texts_injective (by
    simpa [List.lookup_cons, lookup_keyMember] using hmember "key")
  have hmember := lookup_of_sorted_eq hprojection
  have hprojected : e.projection.1 = e'.projection.1 := by simpa [Json.sorted] using hmember "type"
  have hcapabilities : e.projection.2 = e'.projection.2 :=
    eq_of_sorted_list_eq capability_injective (by simpa [List.lookup_cons] using hmember "capabilities")
  cases e
  cases e'
  rw [Entry.mk.injEq]
  exact ⟨hname, htype, Prod.ext hprojected hcapabilities, hnavigation, haccessors, hkey⟩

theorem Operation.sorted_injective : Function.Injective fun o : Operation => o.toJson.sorted := fun o o' h => by
  have hmember := lookup_of_sorted_eq h
  have hname : o.name = o'.name := by simpa [Json.sorted] using hmember "name"
  have hverbs : o.verbs = o'.verbs := by simpa [List.lookup_cons, Json.sorted] using hmember "verbs"
  have hparameters : o.parameters = o'.parameters :=
    Json.texts_injective (by simpa [List.lookup_cons] using hmember "parameters")
  have hreturns : o.returns = o'.returns :=
    Json.ofText?_injective (by simpa [List.lookup_cons] using hmember "returns")
  have hcollection : o.collection = o'.collection := by
    simpa [List.lookup_cons, Json.sorted] using hmember "returns_collection"
  cases o
  cases o'
  rw [Operation.mk.injEq]
  exact ⟨hname, hverbs, hparameters, hreturns, hcollection⟩

/-- No two surfaces are written as one value, even if the order of members does not count. -/
theorem sorted_injective : Function.Injective fun x : Surface => x.toJson.sorted := fun x x' h => by
  have hmember := lookup_of_sorted_eq h
  have hservice : x.service = x'.service := Json.ofText?_injective (by simpa using hmember "service")
  have hcollections : x.collections = x'.collections :=
    eq_of_sorted_list_eq Entry.sorted_injective (by simpa [List.lookup_cons] using hmember "collections")
  have hsingletons : x.singletons = x'.singletons :=
    eq_of_sorted_list_eq Entry.sorted_injective (by simpa [List.lookup_cons] using hmember "singletons")
  have hoperations : x.operations = x'.operations :=
    eq_of_sorted_list_eq Operation.sorted_injective (by simpa [List.lookup_cons] using hmember "operations")
  cases x
  cases x'
  rw [Surface.mk.injEq]
  exact ⟨hservice, hcollections, hsingletons, hoperations⟩

/-! ## Rendering -/

section Rendering

variable {x x' : Surface} {s : Store} {m : Model} {root : Option TypeId}

/-- A rendering is read back as the joined surface with its members in order. -/
theorem read_render (x : Surface) : Json.read x.render = .ok x.joined.toJson.sorted := by
  rw [render, Json.read_render (writable x), joined_toJson]

/-- A surface has the same text as with the halves of pairs taken together. -/
theorem render_joined (x : Surface) : x.joined.render = x.render := by
  rw [render, ← joined_toJson, Json.render_joined, render]

/-- Two surfaces are rendered as one text exactly if they are the same with the halves of pairs taken together. -/
theorem render_eq_iff : x.render = x'.render ↔ x.joined = x'.joined := by
  constructor
  · intro htext
    have hread := read_render x
    rw [htext, read_render x', Except.ok.injEq] at hread
    exact sorted_injective hread.symm
  · intro h
    rw [← render_joined x, h, render_joined]

/-- A model has a surface if its root is not refused. -/
theorem exists_ofModel (h : m.root? s = .ok root) : ∃ x, ofModel s m = .ok x := by
  rw [ofModel, h]
  cases root with
  | none => exact ⟨_, rfl⟩
  | some t => exact ⟨_, rfl⟩

/-- If the root of a model is not refused, it has a surface. The text of it has characters of ASCII only, and it is laid
out with the members of every object in the order of their names. It is read back as the surface with the halves of pairs
taken together, which is the surface itself exactly if no text of it has two such halves next to each other. Another
surface has the same text exactly if it is the same with the halves of pairs taken together. -/
theorem render_faithful (h : m.root? s = .ok root) :
    ∃ x, ofModel s m = .ok x ∧ Text.IsAscii x.render.toList ∧
      (∃ v, v.Same x.toJson ∧ v.IsSorted ∧ x.render = String.ofList (Json.indentedChars 0 v)) ∧
      (∃ v, v.Same x.joined.toJson ∧ v.IsSorted ∧ Json.read x.render = .ok v) ∧
      (x.joined = x ↔ x.IsUnicode) ∧
      ∀ s' m' x', ofModel s' m' = .ok x' → (x.render = x'.render ↔ x.joined = x'.joined) := by
  obtain ⟨x, hx⟩ := exists_ofModel h
  refine ⟨x, hx, Json.isAscii_render _, ⟨_, Json.sorted_same _, Json.isSorted_sorted _, rfl⟩,
    ⟨_, Json.sorted_same _, Json.isSorted_sorted _, read_render x⟩, joined_eq_self_iff, ?_⟩
  intro _ _ x' _
  exact render_eq_iff

/-- A service with one collection, whose names are beyond ASCII. -/
def cafeStore : Store :=
  { types :=
      [⟨⟨"Stadt", "Name"⟩, .primitive⟩,
       ⟨⟨"Stadt", "Café"⟩, .structured { properties := [⟨0⟩], key := [⟨0⟩] }⟩,
       ⟨⟨"Stadt", "Service"⟩, .structured { kind := .service, properties := [⟨1⟩] }⟩],
    properties :=
      [{ name := "🏷", type := ⟨0⟩ },
       { name := "\"Cafés\"", type := ⟨1⟩, collection := true,
         assigned := some { type := ⟨1⟩, capabilities := [⟨.delete, false⟩] } }] }

/-- The model of that service. -/
def cafeModel : Model := { registry := { namespaces := [{ name := "Stadt", types := [⟨1⟩, ⟨2⟩] }] } }

/-- What is shown of the cafés is written in ASCII, is read back, and is not what is shown of an empty model. -/
theorem render_faithful_of_cafes :
    cafeModel.root? cafeStore = .ok (some ⟨2⟩) ∧
      ∃ x, ofModel cafeStore cafeModel = .ok x ∧ x.IsUnicode ∧ Text.IsAscii x.render.toList ∧
        (∃ v, v.Same x.toJson ∧ v.IsSorted ∧ Json.read x.render = .ok v) ∧ x.render ≠ ({} : Surface).render := by
  have hroot : cafeModel.root? cafeStore = .ok (some ⟨2⟩) := by rfl
  obtain ⟨x, hx, hascii, -, hread, hjoined, hdiffer⟩ := render_faithful hroot
  obtain rfl : ofRoot cafeStore ⟨2⟩ = x := Except.ok.inj hx
  have hunicode : (ofRoot cafeStore ⟨2⟩).IsUnicode := by decide
  rw [hjoined.2 hunicode] at hread
  refine ⟨hroot, _, hx, hunicode, hascii, hread, ?_⟩
  exact mt (hdiffer {} {} {} rfl).1 (by decide)

/-- A service with nothing to show but its name. -/
def nameStore (name : String) : Store := { types := [⟨⟨"NS", name⟩, .structured { kind := .service }⟩] }

/-- The model of that service. -/
def nameModel : Model := { registry := { namespaces := [{ name := "NS", types := [⟨0⟩] }] } }

/-- The two halves of a character next to each other, as code points of their own. -/
def halves : String := String.ofList (Text.ofCodes [0xD83C, 0xDFF7])

/-- A service whose name is two halves of a character has another surface than one whose name is this character. Both are
rendered as one text, and what is read from it names the second service. -/
theorem not_render_faithful_of_halves :
    nameModel.root? (nameStore halves) = .ok (some ⟨0⟩) ∧ nameModel.root? (nameStore "🏷") = .ok (some ⟨0⟩) ∧
      ∃ x x', ofModel (nameStore halves) nameModel = .ok x ∧ ofModel (nameStore "🏷") nameModel = .ok x' ∧
        x ≠ x' ∧ x.render = x'.render ∧
        ∃ v, Json.read x.render = .ok v ∧ v.get? "service" = some (.text "NS.🏷") ∧
          x.toJson.get? "service" ≠ some (.text "NS.🏷") := by
  have hjoined : (ofRoot (nameStore halves) ⟨0⟩).joined = ofRoot (nameStore "🏷") ⟨0⟩ := by decide
  have hread := read_render (ofRoot (nameStore halves) ⟨0⟩)
  rw [hjoined] at hread
  refine ⟨rfl, rfl, _, _, rfl, rfl, by decide, ?_, _, hread, rfl, ?_⟩
  · rw [← hjoined, render_joined]
  · rw [toJson, Json.get?]
    intro hservice
    exact absurd (Json.text.inj (Option.some.inj hservice)) (by decide)

end Rendering

end Surface

end EntityModel
