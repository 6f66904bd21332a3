import EntityModel.Csdl.Document

/-!
# Documents that begin with a tag

A text has bytes in UTF-8, and from these its characters come back. A document that begins with a tag has no byte order
mark and no declaration that could name another encoding, so what is read is what its characters say
(`readDocument_of_tag`, `readText_of_tag`).
-/

namespace EntityModel.Text

variable {c : Char} {cs : List Char}

theorem toList_byteArray (bytes : ByteArray) : bytes.toList = bytes.data.toList := by
  have hloop : ∀ i r, ByteArray.toList.loop bytes i r = r.reverse ++ bytes.data.toList.drop i := by
    intro i r
    fun_induction ByteArray.toList.loop bytes i r with
    | case1 i r h ih =>
        have hi : i < bytes.data.toList.length := h
        have hget : bytes.get! i = bytes.data.toList[i] := getElem!_pos bytes.data i h
        rw [ih, List.reverse_cons, List.append_assoc, List.drop_eq_getElem_cons hi, hget]
        rfl
    | case2 i r h => rw [List.drop_eq_nil_of_le (Nat.le_of_not_lt h), List.append_nil]
  exact hloop 0 []

/-- The code points of a text are those of its characters, if none of them is reserved. -/
theorem codes_of_unreserved (h : cs.all fun c => !isReserved c.toNat) : codes cs = cs.map Char.toNat := by
  induction cs with
  | nil => rfl
  | cons c cs ih =>
      rw [List.all_cons, Bool.and_eq_true, Bool.not_eq_true'] at h
      obtain ⟨hc, hcs⟩ := h
      have hmark : (c.toNat == markCode) = false := (Bool.or_eq_false_iff.1 hc).2
      simp only [codes, codesFrom, hmark, hc, Bool.false_eq_true, if_false, List.map_cons] at ih ⊢
      rw [ih hcs]

/-- No character is a half. -/
theorem isHalfUnit_toNat (c : Char) : isHalfUnit c.toNat = false := by
  have hvalid : c.toNat < 0xD800 ∨ 0xDFFF < c.toNat ∧ c.toNat < 0x110000 := c.valid
  simp only [isHalfUnit, Bool.and_eq_false_iff, decide_eq_false_iff_not]
  omega

/-- The bytes of a text are those of its characters, if none of them is reserved. -/
theorem utf8?_ofList (h : cs.all fun c => !isReserved c.toNat) :
    utf8? (String.ofList cs) = some (cs.flatMap String.utf8EncodeChar) := by
  have hcodes : codes (String.ofList cs).toList = cs.map Char.toNat := by
    rw [String.toList_ofList, codes_of_unreserved h]
  have hhalf : hasHalf (String.ofList cs) = false := by
    rw [hasHalf, hcodes, List.any_map, List.any_eq_false]
    exact fun c _ => Bool.eq_false_iff.1 (isHalfUnit_toNat c)
  have hchars : (cs.map Char.toNat).map Char.ofNat = cs := by
    rw [List.map_map]
    exact List.map_id'' Char.ofNat_toNat cs
  rw [utf8?, hhalf, if_neg (by decide), hcodes, hchars, String.toUTF8, String.toByteArray_ofList, List.utf8Encode,
    toList_byteArray, List.toList_data_toByteArray]

/-- A character of the ASCII range is one byte. -/
theorem utf8EncodeChar_of_lt (h : c.toNat < 128) : String.utf8EncodeChar c = [c.toNat.toUInt8] :=
  if_pos (Nat.le_of_lt_succ h)

theorem flatMap_utf8EncodeChar (h : cs.all fun c => decide (c.toNat < 128)) :
    cs.flatMap String.utf8EncodeChar = cs.map fun c => c.toNat.toUInt8 := by
  induction cs with
  | nil => rfl
  | cons c cs ih =>
      rw [List.all_cons, Bool.and_eq_true, decide_eq_true_eq] at h
      obtain ⟨hc, hcs⟩ := h
      rw [List.flatMap_cons, utf8EncodeChar_of_lt hc, ih hcs]
      rfl

end EntityModel.Text

namespace EntityModel

/-- The characters come back from their bytes. -/
theorem Charset.Unicode.utf8?_flatMap (cs : List Char) : utf8? (cs.flatMap String.utf8EncodeChar) = some cs := by
  have hbytes : (⟨(cs.flatMap String.utf8EncodeChar).toArray⟩ : ByteArray) = (String.ofList cs).toByteArray := by
    rw [String.toByteArray_ofList, List.utf8Encode]
    exact ByteArray.ext (by simp)
  rw [utf8?, hbytes, String.fromUTF8?, dif_pos (String.ofList cs).isValidUTF8]
  exact congrArg some String.toList_ofList

end EntityModel

namespace EntityModel.Xml

variable {c : Char} {cs : List Char}

theorem toNat_of_isAlpha (h : c.isAlpha) : 65 ≤ c.toNat ∧ c.toNat < 128 := by
  have hupper : c.isUpper = true → 65 ≤ c.toNat ∧ c.toNat ≤ 90 := by
    intro h
    have hcode : c.isUpper = decide (65 ≤ c.toNat ∧ c.toNat ≤ 90) := rfl
    simpa [hcode] using h
  have hlower : c.isLower = true → 97 ≤ c.toNat ∧ c.toNat ≤ 122 := by
    intro h
    have hcode : c.isLower = (decide (97 ≤ c.toNat) && decide (c.toNat ≤ 122)) := rfl
    simpa [hcode] using h
  rcases Bool.or_eq_true_iff.1 h with h | h
  · have := hupper h
    omega
  · have := hlower h
    omega

/-- The bytes of a tag settle no encoding and declare none. -/
theorem Encoding.read?_of_tag (h : c.isAlpha) :
    Encoding.read? (('<' :: c :: cs).flatMap String.utf8EncodeChar) = some ('<' :: c :: cs) := by
  obtain ⟨hlow, hhigh⟩ := toNat_of_isAlpha h
  have hbytes : ('<' :: c :: cs).flatMap String.utf8EncodeChar =
      0x3C :: c.toNat.toUInt8 :: cs.flatMap String.utf8EncodeChar := by
    rw [List.flatMap_cons, List.flatMap_cons, Text.utf8EncodeChar_of_lt hhigh]
    rfl
  have hbyte : c.toNat.toUInt8.toNat = c.toNat := Nat.mod_eq_of_lt (by omega)
  have hnone : detect? (('<' :: c :: cs).flatMap String.utf8EncodeChar) = none := by
    have hzero : c.toNat.toUInt8 ≠ 0 := by
      intro hzero
      rw [hzero, UInt8.toNat_zero] at hbyte
      omega
    rw [hbytes]
    unfold detect?
    split <;> simp_all
  have hhead : Scan.headEncoding ((('<' :: c :: cs).flatMap String.utf8EncodeChar).map fun b => Char.ofNat b.toNat) =
      none := by
    have hmark : '?' ≠ c := by
      rintro rfl
      exact absurd h (by decide)
    rw [hbytes, List.map_cons, List.map_cons, hbyte, Char.ofNat_toNat]
    simp [Scan.headEncoding, Scan.literal, Scan.stripLiteral, hmark, bind, StateT.bind, Option.bind]
  simp only [Encoding.read?, hnone, hhead]
  exact Charset.Unicode.utf8?_flatMap _

/-- A document that begins with a tag is taken for its characters. -/
theorem Document.read?_of_tag {root : Element} (h : c.isAlpha) (hroot : Document.ofChars? ('<' :: c :: cs) = some root) :
    Document.read? (('<' :: c :: cs).flatMap String.utf8EncodeChar) = some root := by
  rw [Document.read?, Encoding.read?_of_tag h]
  exact hroot

end EntityModel.Xml

namespace EntityModel.Csdl

open Xml (Element)

variable {c : Char} {cs : List Char} {root : Element}

/-- A document that begins with a tag is read as its characters. -/
theorem readDocument_of_tag (hc : c.isAlpha) (hroot : Xml.Document.ofChars? ('<' :: c :: cs) = some root) :
    readDocument (('<' :: c :: cs).flatMap String.utf8EncodeChar) = readRoot root := by
  have hblank : (('<' :: c :: cs).flatMap String.utf8EncodeChar).all isBlankByte = false := by
    rw [List.flatMap_cons, Text.utf8EncodeChar_of_lt (by decide)]
    rfl
  rw [readDocument, hblank, Xml.Document.read?_of_tag hc hroot, if_neg (by decide)]

theorem readText_of_tag (hc : c.isAlpha) (hchars : ('<' :: c :: cs).all fun d => !Text.isReserved d.toNat)
    (hroot : Xml.Document.ofChars? ('<' :: c :: cs) = some root) :
    readText (String.ofList ('<' :: c :: cs)) = readRoot root := by
  rw [readText, Text.utf8?_ofList hchars]
  exact readDocument_of_tag hc hroot

end EntityModel.Csdl
