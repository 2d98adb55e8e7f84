-- SUMMARY: The bytes of a text are read back as the text, and a byte below 128 stands for its character and is part of no other.
import WikiMarkup.Store.Entries

/-!
# Texts as bytes

The bytes of a text are those of its characters one after the other. A character below 128 is one
byte and every byte of another character is at least 128, so what looks for such a character may
look for its byte. The first line of an entry is split off that way: a tag without a line end is
read back whatever its other characters are, and so are the bytes behind it.
-/

namespace WikiMarkup

/-! ## Bytes of texts -/

namespace Text

theorem ofBytes?_bytes (s : String) : ofBytes? (bytes s) = some s := by
  have hbytes : (⟨(bytes s).toArray⟩ : ByteArray) = s.toByteArray := rfl
  rw [ofBytes?, hbytes, String.fromUTF8?, dif_pos s.isValidUTF8]
  rfl

theorem bytes_ofList (cs : List Char) : bytes (String.ofList cs) = cs.flatMap String.utf8EncodeChar := by
  change (String.ofList cs).toByteArray.data.toList = _
  rw [String.toByteArray_ofList]
  exact List.toList_data_toByteArray

theorem bytes_eq_flatMap (s : String) : bytes s = s.toList.flatMap String.utf8EncodeChar := by
  rw [← bytes_ofList, String.ofList_toList]

theorem encodeChar_of_lt {c : Char} (h : c.toNat < 128) :
    String.utf8EncodeChar c = [UInt8.ofNat c.toNat] := by
  have hsize : c.utf8Size = 1 := by
    rw [Char.utf8Size_eq_one_iff, UInt32.le_iff_toNat_le]
    exact Nat.le_of_lt_succ h
  rw [String.utf8EncodeChar_eq_singleton hsize]
  rfl

theorem le_of_mem_encodeChar {c : Char} (h : 128 ≤ c.toNat) {b : UInt8}
    (hb : b ∈ String.utf8EncodeChar c) : 128 ≤ b.toNat := by
  have hmark : ∀ x y : UInt8, 128 ≤ y.toNat → 128 ≤ (x ||| y).toNat := by
    intro x y hy
    rw [UInt8.toNat_or]
    exact Nat.le_trans hy Nat.right_le_or
  obtain h1 | h2 | h3 | h4 := Char.utf8Size_eq c
  · have hle := UInt32.le_iff_toNat_le.mp (Char.utf8Size_eq_one_iff.mp h1)
    exact absurd (Nat.le_trans h hle) (by decide)
  · rw [String.utf8EncodeChar_eq_cons_cons h2] at hb
    simp only [List.mem_cons, List.not_mem_nil, or_false] at hb
    rcases hb with rfl | rfl <;> exact hmark _ _ (by decide)
  · rw [String.utf8EncodeChar_eq_cons_cons_cons h3] at hb
    simp only [List.mem_cons, List.not_mem_nil, or_false] at hb
    rcases hb with rfl | rfl | rfl <;> exact hmark _ _ (by decide)
  · rw [String.utf8EncodeChar_eq_cons_cons_cons_cons h4] at hb
    simp only [List.mem_cons, List.not_mem_nil, or_false] at hb
    rcases hb with rfl | rfl | rfl | rfl <;> exact hmark _ _ (by decide)

/-- A byte below 128 is in the bytes of a text only with its character. -/
theorem mem_of_mem_bytes {s : String} {c : Char} (hc : c.toNat < 128)
    (h : UInt8.ofNat c.toNat ∈ bytes s) : c ∈ s.toList := by
  rw [bytes_eq_flatMap, List.mem_flatMap] at h
  obtain ⟨d, hd, hbyte⟩ := h
  have hvalue : (UInt8.ofNat c.toNat).toNat = c.toNat :=
    UInt8.toNat_ofNat_of_lt' (Nat.lt_trans hc (by decide))
  by_cases hlow : d.toNat < 128
  · rw [encodeChar_of_lt hlow, List.mem_singleton] at hbyte
    have hvalue' : (UInt8.ofNat d.toNat).toNat = d.toNat :=
      UInt8.toNat_ofNat_of_lt' (Nat.lt_trans hlow (by decide))
    have hcd : c = d := by
      rw [← Char.ofNat_toNat c, ← Char.ofNat_toNat d, ← hvalue, ← hvalue', hbyte]
    rwa [hcd]
  · have hhigh := le_of_mem_encodeChar (Nat.le_of_not_lt hlow) hbyte
    omega

end Text

/-! ## Entries -/

namespace Entry

theorem splitLine_append {line value : List UInt8} (h : lineEnd ∉ line) :
    splitLine (line ++ lineEnd :: value) = (line, value) := by
  induction line with
  | nil => simp [splitLine]
  | cons b line ih =>
    have hb : b ≠ lineEnd := fun heq => h (heq ▸ List.mem_cons_self)
    have hrest := ih fun hmem => h (List.mem_cons_of_mem _ hmem)
    rw [List.cons_append, splitLine, if_neg hb, hrest]

/-- An entry stored under a tag of one line gives its bytes to that tag and to the empty one, and to
no other. -/
theorem decode?_encode {stored : String} (h : '\n' ∉ stored.toList) (tag : String)
    (value : List UInt8) :
    decode? tag (encode stored value) = if tag = "" ∨ tag = stored then some value else none := by
  have hline : lineEnd ∉ Text.bytes stored := fun hmem =>
    h (Text.mem_of_mem_bytes (c := '\n') (by decide) hmem)
  rw [decode?, encode, splitLine_append hline]
  simp only [Text.ofBytes?_bytes, Option.bind_eq_bind, Option.bind_some]
  by_cases hempty : tag = ""
  · simp [hempty]
  · by_cases hsame : tag = stored
    · simp [hsame]
    · simp [hempty, hsame, Ne.symm hsame]

end Entry

end WikiMarkup
