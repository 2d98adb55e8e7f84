-- SUMMARY: The bytes of a text scanned as characters: a written string is skipped up to its closing quote, and a span is decoded to what was written.
import WikiMarkup.Proofs.JsonText
import WikiMarkup.Proofs.TextBytes
import WikiMarkup.Store.Renderings

/-!
# Bytes scanned as characters

A stored rendering is read from spans of its bytes, which are scanned as characters of the same
number. An ASCII character is its own byte, so whatever steers the scan is where it is in the text;
the bytes of any other character are skipped one by one. A span between two such places holds the
bytes of the characters there and is decoded to them.
-/

namespace WikiMarkup

namespace Json

/-! ## Bytes scanned as characters -/

/-- The bytes of a text as characters of the same number. -/
def byteChars (cs : List Char) : List Char := ofByteChars (Text.bytes (String.ofList cs))

theorem byteChars_append (cs ds : List Char) : byteChars (cs ++ ds) = byteChars cs ++ byteChars ds := by
  rw [byteChars, byteChars, byteChars, Text.bytes_ofList, Text.bytes_ofList, Text.bytes_ofList,
    List.flatMap_append, ofByteChars, List.map_append]
  rfl

theorem byteChars_singleton (c : Char) :
    byteChars [c] = (String.utf8EncodeChar c).map fun b => Char.ofNat b.toNat := by
  rw [byteChars, Text.bytes_ofList, List.flatMap_singleton]
  rfl

theorem byteChars_ascii {cs : List Char} (h : ∀ c ∈ cs, c.toNat < 128) : byteChars cs = cs := by
  induction cs with
  | nil => rfl
  | cons c cs ih =>
    have hc := h c List.mem_cons_self
    have hsize : c.toNat < 256 := by omega
    rw [← List.singleton_append, byteChars_append, ih fun d hd => h d (List.mem_cons_of_mem _ hd),
      byteChars_singleton, Text.encodeChar_of_lt hc, List.map_singleton,
      UInt8.toNat_ofNat_of_lt' hsize, Char.ofNat_toNat]

-- The condition as a `Bool`, for the punctuation that is given character by character.
theorem byteChars_of_all {cs : List Char} (h : (cs.all fun c => c.toNat < 128) = true) :
    byteChars cs = cs :=
  byteChars_ascii fun c hc => of_decide_eq_true (List.all_eq_true.mp h c hc)

theorem toNat_ofNat_toNat (b : UInt8) : (Char.ofNat b.toNat).toNat = b.toNat := by
  have hb := b.toNat_lt
  rw [Char.ofNat, dif_pos (.inl (by omega))]
  rfl

/-- The bytes of a span are those that it stands for. -/
theorem spanText?_byteChars (cs : List Char) : spanText? (byteChars cs) = some cs := by
  have hbytes : (byteChars cs).map (fun c => UInt8.ofNat c.toNat) = Text.bytes (String.ofList cs) := by
    rw [byteChars, ofByteChars, List.map_map]
    refine (List.map_congr_left fun b _ => ?_).trans (List.map_id _)
    rw [Function.comp_apply, toNat_ofNat_toNat, UInt8.ofNat_toNat]
    rfl
  rw [spanText?, hbytes, Text.ofBytes?_bytes, Option.map_some, String.toList_ofList]

/-! ## Skipping strings -/

/-- So many steps skip a piece of a string, whatever follows it. -/
def Skipped (steps : Nat) (piece : List Char) : Prop :=
  ∀ fuel rest, skipCharacters (steps + fuel) (piece ++ rest) = skipCharacters fuel rest

theorem Skipped.append {m n : Nat} {piece piece' : List Char} (h : Skipped m piece)
    (h' : Skipped n piece') : Skipped (m + n) (piece ++ piece') := by
  intro fuel rest
  rw [Nat.add_assoc, List.append_assoc, h, h']

theorem skipped_short {letter : Char} (h : (shortEscape? letter).isSome = true) :
    Skipped 1 ['\\', letter] := by
  intro fuel rest
  have hunit : letter ≠ 'u' := by
    rintro rfl
    cases h
  rw [Nat.add_comm]
  simp [skipCharacters, h]

theorem skipped_control {c : Char} (h : c.toNat < 0x20) :
    Skipped 1 ['\\', 'u', '0', '0', Text.hexDigit (c.toNat / 16), Text.hexDigit (c.toNat % 16)] := by
  intro fuel rest
  rw [Nat.add_comm]
  simp [skipCharacters, readUnit_control h rest]

/-- Characters are skipped one by one if none is escaped and none ends the string. -/
theorem skipped_raw {piece : List Char}
    (h : ∀ c ∈ piece, c ≠ '"' ∧ c ≠ '\\' ∧ ¬ c.toNat < 0x20) : Skipped piece.length piece := by
  induction piece with
  | nil =>
    intro fuel rest
    rw [List.length_nil, Nat.zero_add, List.nil_append]
  | cons c piece ih =>
    intro fuel rest
    obtain ⟨hquote, hbackslash, hcontrol⟩ := h c List.mem_cons_self
    have hpiece := ih (fun d hd => h d (List.mem_cons_of_mem _ hd)) fuel rest
    rw [List.length_cons, Nat.add_right_comm, List.cons_append, ← hpiece]
    simp [skipCharacters, hbackslash, hcontrol]

/-- The bytes of a written character are skipped. -/
theorem skipped_escapeChar (c : Char) :
    ∃ steps, steps ≤ (byteChars (escapeChar c)).length ∧
      Skipped steps (byteChars (escapeChar c)) := by
  have hshort : ∀ letter : Char, letter.toNat < 128 → (shortEscape? letter).isSome = true →
      ∃ steps, steps ≤ (byteChars ['\\', letter]).length ∧
        Skipped steps (byteChars ['\\', letter]) := by
    intro letter hletter hescape
    have hbytes : byteChars ['\\', letter] = ['\\', letter] := by
      refine byteChars_ascii fun d hd => ?_
      simp only [List.mem_cons, List.not_mem_nil, or_false] at hd
      rcases hd with rfl | rfl
      · decide
      · exact hletter
    rw [hbytes]
    exact ⟨1, by simp, skipped_short hescape⟩
  unfold escapeChar
  split
  · exact hshort _ (by decide) rfl
  split
  · exact hshort _ (by decide) rfl
  split
  · exact hshort _ (by decide) rfl
  split
  · exact hshort _ (by decide) rfl
  split
  · exact hshort _ (by decide) rfl
  split
  · exact hshort _ (by decide) rfl
  split
  · exact hshort _ (by decide) rfl
  split
  · next hcontrol =>
    have hdigit : ∀ n < 16, (Text.hexDigit n).toNat < 128 := by decide
    have hhigh := hdigit (c.toNat / 16) (by omega)
    have hlow := hdigit (c.toNat % 16) (by omega)
    rw [byteChars_ascii]
    · exact ⟨1, by simp, skipped_control hcontrol⟩
    · intro d hd
      simp only [List.mem_cons, List.not_mem_nil, or_false] at hd
      rcases hd with rfl | rfl | rfl | rfl | rfl | rfl
      · decide
      · decide
      · decide
      · decide
      · exact hhigh
      · exact hlow
  · next hquote hbackslash _ _ _ _ _ hcontrol =>
    refine ⟨_, Nat.le_refl _, skipped_raw ?_⟩
    by_cases hascii : c.toNat < 128
    · rw [byteChars_ascii (by simpa using hascii)]
      simpa using ⟨hquote, hbackslash, Nat.le_of_not_lt hcontrol⟩
    · intro d hd
      rw [byteChars_singleton] at hd
      obtain ⟨b, hb, rfl⟩ := List.mem_map.mp hd
      have hhigh := Text.le_of_mem_encodeChar (Nat.le_of_not_lt hascii) hb
      rw [← toNat_ofNat_toNat] at hhigh
      refine ⟨?_, ?_, by omega⟩
      · intro heq
        rw [heq] at hhigh
        exact absurd hhigh (by decide)
      · intro heq
        rw [heq] at hhigh
        exact absurd hhigh (by decide)

/-- The bytes of a written string are skipped up to its closing quote. -/
theorem skipString_escaped (s : String) (rest : List Char) :
    skipString (byteChars (s.toList.flatMap escapeChar) ++ '"' :: rest) = .ok ((), rest) := by
  have hsteps : ∀ cs : List Char, ∃ steps, steps ≤ (byteChars (cs.flatMap escapeChar)).length ∧
      Skipped steps (byteChars (cs.flatMap escapeChar)) := by
    intro cs
    induction cs with
    | nil => exact ⟨0, Nat.zero_le _, @skipped_raw [] nofun⟩
    | cons c cs ih =>
      obtain ⟨m, hm, hc⟩ := skipped_escapeChar c
      obtain ⟨n, hn, hcs⟩ := ih
      rw [List.flatMap_cons, byteChars_append]
      refine ⟨m + n, ?_, hc.append hcs⟩
      rw [List.length_append]
      omega
  obtain ⟨steps, hle, hskipped⟩ := hsteps s.toList
  generalize byteChars (s.toList.flatMap escapeChar) = piece at hle hskipped ⊢
  obtain ⟨fuel, hfuel⟩ : ∃ fuel, (piece ++ '"' :: rest).length + 1 = steps + (fuel + 1) := by
    refine ⟨(piece ++ '"' :: rest).length - steps, ?_⟩
    rw [List.length_append]
    omega
  rw [skipString, hfuel, hskipped]
  simp [skipCharacters]

/-! ## Spans -/

/-- The characters of the bytes of a written string, without its quotes. -/
def written (s : String) : List Char := byteChars (s.toList.flatMap escapeChar)

theorem before_append (span rest : List Char) : before (span ++ rest) rest = span := by
  rw [before, List.length_append, Nat.add_sub_cancel, List.take_left]

theorem byteChars_printString (s : String) :
    byteChars (printString s) = '"' :: (written s ++ ['"']) := by
  have hquote : byteChars ['"'] = ['"'] := byteChars_of_all (by decide)
  rw [printString, List.cons_append, ← List.singleton_append, byteChars_append, byteChars_append,
    hquote]
  rfl

theorem readNameSpan_written (s : String) (rest : List Char) :
    readNameSpan (written s ++ '"' :: rest) = .ok (written s ++ ['"'], rest) := by
  have hspan := before_append (written s ++ ['"']) rest
  rw [List.append_assoc, List.singleton_append] at hspan
  rw [readNameSpan, written, skipString_escaped, ← written, ok_bind]
  dsimp only
  rw [hspan]

theorem spanName?_written (s : String) : spanName? (written s ++ ['"']) = some s := by
  have hquote : byteChars ['"'] = ['"'] := byteChars_of_all (by decide)
  rw [spanName?, written, ← hquote, ← byteChars_append, spanText?_byteChars]
  simp [readString_escaped s []]

end Json

end WikiMarkup
