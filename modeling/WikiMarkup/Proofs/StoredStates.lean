-- SUMMARY: Renderings are read from the bytes that they are stored as, whatever their texts are and with the states of extensions.
import WikiMarkup.Proofs.Brackets
import WikiMarkup.Proofs.Sorting

/-!
# States of extensions are read back

A stored rendering holds a state for each name, in canonical order. Its bytes are split into spans,
so what is printed has to be skipped before it is read: a printed value is skipped as far as it is
printed if the texts of its numbers are numerals. The states are then read as they were stored, and
putting them in canonical order again changes nothing.
-/

namespace WikiMarkup

namespace Json

/-! ## Canonical values -/

section

variable {α : Type} {members sorted : List (String × α)}

theorem Sorted.nodup_names (h : Sorted sorted) : (sorted.map (·.1)).Nodup := by
  rw [List.nodup_iff_pairwise_ne, List.pairwise_map]
  refine List.Pairwise.imp ?_ h
  intro m n hlt heq
  exact String.lt_irrefl n.1 (heq ▸ hlt)

/-- A list in strict order is sorted already. -/
theorem Sorted.sortByName_eq (h : Sorted sorted) : sortByName sorted = sorted :=
  (sorted_sortByName sorted).ext h fun _ => mem_sortByName h.nodup_names

private theorem mem_of_mem_foldl {member : String × α} (hsorted : Sorted sorted)
    (h : member ∈ members.foldl (fun sorted m => putSorted m.1 m.2 sorted) sorted) :
    member ∈ members ∨ member ∈ sorted := by
  induction members generalizing sorted with
  | nil => exact .inr h
  | cons first rest ih =>
    rcases ih (hsorted.putSorted first.1 first.2) h with hmem | hmem
    · exact .inl (List.mem_cons_of_mem _ hmem)
    · rcases (mem_putSorted hsorted).mp hmem with rfl | ⟨hmem, -⟩
      · exact .inl List.mem_cons_self
      · exact .inr hmem

/-- Sorting adds no members. -/
theorem mem_of_mem_sortByName {member : String × α} (h : member ∈ sortByName members) :
    member ∈ members :=
  (mem_of_mem_foldl .nil h).resolve_right List.not_mem_nil

end

theorem canonicalItems_eq_map : (items : List Json) → canonicalItems items = items.map canonical
  | [] => rfl
  | v :: items => by
    rw [canonicalItems, canonicalItems_eq_map items]
    rfl

theorem canonicalMembers_eq_map : (members : List (String × Json)) →
    canonicalMembers members = members.map fun m => (m.1, m.2.canonical)
  | [] => rfl
  | (name, v) :: members => by
    rw [canonicalMembers, canonicalMembers_eq_map members]
    rfl

/-- Members whose values are in canonical order stay as they are once they are sorted. -/
theorem sortByName_canonicalMembers {members : List (String × Json)}
    (h : ∀ m ∈ members, m.2.canonical = m.2) :
    sortByName (canonicalMembers (sortByName members)) = sortByName members := by
  have hsame : canonicalMembers (sortByName members) = sortByName members := by
    rw [canonicalMembers_eq_map]
    refine (List.map_congr_left fun m hm => ?_).trans (List.map_id _)
    rw [h m (mem_of_mem_sortByName hm)]
    rfl
  rw [hsame, (sorted_sortByName members).sortByName_eq]

mutual

/-- A value in canonical order stays as it is. -/
theorem canonical_canonical : (v : Json) → v.canonical.canonical = v.canonical
  | .null => rfl
  | .boolean _ => rfl
  | .number _ => rfl
  | .text _ => rfl
  | .array items => by
    rw [canonical, canonical, canonicalItems_canonicalItems items]
  | .object members => by
    rw [canonical, canonical, sortByName_canonicalMembers (canonical_of_mem_members members)]

theorem canonicalItems_canonicalItems :
    (items : List Json) → canonicalItems (canonicalItems items) = canonicalItems items
  | [] => rfl
  | v :: items => by
    rw [canonicalItems, canonicalItems, canonical_canonical v, canonicalItems_canonicalItems items]

theorem canonical_of_mem_members :
    (members : List (String × Json)) → ∀ m ∈ canonicalMembers members, m.2.canonical = m.2
  | [] => nofun
  | (name, v) :: members => by
    intro m hm
    rw [canonicalMembers, List.mem_cons] at hm
    rcases hm with rfl | hm
    · exact canonical_canonical v
    · exact canonical_of_mem_members members m hm

end

/-- Canonical order is no deeper, and keeps the numbers. -/
theorem Readable.canonical {depth : Nat} {v : Json} (h : Readable depth v) :
    Readable depth v.canonical := by
  induction h with
  | null => exact .null
  | boolean b => exact .boolean b
  | number h => exact .number h
  | text s => exact .text s
  | array _ ih =>
    rw [Json.canonical, canonicalItems_eq_map]
    refine .array fun w hw => ?_
    obtain ⟨v, hv, rfl⟩ := List.mem_map.mp hw
    exact ih v hv
  | object _ ih =>
    rw [Json.canonical, canonicalMembers_eq_map]
    refine .object fun m hm => ?_
    obtain ⟨m', hm', rfl⟩ := List.mem_map.mp (mem_of_mem_sortByName hm)
    exact ih m' hm'

/-! ## Skipping what is printed -/

theorem byteChars_separated (texts : List (List Char)) :
    byteChars (separated texts) = separated (texts.map byteChars) := by
  induction texts with
  | nil => rfl
  | cons t texts ih =>
    cases texts with
    | nil => rfl
    | cons u texts =>
      rw [separated, byteChars_append, byteChars_cons (by decide), ih]
      rfl

theorem byteChars_memberText (name : String) (text : List Char) :
    byteChars (memberText (name.toList.flatMap escapeChar) text) =
      memberText (written name) (byteChars text) := by
  rw [memberText, byteChars_cons (by decide), byteChars_append, byteChars_cons (by decide),
    byteChars_cons (by decide)]
  rfl

theorem byteChars_print_array (items : List Json) :
    byteChars (Json.array items).print =
      '[' :: (separated (items.map (byteChars ∘ print)) ++ [']']) := by
  rw [print, List.cons_append, byteChars_cons (by decide), byteChars_append,
    printItems_eq_separated, byteChars_separated, List.map_map, byteChars_of_all (by decide)]

theorem byteChars_print_object (members : List (String × Json)) :
    byteChars (Json.object members).print =
      '\x7b' :: (separated (members.map fun m => memberText (written m.1) (byteChars m.2.print)) ++
        ['\x7d']) := by
  have hclose : byteChars ['\x7d'] = ['\x7d'] := byteChars_of_all (by decide)
  rw [print, List.cons_append, byteChars_cons (by decide), byteChars_append,
    printMembers_eq_separated, byteChars_separated, List.map_map, hclose]
  simp only [Function.comp_def, byteChars_memberText]

/-- The bytes of a text start with something to read if the text does. -/
theorem Starts.byteChars {s : List Char} (h : Starts s) : Starts (byteChars s) := by
  obtain ⟨c, t, rfl, hblank, hclose⟩ := h
  by_cases hc : c.toNat < 128
  · exact ⟨c, _, byteChars_cons hc t, hblank, hclose⟩
  · obtain ⟨b, bs, hbytes⟩ := List.exists_cons_of_ne_nil (List.length_pos_iff.mp
      (Nat.lt_of_lt_of_eq c.utf8Size_pos (String.length_utf8EncodeChar c).symm))
    have hb := Text.le_of_mem_encodeChar (Nat.le_of_not_lt hc) (hbytes ▸ List.mem_cons_self)
    have hchar := toNat_ofNat_toNat b
    refine ⟨Char.ofNat b.toNat, bs.map (fun b => Char.ofNat b.toNat) ++ Json.byteChars t,
      ?_, ?_, ?_⟩
    · rw [← List.singleton_append, byteChars_append, byteChars_singleton, hbytes]
      rfl
    · have hne : ∀ d : Char, d.toNat < 128 → Char.ofNat b.toNat ≠ d := by
        rintro d hd rfl
        omega
      simp [isBlank, hne ' ' (by decide), hne '\t' (by decide), hne '\n' (by decide),
        hne '\r' (by decide)]
    · intro heq
      rw [heq] at hchar
      rw [← hchar] at hb
      exact absurd hb (by decide)

theorem skipValue_of_number {c : Char} (h : StartsNumber c) (depth : Nat) {s rest : List Char}
    {number : JsonNumber} (hread : readNumber (c :: s) = .ok (number, rest)) :
    skipValue depth (c :: s) = .ok ((), rest) := by
  have hscalar : skipValue depth (c :: s) = skipScalar (c :: s) := by
    have hbracket := h.ne (show '['.isDigit = false from rfl) (by decide)
    have hbrace := h.ne (show '\x7b'.isDigit = false from rfl) (by decide)
    cases depth <;> simp [skipValue, hbracket, hbrace]
  obtain ⟨⟨numeral, behind⟩, hnumeral, hvalue⟩ := ok_of_bind hread
  obtain rfl : behind = rest := by
    dsimp only at hvalue
    split at hvalue
    · cases hvalue
      rfl
    · cases hvalue
  rw [hscalar]
  simp [skipScalar, h.ne (show 'n'.isDigit = false from rfl) (by decide),
    h.ne (show 't'.isDigit = false from rfl) (by decide),
    h.ne (show 'f'.isDigit = false from rfl) (by decide),
    h.ne (show '"'.isDigit = false from rfl) (by decide), hnumeral]

/-- Printed values are skipped as far as they are printed. -/
theorem Readable.skipValue_print {depth : Nat} {v : Json} (h : Readable depth v) {n : Nat}
    (hn : depth ≤ n) {rest : List Char} (hrest : EndsNumber rest) :
    skipValue n (byteChars v.print ++ rest) = .ok ((), rest) := by
  induction h generalizing n rest with
  | null =>
    rw [print, byteChars_of_all (by decide)]
    cases n <;> rfl
  | boolean b =>
    cases b <;> rw [print, byteChars_of_all (by decide)] <;> cases n <;> rfl
  | @number depth number hnumber =>
    obtain ⟨c, t, hprint, hc⟩ := hnumber.eq_cons
    have hread := hnumber rest hrest
    rw [hprint, List.cons_append] at hread
    rw [print, byteChars_printNumber, hprint, List.cons_append]
    exact skipValue_of_number hc n hread
  | text s =>
    have hskip := skipString_escaped s rest
    rw [print, byteChars_printString, List.cons_append, List.append_assoc]
    cases n <;> exact hskip
  | @array depth items hitems ih =>
    cases n with
    | zero => cases hn
    | succ n =>
      have hstarts : ∀ v ∈ items, Starts ((byteChars ∘ print) v) :=
        fun v hv => (hitems v hv).starts.byteChars
      have hitem : ∀ v ∈ items, ∀ rest, EndsNumber rest →
          skipValue n ((byteChars ∘ print) v ++ rest) = .ok ((fun _ => ()) v, rest) :=
        fun v hv rest hrest => ih v hv (Nat.le_of_succ_le_succ hn) hrest
      have hread := readArray_separated id hstarts hitem rest
      rw [byteChars_print_array, List.cons_append, List.append_assoc, List.singleton_append,
        skipValue, hread]
      rfl
  | @object depth members hmembers ih =>
    cases n with
    | zero => cases hn
    | succ n =>
      have hmember : ∀ m ∈ members, ∀ state rest, EndsNumber rest →
          skipMember (skipValue n) state () (':' :: (byteChars m.2.print ++ rest)) =
            (Except.ok ()).map (·, rest) := by
        intro m hm state rest hrest
        rw [skipMember, (hmembers m hm).starts.byteChars.readColon, ok_bind,
          ih m hm (Nat.le_of_succ_le_succ hn) hrest]
        rfl
      have hname : ∀ m ∈ members, ∀ rest, skipString (written m.1 ++ '"' :: rest) =
          .ok ((fun _ => ()) m, rest) := fun m _ rest => skipString_escaped m.1 rest
      have hread := readObject_separated id hname hmember () rest
      have hall : members.foldlM (fun _ _ => (.ok () : Except Fault Unit)) () = .ok () := by
        clear hmembers ih hmember hname hread
        induction members with
        | nil => rfl
        | cons m members ih => exact ih
      rw [byteChars_print_object, List.cons_append, List.append_assoc, List.singleton_append,
        skipValue, hread, hall]
      rfl

/-! ## Spans of printed values -/

theorem Readable.mono {depth depth' : Nat} {v : Json} (h : Readable depth v)
    (hle : depth ≤ depth') : Readable depth' v := by
  induction h generalizing depth' with
  | null => exact .null
  | boolean b => exact .boolean b
  | number h => exact .number h
  | text s => exact .text s
  | array h ih =>
    cases depth' with
    | zero => cases hle
    | succ depth' => exact .array fun v hv => ih v hv (Nat.le_of_succ_le_succ hle)
  | object h ih =>
    cases depth' with
    | zero => cases hle
    | succ depth' => exact .object fun m hm => ih m hm (Nat.le_of_succ_le_succ hle)

theorem length_le_of_mem_separated {texts : List (List Char)} {text : List Char}
    (h : text ∈ texts) : text.length ≤ (separated texts).length := by
  induction texts with
  | nil => cases h
  | cons t texts ih =>
    cases texts with
    | nil =>
      rw [List.mem_singleton.mp h]
      exact Nat.le_refl _
    | cons u texts =>
      rw [separated, List.length_append, List.length_cons]
      rcases List.mem_cons.mp h with rfl | h
      · exact Nat.le_add_right _ _
      · have hrest := ih h
        omega

/-- No value is deeper than the length of its bytes. -/
theorem Readable.of_length {depth : Nat} {v : Json} (h : Readable depth v) :
    Readable (byteChars v.print).length v := by
  induction h with
  | null => exact .null
  | boolean b => exact .boolean b
  | number h => exact .number h
  | text s => exact .text s
  | @array depth items _ ih =>
    rw [byteChars_print_array, List.length_cons]
    refine .array fun v hv => (ih v hv).mono ?_
    rw [List.length_append]
    exact Nat.le_add_right_of_le (length_le_of_mem_separated (List.mem_map_of_mem hv))
  | @object depth members _ ih =>
    rw [byteChars_print_object, List.length_cons]
    refine .object fun m hm => (ih m hm).mono ?_
    have hle := length_le_of_mem_separated (List.mem_map_of_mem
      (f := fun m : String × Json => memberText (written m.1) (byteChars m.2.print)) hm)
    rw [memberText, List.length_cons, List.length_append, List.length_cons, List.length_cons] at hle
    rw [List.length_append]
    omega

/-- A printed value is split off as its bytes. -/
theorem Readable.readSpan_print {depth : Nat} {v : Json} (h : Readable depth v)
    {rest : List Char} (hrest : EndsNumber rest) :
    readSpan (byteChars v.print ++ rest) = .ok (byteChars v.print, rest) := by
  have hlength : (byteChars v.print).length ≤ (byteChars v.print ++ rest).length := by
    rw [List.length_append]
    exact Nat.le_add_right _ _
  rw [readSpan, h.of_length.skipValue_print hlength hrest, ok_bind]
  exact congrArg (fun span => Except.ok (span, rest)) (before_append _ rest)

/-- The bytes of a printed value are read as the value. -/
theorem Readable.spanValue?_print {depth : Nat} {v : Json} (h : Readable depth v) :
    spanValue? depth (byteChars v.print) = some v := by
  have hread := h.readValue_print (show EndsNumber [] from nofun)
  rw [List.append_nil] at hread
  rw [spanValue?, spanText?_byteChars]
  simp only [Option.bind_eq_bind, Option.bind_some, hread]

/-- The bytes of a printed object are split into those of its members. -/
theorem outline?_print {depth : Nat} {members : List (String × Json)}
    (h : ∀ m ∈ members, Readable depth m.2) :
    outline? (Text.bytes (Json.object members).toText) =
      some (.members (members.map fun m => (written m.1 ++ ['"'], byteChars m.2.print))) := by
  have hmember : ∀ m ∈ members, ∀ before rest, EndsNumber rest →
      readMemberSpan before (written m.1 ++ ['"']) (':' :: (byteChars m.2.print ++ rest)) =
        (Except.ok (before ++ [(written m.1 ++ ['"'], byteChars m.2.print)])).map (·, rest) := by
    intro m hm before rest hrest
    rw [readMemberSpan, (h m hm).starts.byteChars.readColon, ok_bind,
      (h m hm).readSpan_print hrest]
    rfl
  have hname : ∀ m ∈ members, ∀ rest,
      readNameSpan (written m.1 ++ '"' :: rest) = .ok (written m.1 ++ ['"'], rest) :=
    fun m _ rest => readNameSpan_written m.1 rest
  have hread := readObject_separated id hname hmember [] []
  rw [foldlM_append (fun m : String × Json => (written m.1 ++ ['"'], byteChars m.2.print)),
    List.nil_append] at hread
  have hchars : ofByteChars (Text.bytes (Json.object members).toText) = _ :=
    byteChars_print_object members
  rw [outline?, hchars, skipBlanks_cons (by decide)]
  simp only [hread]
  rfl

end Json

/-! ## Renderings -/

namespace StoredRendering

open Json

/-- A rendering is read from its bytes, if its states can be read. -/
theorem ofBytes?_toBytes_of_readable {r : StoredRendering}
    (h : ∀ state ∈ r.extensions, Readable (memberDepth - 1) state.2) :
    ofBytes? r.toBytes = some (ofStates r.rendered r.extensions) := by
  have hstates : Readable memberDepth (.object r.extensions) := .object h
  have hmembers : ∀ m ∈ [("rendered", Json.text r.rendered), ("extensions", .object r.extensions)],
      Readable memberDepth m.2 := by
    intro m hm
    simp only [List.mem_cons, List.not_mem_nil, or_false] at hm
    rcases hm with rfl | rfl
    · exact .text _
    · exact hstates
  have houtline := outline?_print hmembers
  have htext := (show Readable memberDepth (.text r.rendered) from .text _).spanValue?_print
  rw [ofBytes?, toBytes, toJson, houtline]
  simp [spanName?_written, ofMembers?, ofSpans?, htext, hstates.spanValue?_print]

/-- The states of a rendering are in canonical order. -/
theorem ofStates_ofStates (rendered : String) (states : List (String × Json)) :
    ofStates rendered (ofStates rendered states).extensions = ofStates rendered states := by
  rw [ofStates, ofStates, sortByName_canonicalMembers (canonical_of_mem_members states)]

/-- A rendering is stored such that it is read back, if the numbers in its states are read back and
the states are not too deep. -/
theorem ofBytes?_toBytes_ofStates {states : List (String × Json)}
    (h : ∀ state ∈ states, Readable (memberDepth - 1) state.2) (rendered : String) :
    ofBytes? (ofStates rendered states).toBytes = some (ofStates rendered states) := by
  rw [ofBytes?_toBytes_of_readable]
  · exact congrArg some (ofStates_ofStates rendered states)
  · intro state hstate
    have hmem := mem_of_mem_sortByName hstate
    rw [canonicalMembers_eq_map] at hmem
    obtain ⟨given, hgiven, rfl⟩ := List.mem_map.mp hmem
    exact (h given hgiven).canonical

/-- A rendering without states is read from its bytes. -/
theorem ofBytes?_toBytes (text : String) :
    ofBytes? (ofStates text []).toBytes = some (ofStates text []) :=
  ofBytes?_toBytes_ofStates (fun _ hstate => absurd hstate List.not_mem_nil) text

end StoredRendering

end WikiMarkup
