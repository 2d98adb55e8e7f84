-- SUMMARY: Every list of events is read back from the text it is written as.
import WikiMarkup.Wire.Events
import WikiMarkup.Proofs.Codecs

/-!
# Event texts

The fields of all kinds of events have lawful codecs, and so has the family of events. The reader
of event texts takes no detour over JSON values, but on the text of an object it does what the
codec of the family does with the object: `Events.readEvent_print`. Both together give that
`Events.decode` undoes `Events.encode`.
-/

namespace WikiMarkup

variable {depth : Nat}

/-! ## Fields -/

namespace Field

@[simp] theorem text_lawful (name : String) : (text name).codec.Lawful depth :=
  Codec.text_lawful

@[simp] theorem optionalText_lawful (name : String) : (optionalText name).codec.Lawful depth :=
  Codec.optionalText_lawful

@[simp] theorem parameters_lawful (name : String) : (parameters name).codec.Lawful (depth + 1) :=
  Codec.parameters_lawful

@[simp] theorem freeStanding_lawful : freeStanding.codec.Lawful depth :=
  Codec.flag_lawful

end Field

/-! ## Links, images and markup nodes -/

theorem linkRecord_lawful : linkRecord.codec.Lawful (depth + 1) := by
  apply Record.codec_lawful
  · exact ⟨by decide, by simp [linkRecord]⟩
  · intro l
    rfl

theorem ImageTag.lawful_fields (tag : ImageTag) : LawfulFields depth tag.fields where
  nodup_names := by cases tag <;> decide
  lawful := by cases tag <;> simp [fields]

theorem imageFamily_lawful : imageFamily.Lawful depth where
  nodup_tagNames := by decide
  mem_tags tag := show tag ∈ [ImageTag.attachment, .url] by cases tag <;> decide
  fields := ImageTag.lawful_fields
  key_ne tag := by cases tag <;> decide
  build_split i := by cases i <;> rfl

theorem MarkupNodeTag.lawful_fields (tag : MarkupNodeTag) :
    LawfulFields (depth + 1) tag.fields where
  nodup_names := by cases tag <;> decide
  lawful := by cases tag <;> simp [fields]

theorem markupNodeFamily_lawful : markupNodeFamily.Lawful (depth + 1) where
  nodup_tagNames := by decide
  mem_tags tag := show tag ∈ [MarkupNodeTag.element, .text, .comment, .cdata] by
    cases tag <;> decide
  fields := MarkupNodeTag.lawful_fields
  key_ne tag := by cases tag <;> decide
  build_split n := by cases n <;> rfl

/-! ## Events -/

theorem ContainerTag.mem_all (tag : ContainerTag) : tag ∈ all := by
  cases tag <;> decide

theorem ContentTag.mem_all (tag : ContentTag) : tag ∈ all := by
  cases tag <;> decide

theorem EventTag.mem_all (tag : EventTag) : tag ∈ all := by
  cases tag with
  | enter c => simp [all, c.mem_all]
  | leave c => simp [all, c.mem_all]
  | content c => simp [all, c.mem_all]

theorem ContainerTag.lawful_fields (tag : ContainerTag) : LawfulFields 2 tag.fields where
  nodup_names := by cases tag <;> decide
  lawful := by
    cases tag <;> simp [fields, linkRecord_lawful, Family.codec_lawful markupNodeFamily_lawful]

theorem ContentTag.lawful_fields (tag : ContentTag) : LawfulFields 2 tag.fields where
  nodup_names := by cases tag <;> decide
  lawful := by
    cases tag <;> simp [fields, Family.codec_lawful imageFamily_lawful]

theorem ContainerTag.field_ne_event (tag : ContainerTag) : ∀ f ∈ tag.fields, f.name ≠ "event" := by
  cases tag <;> decide

theorem ContentTag.field_ne_event (tag : ContentTag) : ∀ f ∈ tag.fields, f.name ≠ "event" := by
  cases tag <;> decide

theorem ContainerTag.build_split (c : Container) : build c.split.1 c.split.2 = c := by
  cases c <;> rfl

theorem ContentTag.build_split (c : Content) : build c.split.1 c.split.2 = c := by
  cases c <;> rfl

theorem eventFamily_lawful : eventFamily.Lawful 2 where
  nodup_tagNames := by decide
  mem_tags := EventTag.mem_all
  fields
    | .enter c => c.lawful_fields
    | .leave c => c.lawful_fields
    | .content c => c.lawful_fields
  key_ne
    | .enter c => c.field_ne_event
    | .leave c => c.field_ne_event
    | .content c => c.field_ne_event
  build_split
    | .enter c => congrArg Event.enter (ContainerTag.build_split c)
    | .leave c => congrArg Event.leave (ContainerTag.build_split c)
    | .content c => congrArg Event.content (ContentTag.build_split c)

/-! ## Reading the text of an object -/

namespace Events

theorem readName_escaped (s : String) (rest : List Char) :
    Json.readName (s.toList.flatMap Json.escapeChar ++ '"' :: rest) = .ok (s, rest) := by
  rw [Json.readName, Json.readString_escaped]
  rfl

/-- What a member does to the tag and the members found before it. -/
def take (found : Option EventTag × List (String × Json)) (m : String × Json) :
    Except DecodeError (Option EventTag × List (String × Json)) :=
  (eventFamily.collect found.1 found.2 [m]).mapError .shape

/-- Taking members one by one collects them. -/
theorem foldlM_take (found : Option EventTag × List (String × Json))
    (members : List (String × Json)) :
    members.foldlM take found =
      (eventFamily.collect found.1 found.2 members).mapError .shape := by
  induction members generalizing found with
  | nil => rfl
  | cons m members ih =>
    have hsplit := eventFamily.collect_cons found.1 found.2 m members
    rw [List.foldlM_cons, take, hsplit]
    cases eventFamily.collect found.1 found.2 [m] with
    | error e => rfl
    | ok next => exact ih next

/-- Under the name of the tag stands a text. -/
def TextTag (m : String × Json) : Prop :=
  m.1 = eventFamily.key → ∃ name, m.2 = .text name

theorem readAny_print {v : Json} (h : Json.Exact memberDepth v) {rest : List Char}
    (hrest : Json.EndsNumber rest) : readAny (v.print ++ rest) = .ok (v, rest) := by
  rw [readAny, Json.readValue_print h hrest]
  rfl

theorem readTag_printString (name : String) (rest : List Char) :
    readTag (Json.printString name ++ rest) =
      ((eventFamily.tagOfName name).mapError .shape).map (·, rest) := by
  have hname := readName_escaped name rest
  simp only [Json.printString, List.cons_append, List.append_assoc, List.nil_append, readTag,
    hname, ok_bind]
  cases eventFamily.tagOfName name with
  | error e => rfl
  | ok tag => rfl

theorem readMember_print {m : String × Json} (hexact : Json.Exact memberDepth m.2)
    (htag : TextTag m) (found : Option EventTag × List (String × Json)) {rest : List Char}
    (hrest : Json.EndsNumber rest) :
    readMember found m.1 (':' :: (m.2.print ++ rest)) = (take found m).map (·, rest) := by
  obtain ⟨name, value⟩ := m
  obtain ⟨tag, before⟩ := found
  have hcolon := hexact.starts.readColon rest
  by_cases hkey : name = eventFamily.key
  · cases tag with
    | some tag =>
      simp only [readMember, take, Family.collect, if_pos hkey]
      rfl
    | none =>
      obtain ⟨text, htext⟩ := htag hkey
      dsimp only at hcolon htext ⊢
      subst htext
      rw [Json.print] at hcolon ⊢
      simp only [readMember, take, Family.collect, if_pos hkey, hcolon,
        mapError_ok, ok_bind, readTag_printString, Family.tagOf]
      cases eventFamily.tagOfName text with
      | error e => rfl
      | ok tag => rfl
  · have hread := readAny_print hexact hrest
    dsimp only at hcolon hread ⊢
    simp only [readMember, take, Family.collect, if_neg hkey, hcolon, mapError_ok, ok_bind, hread]
    rfl

/-- On the text of an object the reader does what the codec does with the object. -/
theorem readEvent_print {members : List (String × Json)}
    (hexact : ∀ m ∈ members, Json.Exact memberDepth m.2) (htag : ∀ m ∈ members, TextTag m)
    (rest : List Char) :
    readEvent ((Json.object members).print ++ rest) =
      ((eventFamily.codec.decode (.object members)).mapError .shape).map (·, rest) := by
  have htaken : members.foldlM take (none, []) =
      (eventFamily.collect none [] members).mapError .shape := foldlM_take (none, []) members
  have hread := Json.readObject_printMembers DecodeError.fault readName_escaped
    (fun m hm found rest hrest => readMember_print (hexact m hm) (htag m hm) found hrest)
    (none, []) rest
  simp only [Json.print, List.cons_append, List.append_assoc, List.nil_append, readEvent,
    Family.codec]
  cases hcollect : eventFamily.collect none [] members with
  | error e =>
    rw [htaken, hcollect] at hread
    rw [hread]
    rfl
  | ok found =>
    rw [htaken, hcollect] at hread
    rw [hread]
    simp only [mapError_ok, Except.map, ok_bind]
    cases eventFamily.ofCollected found with
    | error e => rfl
    | ok event => rfl

/-! ## Writing and reading -/

theorem textTag_of_mem_written {e : Event} {m : String × Json} (hm : m ∈ eventFamily.written e) :
    TextTag m := by
  intro hkey
  rcases List.mem_cons.mp hm with rfl | hmem
  · exact ⟨_, rfl⟩
  · exact absurd hkey (Family.members_ne_key eventFamily_lawful e m hmem)

theorem readEvent_encode (e : Event) (rest : List Char) :
    readEvent ((eventFamily.codec.encode e).print ++ rest) = .ok (e, rest) := by
  have hexact : ∀ m ∈ eventFamily.written e, Json.Exact memberDepth m.2 := fun m hm =>
    (Family.exact_of_mem_written eventFamily_lawful hm).mono (by decide)
  have hdecode := (Family.codec_lawful eventFamily_lawful).read_encode e
  rw [Family.encode_eq] at hdecode ⊢
  rw [readEvent_print hexact (fun _ hm => textTag_of_mem_written hm), hdecode]
  rfl

/-- Every list of events is read back from its text, whatever its texts and parameters hold. -/
theorem decode_encode (events : List Event) : decode (encode events) = .ok events := by
  have hexact := (Family.codec_lawful eventFamily_lawful).exact_encode
  have hread : Json.readArray .fault readEvent
      (Json.printItems (events.map eventFamily.codec.encode) ++ [']']) = .ok (events, []) :=
    Json.readArray_printItems .fault (fun e _ => (hexact e).starts)
      (fun e _ rest _ => readEvent_encode e rest) []
  have htext : (encode events).toList =
      '[' :: (Json.printItems (events.map eventFamily.codec.encode) ++ [']']) := by
    simp [encode, toJson, Json.toText, Json.print]
  rw [decode, htext, read, Json.skipBlanks_cons (by decide)]
  simp only [hread, ok_bind]
  rfl

example : encode [.content (.word "\"\n"), .enter (.table .empty)] =
    "[\x7b\"event\":\"on_word\",\"word\":\"\\\"\\n\"\x7d," ++
      "\x7b\"event\":\"begin_table\",\"parameters\":\x7b\x7d\x7d]" := by
  rfl

end Events

end WikiMarkup
