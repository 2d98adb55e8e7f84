-- SUMMARY: Which texts are lists of events: each kind of value by its spellings, and the events that are read are just those that are spelled.
import WikiMarkup.Proofs.Spellings

/-!
# The grammar of events

The spellings of a value come in three layers. A plain value has its few forms of JSON. A link, an
image or a markup node is spelled by its plain fields, and its tag, if it has one, by name or by
place. An event is spelled by its fields, of either layer, and its tag by name only. The reader
of event texts accepts just the arrays of such values, and gives the events that they spell.
-/

namespace WikiMarkup

variable {α : Type}

/-! ## Spellings -/

/-- The JSON values that give a name: the text, or an object whose only member has that name and
holds nothing. -/
def Json.Names (name : String) (j : Json) : Prop :=
  j = .text name ∨ j = .object [(name, .null)] ∨ j = .object [(name, .object [])]

/-- The spellings of plain values. -/
inductive Codec.PlainSpells : {α : Type} → Codec α → Json → α → Prop
  | text (s : String) : PlainSpells text (.text s) s
  | someText (s : String) : PlainSpells optionalText (.text s) (some s)
  | noText : PlainSpells optionalText .null none
  | flag (b : Bool) : PlainSpells flag (.boolean b) b
  | sectionLevel (level : SectionLevel) : PlainSpells sectionLevel (.integer level.toNat) level
  | count (n : UInt64) : PlainSpells count (.integer n.toNat) n
  | character (c : Char) : PlainSpells character (.text (String.singleton c)) c
  /-- Of the values of one name, the first is meant. -/
  | choice {α : Type} {all : List α} {name : α → String} {a : α} {j : Json}
      (hfirst : all.find? (name · = name a) = some a) (hname : Json.Names (name a) j) :
      PlainSpells (choice all name) j a
  /-- Names may be repeated: the pairs are stored one after the other. -/
  | parameters (pairs : List (String × String)) :
      PlainSpells parameters (.object (pairs.map fun pair => (pair.1, .text pair.2)))
        (.ofList pairs)

/-- The spellings of the values of fields. -/
inductive Codec.Spells : {α : Type} → Codec α → Json → α → Prop
  | plain {α : Type} {c : Codec α} {j : Json} {a : α} (h : c.PlainSpells j a) : Spells c j a
  | link {j : Json} {l : Link} (h : linkRecord.Spelled PlainSpells j l) :
      Spells linkRecord.codec j l
  | image {j : Json} {i : Image} (h : imageFamily.Spelled imageFamily.TagSpelled PlainSpells j i) :
      Spells imageFamily.codec j i
  | markupNode {j : Json} {n : MarkupNode}
      (h : markupNodeFamily.Spelled markupNodeFamily.TagSpelled PlainSpells j n) :
      Spells markupNodeFamily.codec j n

/-- The JSON values that spell an event. -/
def Event.Spelled : Json → Event → Prop :=
  eventFamily.Spelled (fun j tag => j = .text (eventFamily.tagName tag)) Codec.Spells

/-! ## Plain values -/

namespace Codec

theorem find?_name_of_ofName {all : List α} {name : α → String} {s : String} {a : α}
    (h : ofName all name s = .ok a) : name a = s ∧ all.find? (name · = name a) = some a := by
  unfold ofName at h
  split at h
  · next found hfind =>
    cases h
    have hname : name a = s := by
      simpa using List.find?_some (p := fun b => decide (name b = s)) hfind
    exact ⟨hname, hname ▸ hfind⟩
  · cases h

theorem decodeUnit_eq_ok_iff {j : Json} : decodeUnit j = .ok () ↔ j = .null ∨ j = .object [] := by
  unfold decodeUnit
  split
  · simp
  · simp
  · next hnull hempty =>
    refine ⟨by rintro ⟨⟩, ?_⟩
    rintro (rfl | rfl)
    · exact absurd rfl hnull
    · exact absurd rfl hempty

theorem text_of_decodeText {j : Json} {s : String} (h : decodeText j = .ok s) : j = .text s := by
  unfold decodeText at h
  split at h
  · cases h
    rfl
  · cases h

theorem integer_of_decodeNatural {bound n : Nat} {expected : String} {j : Json}
    (h : decodeNatural bound expected j = .ok n) : j = .integer n ∧ n < bound := by
  unfold decodeNatural at h
  split at h
  · next i =>
    split at h
    · next hi =>
      cases h
      rw [Json.integer, Int.toNat_of_nonneg hi.1]
      exact ⟨rfl, by omega⟩
    · cases h
  · cases h

theorem storeMembers_eq_ok_iff {members : List (String × Json)} {p q : Parameters} :
    storeMembers p members = .ok q ↔
      ∃ pairs : List (String × String),
        members = pairs.map (fun pair => (pair.1, .text pair.2)) ∧
          pairs.foldl (fun p pair => p.insert pair.1 pair.2) p = q := by
  induction members generalizing p with
  | nil =>
    constructor
    · rintro ⟨⟩
      exact ⟨[], rfl, rfl⟩
    · rintro ⟨pairs, hmembers, hq⟩
      cases List.map_eq_nil_iff.mp hmembers.symm
      exact congrArg Except.ok hq
  | cons m members ih =>
    obtain ⟨name, value⟩ := m
    constructor
    · intro h
      obtain ⟨text, htext, h⟩ := Json.ok_of_bind h
      obtain ⟨pairs, rfl, hq⟩ := ih.mp h
      obtain rfl := text_of_decodeText htext
      exact ⟨(name, text) :: pairs, rfl, hq⟩
    · rintro ⟨pairs, hmembers, hq⟩
      cases pairs with
      | nil => cases hmembers
      | cons pair pairs =>
        obtain ⟨hm, rfl⟩ := List.cons.inj hmembers
        cases hm
        exact ih.mpr ⟨pairs, rfl, hq⟩

/-- What spells a plain value is read as that value. -/
theorem PlainSpells.decode {c : Codec α} {j : Json} {a : α} (h : c.PlainSpells j a) :
    c.decode j = .ok a := by
  cases h with
  | text s => rfl
  | someText s => rfl
  | noText => rfl
  | flag b => rfl
  | sectionLevel level => exact (@sectionLevel_lawful 0).read_encode level
  | count n => exact (@count_lawful 0).read_encode n
  | character c => exact (@character_lawful 0).read_encode c
  | @choice _ all name _ _ hfirst hname =>
    have hread : ofName all name (name a) = .ok a := by rw [ofName, hfirst]
    rcases hname with rfl | rfl | rfl
    · exact hread
    · exact bind_eq_ok_iff.mpr ⟨a, hread, rfl⟩
    · exact bind_eq_ok_iff.mpr ⟨a, hread, rfl⟩
  | parameters pairs => exact storeMembers_eq_ok_iff.mpr ⟨pairs, rfl, rfl⟩

theorem reads_of_plainSpells {c : Codec α} (h : ∀ j a, c.decode j = .ok a → c.PlainSpells j a) :
    c.Reads c.PlainSpells :=
  fun j a => ⟨h j a, PlainSpells.decode⟩

@[simp] theorem text_reads : text.Reads text.PlainSpells :=
  reads_of_plainSpells fun j s h => by
    rw [text_of_decodeText h]
    exact .text s

@[simp] theorem optionalText_reads : optionalText.Reads optionalText.PlainSpells :=
  reads_of_plainSpells fun j s h => by
    simp only [optionalText] at h
    split at h
    · cases h
      exact .noText
    · obtain ⟨text, htext, rfl⟩ := map_eq_ok_iff.mp h
      rw [text_of_decodeText htext]
      exact .someText text

@[simp] theorem flag_reads : flag.Reads flag.PlainSpells :=
  reads_of_plainSpells fun j b h => by
    simp only [flag] at h
    split at h
    · cases h
      exact .flag b
    · cases h

theorem toNat_of_ofNat? {n : Nat} {level : SectionLevel} (h : SectionLevel.ofNat? n = some level) :
    level.toNat = n := by
  unfold SectionLevel.ofNat? at h
  split at h
  · cases h
    rfl
  · cases h

@[simp] theorem sectionLevel_reads : sectionLevel.Reads sectionLevel.PlainSpells :=
  reads_of_plainSpells fun j level h => by
    obtain ⟨n, hn, hfound⟩ := Json.ok_of_bind h
    obtain ⟨rfl, -⟩ := integer_of_decodeNatural hn
    split at hfound
    · next found hlevel =>
      cases hfound
      rw [← toNat_of_ofNat? hlevel]
      exact .sectionLevel level
    · simp at hfound

@[simp] theorem count_reads : count.Reads count.PlainSpells :=
  reads_of_plainSpells fun j n h => by
    obtain ⟨m, hm, rfl⟩ := map_eq_ok_iff.mp h
    obtain ⟨rfl, hlt⟩ := integer_of_decodeNatural hm
    have hcount := PlainSpells.count (UInt64.ofNat m)
    rwa [UInt64.toNat_ofNat_of_lt' hlt] at hcount

@[simp] theorem character_reads : character.Reads character.PlainSpells :=
  reads_of_plainSpells fun j c h => by
    simp only [character] at h
    split at h
    · next s =>
      split at h
      · next c' hs =>
        cases h
        have hsingle : s = String.singleton c := by
          rw [← String.toList_inj, hs, String.toList_singleton]
        rw [hsingle]
        exact .character c
      · cases h
    · cases h

theorem choice_reads (all : List α) (name : α → String) :
    (choice all name).Reads (choice all name).PlainSpells :=
  reads_of_plainSpells fun j a h => by
    simp only [choice] at h
    split at h
    · obtain ⟨rfl, hfirst⟩ := find?_name_of_ofName h
      exact .choice hfirst (.inl rfl)
    · obtain ⟨found, hfound, h⟩ := Json.ok_of_bind h
      obtain ⟨⟨⟩, hunit, h⟩ := Json.ok_of_bind h
      cases h
      obtain ⟨rfl, hfirst⟩ := find?_name_of_ofName hfound
      refine .choice hfirst (.inr ?_)
      rcases decodeUnit_eq_ok_iff.mp hunit with rfl | rfl
      · exact .inl rfl
      · exact .inr rfl
    · cases h
    · cases h

@[simp] theorem listKind_reads : listKind.Reads listKind.PlainSpells := choice_reads _ _

@[simp] theorem format_reads : format.Reads format.PlainSpells := choice_reads _ _

@[simp] theorem linkKind_reads : linkKind.Reads linkKind.PlainSpells := choice_reads _ _

@[simp] theorem parameters_reads : parameters.Reads parameters.PlainSpells :=
  reads_of_plainSpells fun j p h => by
    simp only [parameters] at h
    split at h
    · obtain ⟨pairs, rfl, rfl⟩ := storeMembers_eq_ok_iff.mp h
      exact .parameters pairs
    · cases h

end Codec

/-! ## Values with fields -/

theorem linkRecord_reads : linkRecord.codec.Reads (linkRecord.Spelled Codec.PlainSpells) :=
  Record.codec_reads (by decide) (by simp [linkRecord])

theorem imageFamily_reads :
    imageFamily.codec.Reads (imageFamily.Spelled imageFamily.TagSpelled Codec.PlainSpells) := by
  refine Family.codec_reads (@imageFamily_lawful 0) fun tag => ?_
  cases tag <;> simp [imageFamily, ImageTag.fields, Field.text, Field.optionalText]

theorem markupNodeFamily_reads :
    markupNodeFamily.codec.Reads
      (markupNodeFamily.Spelled markupNodeFamily.TagSpelled Codec.PlainSpells) := by
  refine Family.codec_reads (@markupNodeFamily_lawful 0) fun tag => ?_
  cases tag <;> simp [markupNodeFamily, MarkupNodeTag.fields, Field.text, Field.parameters]

namespace Codec

/-- What spells the value of a field is read as that value. -/
theorem Spells.decode {c : Codec α} {j : Json} {a : α} (h : c.Spells j a) : c.decode j = .ok a := by
  cases h with
  | plain h => exact h.decode
  | link h => exact (linkRecord_reads _ _).mpr h
  | image h => exact (imageFamily_reads _ _).mpr h
  | markupNode h => exact (markupNodeFamily_reads _ _).mpr h

theorem Reads.spells {c : Codec α} {spells : Json → α → Prop} (h : c.Reads spells)
    (hspells : ∀ {j a}, spells j a → c.Spells j a) : c.Reads c.Spells :=
  fun j a => ⟨fun hread => hspells ((h j a).mp hread), Spells.decode⟩

end Codec

/-! ## Fields of events -/

namespace Field

@[simp] theorem text_reads (name : String) : (text name).codec.Reads (text name).codec.Spells :=
  Codec.text_reads.spells .plain

@[simp] theorem optionalText_reads (name : String) :
    (optionalText name).codec.Reads (optionalText name).codec.Spells :=
  Codec.optionalText_reads.spells .plain

@[simp] theorem parameters_reads (name : String) :
    (parameters name).codec.Reads (parameters name).codec.Spells :=
  Codec.parameters_reads.spells .plain

@[simp] theorem freeStanding_reads : freeStanding.codec.Reads freeStanding.codec.Spells :=
  Codec.flag_reads.spells .plain

end Field

theorem ContainerTag.fields_read (tag : ContainerTag) :
    ∀ f ∈ tag.fields, f.codec.Reads f.codec.Spells := by
  have hlevel := Codec.sectionLevel_reads.spells .plain
  have hkind := Codec.listKind_reads.spells .plain
  have hformat := Codec.format_reads.spells .plain
  have htext := Codec.text_reads.spells .plain
  have hlink := linkRecord_reads.spells .link
  have hnode := markupNodeFamily_reads.spells .markupNode
  cases tag <;> simp [fields, hlevel, hkind, hformat, htext, hlink, hnode]

theorem ContentTag.fields_read (tag : ContentTag) :
    ∀ f ∈ tag.fields, f.codec.Reads f.codec.Spells := by
  have hcharacter := Codec.character_reads.spells .plain
  have hcount := Codec.count_reads.spells .plain
  have himage := imageFamily_reads.spells .image
  cases tag <;> simp [fields, hcharacter, hcount, himage]

theorem EventTag.fields_read (tag : EventTag) :
    ∀ f ∈ tag.fields, f.codec.Reads f.codec.Spells := by
  cases tag with
  | enter c => exact c.fields_read
  | leave c => exact c.fields_read
  | content c => exact c.fields_read

theorem eventFamily_reads :
    eventFamily.codec.Reads (eventFamily.Spelled eventFamily.TagSpelled Codec.Spells) :=
  Family.codec_reads eventFamily_lawful EventTag.fields_read

/-! ## Texts of events -/

namespace Events

/-- A tag that is a text is spelled by its name. -/
theorem eq_text_of_tagSpelled {name : String} {tag : eventFamily.Tag}
    (h : eventFamily.TagSpelled (.text name) tag) : Json.text name = .text (eventFamily.tagName tag) := by
  rcases h with h | ⟨i, h, -⟩
  · exact h
  · cases h

/-- The values that the reader of texts accepts are those that spell an event. -/
theorem accepts_iff_spelled {j : Json} {e : Event} : Accepts j e ↔ Event.Spelled j e := by
  rw [Accepts, eventFamily_reads j e]
  cases j with
  | object members =>
    constructor
    · rintro ⟨htagged, j, tag, values, hoccurrences, hnamed, hgiven, he⟩
      have hmem : (eventFamily.key, j) ∈ members := mem_occurrences.mp (by simp [hoccurrences])
      obtain ⟨name, rfl⟩ := htagged _ hmem rfl
      exact ⟨_, tag, values, hoccurrences, eq_text_of_tagSpelled hnamed, hgiven, he⟩
    · rintro ⟨j, tag, values, hoccurrences, rfl, hgiven, he⟩
      refine ⟨?_, _, tag, values, hoccurrences, .inl rfl, hgiven, he⟩
      rintro ⟨name, value⟩ hm rfl
      have hvalue := mem_occurrences.mpr hm
      rw [hoccurrences, List.mem_singleton] at hvalue
      exact ⟨_, hvalue⟩
  | array items =>
    cases items with
    | nil => exact ⟨fun h => h.2, by rintro ⟨⟩⟩
    | cons item items =>
      constructor
      · rintro ⟨htagged, tag, values, hnamed, hgiven, he⟩
        obtain ⟨name, rfl⟩ := htagged item rfl
        exact ⟨tag, values, eq_text_of_tagSpelled hnamed, hgiven, he⟩
      · rintro ⟨tag, values, rfl, hgiven, he⟩
        refine ⟨?_, tag, values, .inl rfl, hgiven, he⟩
        rintro item ⟨⟩
        exact ⟨_, rfl⟩
  | null | boolean | number | text => exact ⟨fun h => h.2, by rintro ⟨⟩⟩

/-- A text is read as a list of events exactly if it is an array in JSON whose items spell those
events. -/
theorem decode_eq_ok_iff (source : String) (events : List Event) :
    decode source = .ok events ↔
      ∃ items, Json.read source.toList = .ok (.array items) ∧
        List.Forall₂ Event.Spelled items events := by
  have hspelled : Accepts = Event.Spelled :=
    funext fun _ => funext fun _ => propext accepts_iff_spelled
  rw [decode_eq_ok_iff_accepts, hspelled]

end Events

end WikiMarkup
