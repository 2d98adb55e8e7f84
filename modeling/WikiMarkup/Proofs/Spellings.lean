-- SUMMARY: Which JSON values spell the values of a record or of a tagged family, and that just these are read.
import WikiMarkup.Proofs.Codecs
import WikiMarkup.Proofs.TypedReading

/-!
# Spellings

A record is spelled by an object or by an array. In an object the order of the members does not
count and names of no field may occur: every field occurs once and spells its value, or does not
occur and has a value to stand for that. In an array every item spells the value of the field at its
place, and the fields behind the last item have values to stand for them. A family is spelled like
the record of a tag, which is a further member or the first item.

How the value of one field is spelled is left open here: `spells` says so for every codec. If the
codecs of the fields read just what `spells` relates them to, so do the codecs of the record and of
the family.
-/

namespace WikiMarkup

variable {α β : Type} {depth : Nat}

/-- What JSON value spells which value of a type with that codec. -/
abbrev Spelling : Type 1 := {α : Type} → Codec α → Json → α → Prop

/-- The values of the members of that name, in their order. -/
def occurrences (name : String) (members : List (String × Json)) : List Json :=
  (members.filter (·.1 = name)).map (·.2)

/-- The codec reads just the values that spell a result. -/
def Codec.Reads (c : Codec α) (spells : Json → α → Prop) : Prop :=
  ∀ j a, c.decode j = .ok a ↔ spells j a

/-! ## The relations -/

/-- What the members of the name of a field make of it: none the value that stands for its absence,
one the value that it spells, and more than one nothing. -/
def Field.Given (spells : Spelling) (f : Field) : List Json → f.Value → Prop
  | [], v => f.absence.inObject? = some v
  | [j], v => spells f.codec j v
  | _ :: _ :: _, _ => False

namespace Values

/-- The members of an object give every field its value. -/
def InMembers (spells : Spelling) (members : List (String × Json)) :
    (fields : List Field) → Values fields → Prop
  | [], _ => True
  | f :: fields, (v, values) =>
    f.Given spells (occurrences f.name members) v ∧ InMembers spells members fields values

/-- The items of an array give the fields their values in order, and no item is left. -/
def InItems (spells : Spelling) : (fields : List Field) → List Json → Values fields → Prop
  | [], items, _ => items = []
  | f :: fields, [], (v, values) =>
    f.absence.inArray? = some v ∧ InItems spells fields [] values
  | f :: fields, j :: items, (v, values) =>
    spells f.codec j v ∧ InItems spells fields items values

end Values

/-- The JSON values that spell a value of the type. -/
def Record.Spelled (r : Record α) (spells : Spelling) : Json → α → Prop
  | .object members, a =>
    ∃ values, Values.InMembers spells members r.fields values ∧ r.build values = a
  | .array items, a => ∃ values, Values.InItems spells r.fields items values ∧ r.build values = a
  | _, _ => False

namespace Family

/-- A tag is spelled by its name or by its place among the tags. -/
def TagSpelled (family : Family α) (j : Json) (tag : family.Tag) : Prop :=
  j = .text (family.tagName tag) ∨ ∃ i : Nat, j = .integer i ∧ family.tags[i]? = some tag

/-- The JSON values that spell a value of the type, if `named` says how its tag is spelled. -/
def Spelled (family : Family α) (named : Json → family.Tag → Prop) (spells : Spelling) :
    Json → α → Prop
  | .object members, a =>
    ∃ j tag values, occurrences family.key members = [j] ∧ named j tag ∧
      Values.InMembers spells members (family.fields tag) values ∧ family.build tag values = a
  | .array (j :: items), a =>
    ∃ tag values, named j tag ∧ Values.InItems spells (family.fields tag) items values ∧
      family.build tag values = a
  | _, _ => False

end Family

/-! ## Members by name -/

@[simp] theorem occurrences_nil (name : String) : occurrences name [] = [] := rfl

theorem occurrences_cons_of_eq {name : String} {m : String × Json} (h : m.1 = name)
    (members : List (String × Json)) :
    occurrences name (m :: members) = m.2 :: occurrences name members := by
  simp [occurrences, h]

theorem occurrences_cons_of_ne {name : String} {m : String × Json} (h : m.1 ≠ name)
    (members : List (String × Json)) :
    occurrences name (m :: members) = occurrences name members := by
  simp [occurrences, h]

theorem mem_occurrences {name : String} {j : Json} {members : List (String × Json)} :
    j ∈ occurrences name members ↔ (name, j) ∈ members := by
  simp [occurrences]

/-- Members of another name do not count. -/
theorem occurrences_filter_ne {name key : String} (h : name ≠ key)
    (members : List (String × Json)) :
    occurrences name (members.filter (·.1 ≠ key)) = occurrences name members := by
  induction members with
  | nil => rfl
  | cons m members ih =>
    by_cases hkey : m.1 = key
    · have hname : m.1 ≠ name := fun heq => h (heq.symm.trans hkey)
      rw [List.filter_cons_of_neg (by simpa using hkey), ih, occurrences_cons_of_ne hname]
    · rw [List.filter_cons_of_pos (by simpa using hkey)]
      by_cases hname : m.1 = name
      · rw [occurrences_cons_of_eq hname, occurrences_cons_of_eq hname, ih]
      · rw [occurrences_cons_of_ne hname, occurrences_cons_of_ne hname, ih]

/-! ## Places filled once

Both the slot of a field and the tag of a family are filled by the first member of their name, and
a second one is refused. -/

/-- The values read into a place lead from what it holds to what it holds then. -/
inductive Fills {ε : Type} (decode : Json → Except ε β) : Option β → List Json → Option β → Prop
  | none (held : Option β) : Fills decode held [] held
  | one {j : Json} {b : β} (h : decode j = .ok b) : Fills decode .none [j] (some b)

theorem fills_nil_iff {ε : Type} {decode : Json → Except ε β} {held held' : Option β} :
    Fills decode held [] held' ↔ held' = held := by
  constructor
  · rintro ⟨⟩
    rfl
  · rintro rfl
    exact .none held'

theorem fills_cons_iff {ε : Type} {decode : Json → Except ε β} {held held' : Option β} {j : Json}
    {js : List Json} :
    Fills decode held (j :: js) held' ↔
      held = none ∧ ∃ b, decode j = .ok b ∧ Fills decode (some b) js held' := by
  constructor
  · rintro (_ | h)
    exact ⟨rfl, _, h, .none _⟩
  · rintro ⟨rfl, b, h, hrest⟩
    cases hrest
    exact .one h

/-! ## Reading objects -/

namespace Slots

/-- A member that is no field changes nothing. -/
theorem put_of_not_mem {name : String} (value : Json) {fields : List Field}
    (h : name ∉ fields.map Field.name) (slots : Slots fields) :
    put name value fields slots = .ok slots := by
  induction fields with
  | nil => rfl
  | cons f fields ih =>
    obtain ⟨hne, hmem⟩ := not_or.mp (List.mem_cons.not.mp h)
    obtain ⟨slot, slots⟩ := slots
    simp only [put, if_neg (Ne.symm hne), ih hmem, ok_bind]

/-- The slot of the first field is filled by the members of its name, the others by the rest. -/
theorem putAll_cons_eq_ok_iff {f : Field} {fields : List Field}
    (hname : f.name ∉ fields.map Field.name) {members : List (String × Json)}
    {slot slot' : Option f.Value} {slots slots' : Slots fields} :
    @putAll (f :: fields) (slot, slots) members = .ok (slot', slots') ↔
      Fills f.codec.decode slot (occurrences f.name members) slot' ∧
        slots.putAll members = .ok slots' := by
  induction members generalizing slot slots with
  | nil =>
    rw [occurrences_nil, fills_nil_iff]
    constructor
    · rintro ⟨⟩
      exact ⟨rfl, rfl⟩
    · rintro ⟨rfl, ⟨⟩⟩
      rfl
  | cons m members ih =>
    by_cases hm : f.name = m.1
    · have hother : put m.1 m.2 fields slots = .ok slots := put_of_not_mem m.2 (hm ▸ hname) slots
      rw [occurrences_cons_of_eq hm.symm, fills_cons_iff]
      simp only [putAll, put, if_pos hm, hother, ok_bind]
      cases slot with
      | some v => exact ⟨by rintro ⟨⟩, by rintro ⟨⟨⟨⟩, -⟩, -⟩⟩
      | none =>
        cases hdecode : f.codec.decode m.2 with
        | error e => exact ⟨by rintro ⟨⟩, by simp⟩
        | ok v =>
          change @putAll (f :: fields) (some v, slots) members = _ ↔ _
          rw [ih]
          simp
    · rw [occurrences_cons_of_ne (Ne.symm hm)]
      simp only [putAll, put, if_neg hm]
      cases put m.1 m.2 fields slots with
      | error e => exact ⟨by rintro ⟨⟩, by rintro ⟨-, ⟨⟩⟩⟩
      | ok next => exact ih

end Slots

namespace Values

/-- The first field and the others are found in the members apart from each other. -/
theorem ofMembers_cons_eq_ok_iff {f : Field} {fields : List Field}
    (hname : f.name ∉ fields.map Field.name) {members : List (String × Json)} {v : f.Value}
    {values : Values fields} :
    ofMembers (f :: fields) members = .ok (v, values) ↔
      (∃ slot, Fills f.codec.decode none (occurrences f.name members) slot ∧
        slot.or f.absence.inObject? = some v) ∧ ofMembers fields members = .ok values := by
  have hput : ∀ slot slots, @Slots.putAll (f :: fields) (Slots.empty _) members =
      .ok (slot, slots) ↔ _ := fun _ _ => Slots.putAll_cons_eq_ok_iff hname
  constructor
  · intro h
    obtain ⟨⟨slot, slots⟩, hslots, hfinish⟩ := Json.ok_of_bind h
    obtain ⟨hfills, hslots⟩ := (hput _ _).mp hslots
    simp only [Slots.finish] at hfinish
    split at hfinish
    · cases hfinish
    · next v' hv =>
      obtain ⟨values', hvalues, heq⟩ := Json.ok_of_bind hfinish
      cases heq
      exact ⟨⟨slot, hfills, hv⟩, bind_eq_ok_iff.mpr ⟨slots, hslots, hvalues⟩⟩
  · rintro ⟨⟨slot, hfills, hv⟩, h⟩
    obtain ⟨slots, hslots, hvalues⟩ := Json.ok_of_bind h
    refine bind_eq_ok_iff.mpr ⟨(slot, slots), (hput _ _).mpr ⟨hfills, hslots⟩, ?_⟩
    simp only [Slots.finish, hv, hvalues, ok_bind]

theorem given_iff {spells : Spelling} {f : Field} (hreads : f.codec.Reads (spells f.codec))
    {js : List Json} {v : f.Value} :
    f.Given spells js v ↔
      ∃ slot, Fills f.codec.decode none js slot ∧ slot.or f.absence.inObject? = some v := by
  cases js with
  | nil => simp [Field.Given, fills_nil_iff]
  | cons j js =>
    simp only [fills_cons_iff, true_and]
    cases js with
    | nil => simp [Field.Given, fills_nil_iff, hreads j]
    | cons j' js => simp [Field.Given, fills_cons_iff]

/-- The values are read from the members that give them. -/
theorem ofMembers_eq_ok_iff {spells : Spelling} {fields : List Field}
    (hnames : (fields.map Field.name).Nodup)
    (hreads : ∀ f ∈ fields, f.codec.Reads (spells f.codec)) {members : List (String × Json)}
    {values : Values fields} :
    ofMembers fields members = .ok values ↔ InMembers spells members fields values := by
  induction fields with
  | nil =>
    have hput : (Slots.empty []).putAll members = .ok () := by
      induction members with
      | nil => rfl
      | cons m members ih => exact ih
    rw [ofMembers, hput]
    exact ⟨fun _ => trivial, fun _ => rfl⟩
  | cons f fields ih =>
    obtain ⟨v, values⟩ := values
    obtain ⟨hname, hnames⟩ := List.nodup_cons.mp hnames
    obtain ⟨hf, hfields⟩ := List.forall_mem_cons.mp hreads
    rw [ofMembers_cons_eq_ok_iff hname, InMembers, given_iff hf, ih hnames hfields]

/-! ## Reading arrays -/

theorem takeItems_eq_ok_iff {spells : Spelling} {fields : List Field}
    (hreads : ∀ f ∈ fields, f.codec.Reads (spells f.codec)) (expected : String) (index : Nat)
    {items : List Json} {values : Values fields} :
    takeItems expected fields index items = .ok (values, []) ↔
      InItems spells fields items values := by
  induction fields generalizing index items with
  | nil =>
    constructor
    · rintro ⟨⟩
      rfl
    · rintro ⟨⟩
      rfl
  | cons f fields ih =>
    obtain ⟨v, values⟩ := values
    obtain ⟨hf, hfields⟩ := List.forall_mem_cons.mp hreads
    cases items with
    | nil =>
      rw [InItems, ← ih hfields (index + 1), takeItems]
      cases f.absence.inArray? with
      | none => exact ⟨by rintro ⟨⟩, by rintro ⟨⟨⟩, -⟩⟩
      | some v' =>
        dsimp only
        rw [bind_eq_ok_iff]
        constructor
        · rintro ⟨⟨values', rest⟩, hvalues, heq⟩
          cases heq
          exact ⟨rfl, hvalues⟩
        · rintro ⟨⟨⟩, hvalues⟩
          exact ⟨_, hvalues, rfl⟩
    | cons j items =>
      rw [InItems, ← ih hfields (index + 1), ← hf j v, takeItems, bind_eq_ok_iff]
      constructor
      · rintro ⟨v', hv, h⟩
        obtain ⟨⟨values', rest⟩, hvalues, heq⟩ := Json.ok_of_bind h
        cases heq
        exact ⟨hv, hvalues⟩
      · rintro ⟨hv, hvalues⟩
        exact ⟨v, hv, bind_eq_ok_iff.mpr ⟨_, hvalues, rfl⟩⟩

/-- The values are read from the items that give them. -/
theorem ofItems_eq_ok_iff {spells : Spelling} {expected : String} {fields : List Field}
    (hreads : ∀ f ∈ fields, f.codec.Reads (spells f.codec)) {items : List Json}
    {values : Values fields} :
    ofItems expected fields items = .ok values ↔ InItems spells fields items values := by
  rw [← takeItems_eq_ok_iff hreads expected 0, ofItems, bind_eq_ok_iff]
  constructor
  · rintro ⟨⟨values', rest⟩, htake, h⟩
    dsimp only at h
    split at h
    · next hrest =>
      cases h
      rw [List.isEmpty_iff] at hrest
      rwa [hrest] at htake
    · cases h
  · intro htake
    exact ⟨_, htake, rfl⟩

end Values

/-! ## Records -/

/-- The codec of a record reads just what spells it. -/
theorem Record.codec_reads {r : Record α} {spells : Spelling}
    (hnames : (r.fields.map Field.name).Nodup)
    (hreads : ∀ f ∈ r.fields, f.codec.Reads (spells f.codec)) :
    r.codec.Reads (r.Spelled spells) := by
  intro j a
  cases j with
  | object members =>
    simp only [codec, Spelled, map_eq_ok_iff, Values.ofMembers_eq_ok_iff hnames hreads]
  | array items => simp only [codec, Spelled, map_eq_ok_iff, Values.ofItems_eq_ok_iff hreads]
  | null | boolean | number | text => exact ⟨by rintro ⟨⟩, by rintro ⟨⟩⟩

/-! ## Families -/

namespace Family

variable {family : Family α} {spells : Spelling}

theorem tagOfName_eq_ok_iff (h : family.Lawful depth) {name : String} {tag : family.Tag} :
    family.tagOfName name = .ok tag ↔ family.tagName tag = name := by
  constructor
  · intro htag
    unfold tagOfName Codec.ofName at htag
    split at htag
    · next found hfind =>
      cases htag
      simpa using List.find?_some (p := fun tag => decide (family.tagName tag = name)) hfind
    · cases htag
  · rintro rfl
    exact tagOfName_tagName h tag

theorem tagOf_eq_ok_iff (h : family.Lawful depth) {j : Json} {tag : family.Tag} :
    family.tagOf j = .ok tag ↔ family.TagSpelled j tag := by
  constructor
  · intro htag
    unfold tagOf at htag
    split at htag
    · next name => exact .inl (congrArg Json.text ((tagOfName_eq_ok_iff h).mp htag).symm)
    · next i =>
      split at htag
      · next found hplace =>
        cases htag
        exact .inr ⟨i, rfl, hplace⟩
      · cases htag
    · cases htag
  · rintro (rfl | ⟨i, rfl, hplace⟩)
    · exact tagOfName_tagName h tag
    · simp only [tagOf, Json.integer, hplace]

/-- Collecting parts the members by the name of the tag, and fills the place of the tag. -/
theorem collect_eq_ok_iff {held held' : Option family.Tag} {before others : List (String × Json)}
    {members : List (String × Json)} :
    family.collect held before members = .ok (held', others) ↔
      Fills family.tagOf held (occurrences family.key members) held' ∧
        others = before ++ members.filter (·.1 ≠ family.key) := by
  induction members generalizing held before with
  | nil =>
    rw [occurrences_nil, fills_nil_iff, collect, Except.ok.injEq, Prod.mk.injEq, List.filter_nil,
      List.append_nil, @eq_comm _ held', @eq_comm _ others]
  | cons m members ih =>
    by_cases hkey : m.1 = family.key
    · rw [occurrences_cons_of_eq hkey, fills_cons_iff,
        List.filter_cons_of_neg (by simpa using hkey)]
      simp only [collect, if_pos hkey]
      cases held with
      | some tag => exact ⟨by rintro ⟨⟩, by rintro ⟨⟨⟨⟩, -⟩, -⟩⟩
      | none =>
        cases family.tagOf m.2 with
        | error e => exact ⟨by rintro ⟨⟩, by simp⟩
        | ok tag => simp [ih]
    · rw [occurrences_cons_of_ne hkey, List.filter_cons_of_pos (by simpa using hkey)]
      simp only [collect, if_neg hkey]
      rw [ih, List.append_assoc]
      rfl

theorem ofCollected_eq_ok_iff {held : Option family.Tag} {others : List (String × Json)} {a : α} :
    family.ofCollected (held, others) = .ok a ↔
      ∃ tag values, held = some tag ∧ Values.ofMembers (family.fields tag) others = .ok values ∧
        family.build tag values = a := by
  cases held with
  | none => exact ⟨by rintro ⟨⟩, by simp⟩
  | some tag => simp [ofCollected, ofMembers, map_eq_ok_iff]

/-- The members beside the tag give the same values as all members. -/
theorem inMembers_filter_iff (h : family.Lawful depth) {tag : family.Tag}
    {members : List (String × Json)} {values : Values (family.fields tag)} :
    Values.InMembers spells (members.filter (·.1 ≠ family.key)) (family.fields tag) values ↔
      Values.InMembers spells members (family.fields tag) values := by
  have hne := h.key_ne tag
  generalize family.fields tag = fields at hne values
  induction fields with
  | nil => exact Iff.rfl
  | cons f fields ih =>
    obtain ⟨v, values⟩ := values
    obtain ⟨hf, hfields⟩ := List.forall_mem_cons.mp hne
    rw [Values.InMembers, Values.InMembers, occurrences_filter_ne hf]
    exact and_congr_right' (ih hfields)

theorem decode_object_eq_ok_iff (h : family.Lawful depth)
    (hreads : ∀ tag, ∀ f ∈ family.fields tag, f.codec.Reads (spells f.codec))
    {members : List (String × Json)} {a : α} :
    family.codec.decode (.object members) = .ok a ↔
      family.Spelled family.TagSpelled spells (.object members) a := by
  have hvalues : ∀ tag (values : Values (family.fields tag)),
      Values.ofMembers (family.fields tag) (members.filter (·.1 ≠ family.key)) = .ok values ↔
        Values.InMembers spells members (family.fields tag) values := fun tag values =>
    (Values.ofMembers_eq_ok_iff (h.fields tag).nodup_names (hreads tag)).trans
      (inMembers_filter_iff h)
  constructor
  · intro hdecode
    obtain ⟨⟨held, others⟩, hcollect, hbuild⟩ := Json.ok_of_bind hdecode
    obtain ⟨hfills, rfl⟩ := collect_eq_ok_iff.mp hcollect
    obtain ⟨tag, values, rfl, hread, ha⟩ := ofCollected_eq_ok_iff.mp hbuild
    generalize hoccurrences : occurrences family.key members = js at hfills
    cases hfills with
    | one htag =>
      exact ⟨_, tag, values, hoccurrences, (tagOf_eq_ok_iff h).mp htag,
        (hvalues tag values).mp hread, ha⟩
  · rintro ⟨j, tag, values, hoccurrences, htag, hgiven, ha⟩
    refine bind_eq_ok_iff.mpr ⟨(some tag, members.filter (·.1 ≠ family.key)), ?_, ?_⟩
    · refine collect_eq_ok_iff.mpr ⟨?_, rfl⟩
      rw [hoccurrences]
      exact .one ((tagOf_eq_ok_iff h).mpr htag)
    · exact ofCollected_eq_ok_iff.mpr ⟨tag, values, rfl, (hvalues tag values).mpr hgiven, ha⟩

theorem decode_array_eq_ok_iff (h : family.Lawful depth)
    (hreads : ∀ tag, ∀ f ∈ family.fields tag, f.codec.Reads (spells f.codec))
    {items : List Json} {a : α} :
    family.codec.decode (.array items) = .ok a ↔
      family.Spelled family.TagSpelled spells (.array items) a := by
  cases items with
  | nil => exact ⟨by rintro ⟨⟩, by rintro ⟨⟩⟩
  | cons j items =>
    simp only [codec, Spelled, bind_eq_ok_iff, tagOf_eq_ok_iff h, ofItems, map_eq_ok_iff,
      Values.ofItems_eq_ok_iff (hreads _), exists_and_left]

/-- The codec of a family reads just what spells it. -/
theorem codec_reads (h : family.Lawful depth)
    (hreads : ∀ tag, ∀ f ∈ family.fields tag, f.codec.Reads (spells f.codec)) :
    family.codec.Reads (family.Spelled family.TagSpelled spells) := by
  intro j a
  cases j with
  | object members => exact decode_object_eq_ok_iff h hreads
  | array items => exact decode_array_eq_ok_iff h hreads
  | null | boolean | number | text => exact ⟨by rintro ⟨⟩, by rintro ⟨⟩⟩

end Family

end WikiMarkup
