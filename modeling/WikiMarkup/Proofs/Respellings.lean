-- SUMMARY: The members of an event may be permuted, left out where their value goes without saying, and joined by unknown ones, or be given by position: the same event is read.
import WikiMarkup.Proofs.EventGrammar

/-!
# Respellings

A value of a family is written as an object with the tag first and every field after it. It may be
respelled: the members may come in any order and between members of other names, and a field need
not be there if its absence stands for the value it has. Or its tag and its values may be the items
of an array, up to a place behind which the values are defaults. All of these spell the same value,
so a text of respelled events is read as these events.
-/

namespace WikiMarkup

variable {α : Type} {depth : Nat} {spells : Spelling}

/-! ## The relation -/

/-- The JSON value is the one that is written. -/
def Codec.Writes : Spelling := fun c j a => j = c.encode a

/-- The members that are written for the values, where any of those may be left out whose absence
stands for the value. -/
def Values.Kept : (fields : List Field) → Values fields → List (String × Json) → Prop
  | [], _, members => members = []
  | f :: fields, (v, values), members =>
    (f.absence.inObject? = some v ∧ Kept fields values members) ∨
      ∃ others, members = (f.name, f.codec.encode v) :: others ∧ Kept fields values others

/-- The JSON values that a value of the family may be respelled as. -/
inductive Family.Respelled (family : Family α) : Json → α → Prop
  | object {a : α} {members kept extra : List (String × Json)}
      (hperm : members.Perm
        ((family.key, .text (family.tagName (family.split a).1)) :: (kept ++ extra)))
      (hkept : Values.Kept _ (family.split a).2 kept)
      (hextra : ∀ m ∈ extra, m.1 ≠ family.key ∧
        m.1 ∉ (family.fields (family.split a).1).map Field.name) :
      Respelled family (.object members) a
  | array {a : α} {items : List Json}
      (hitems : Values.InItems Codec.Writes _ items (family.split a).2) :
      Respelled family (.array (.text (family.tagName (family.split a).1) :: items)) a

/-! ## Counting members -/

theorem occurrences_cons_self (name : String) (j : Json) (members : List (String × Json)) :
    occurrences name ((name, j) :: members) = j :: occurrences name members :=
  occurrences_cons_of_eq rfl members

theorem occurrences_append (name : String) (members others : List (String × Json)) :
    occurrences name (members ++ others) = occurrences name members ++ occurrences name others := by
  rw [occurrences, List.filter_append, List.map_append]
  rfl

theorem occurrences_eq_nil {name : String} {members : List (String × Json)}
    (h : ∀ m ∈ members, m.1 ≠ name) : occurrences name members = [] := by
  rw [occurrences, List.map_eq_nil_iff, List.filter_eq_nil_iff]
  intro m hm
  simpa using h m hm

theorem perm_occurrences (name : String) {members members' : List (String × Json)}
    (h : members.Perm members') : (occurrences name members).Perm (occurrences name members') :=
  (h.filter _).map _

namespace Values

theorem Kept.name_mem {fields : List Field} {values : Values fields}
    {kept : List (String × Json)} (h : Kept fields values kept) {m : String × Json}
    (hm : m ∈ kept) : m.1 ∈ fields.map Field.name := by
  induction fields generalizing kept with
  | nil =>
    cases h
    cases hm
  | cons f fields ih =>
    rcases h with ⟨-, h⟩ | ⟨others, rfl, h⟩
    · exact List.mem_cons_of_mem _ (ih h hm)
    · rcases List.mem_cons.mp hm with rfl | hm
      · exact List.mem_cons_self
      · exact List.mem_cons_of_mem _ (ih h hm)

/-! ## Respellings are spellings -/

/-- Members among which the fields are just as in those kept give the fields their values. -/
theorem Kept.inMembers {fields : List Field} {values : Values fields}
    {kept : List (String × Json)} (h : Kept fields values kept)
    (hnames : (fields.map Field.name).Nodup)
    (hwrites : ∀ f ∈ fields, ∀ v, spells f.codec (f.codec.encode v) v)
    {members : List (String × Json)}
    (hmembers : ∀ f ∈ fields, (occurrences f.name members).Perm (occurrences f.name kept)) :
    InMembers spells members fields values := by
  induction fields generalizing kept with
  | nil => trivial
  | cons f fields ih =>
    obtain ⟨v, values⟩ := values
    obtain ⟨hname, hnames⟩ := List.nodup_cons.mp hnames
    obtain ⟨hf, hwrites⟩ := List.forall_mem_cons.mp hwrites
    obtain ⟨hfirst, hmembers⟩ := List.forall_mem_cons.mp hmembers
    have hnone : ∀ {others}, Kept fields values others → occurrences f.name others = [] :=
      fun h => occurrences_eq_nil fun m hm heq => hname (heq ▸ h.name_mem hm)
    rcases h with ⟨habsent, h⟩ | ⟨others, rfl, h⟩
    · rw [hnone h, List.perm_nil] at hfirst
      refine ⟨?_, ih h hnames hwrites hmembers⟩
      rw [hfirst]
      exact habsent
    · rw [occurrences_cons_self, hnone h, List.perm_singleton] at hfirst
      refine ⟨?_, ih h hnames hwrites fun g hg => ?_⟩
      · rw [hfirst]
        exact hf v
      · have hne : f.name ≠ g.name := fun heq => hname (heq ▸ List.mem_map_of_mem hg)
        have hother := hmembers g hg
        rwa [occurrences_cons_of_ne hne] at hother

theorem InItems.mono {spells' : Spelling} {fields : List Field} {items : List Json}
    {values : Values fields} (h : InItems spells fields items values)
    (hspells : ∀ f ∈ fields, ∀ j v, spells f.codec j v → spells' f.codec j v) :
    InItems spells' fields items values := by
  induction fields generalizing items with
  | nil => exact h
  | cons f fields ih =>
    obtain ⟨v, values⟩ := values
    obtain ⟨hf, hfields⟩ := List.forall_mem_cons.mp hspells
    cases items with
    | nil => exact ⟨h.1, ih h.2 hfields⟩
    | cons j items => exact ⟨hf j v h.1, ih h.2 hfields⟩

end Values

namespace Family

variable {family : Family α}

/-- A respelling spells the value, with the tag by its name. -/
theorem Respelled.spelled (h : family.Lawful depth)
    (hwrites : ∀ tag, ∀ f ∈ family.fields tag, ∀ v, spells f.codec (f.codec.encode v) v)
    {j : Json} {a : α} (hj : family.Respelled j a) :
    family.Spelled (fun j tag => j = .text (family.tagName tag)) spells j a := by
  cases hj with
  | @object _ members kept extra hperm hkept hextra =>
    refine ⟨_, (family.split a).1, (family.split a).2, ?_, rfl, ?_, h.build_split a⟩
    · have hkey := perm_occurrences family.key hperm
      have hothers : ∀ m ∈ kept ++ extra, m.1 ≠ family.key := by
        intro m hm heq
        rcases List.mem_append.mp hm with hm | hm
        · obtain ⟨f, hf, hname⟩ := List.mem_map.mp (hkept.name_mem hm)
          exact h.key_ne _ f hf (hname.trans heq)
        · exact (hextra m hm).1 heq
      rwa [occurrences_cons_self, occurrences_eq_nil hothers, List.perm_singleton] at hkey
    · refine hkept.inMembers (h.fields _).nodup_names (hwrites _) fun f hf => ?_
      have hfield := perm_occurrences f.name hperm
      have hnone : occurrences f.name extra = [] := occurrences_eq_nil fun m hm heq =>
        (hextra m hm).2 (heq ▸ List.mem_map_of_mem hf)
      rwa [occurrences_cons_of_ne (h.key_ne _ f hf).symm, occurrences_append, hnone,
        List.append_nil] at hfield
  | array hitems =>
    exact ⟨(family.split a).1, (family.split a).2, rfl,
      hitems.mono fun f hf j v hj => hj ▸ hwrites _ f hf v, h.build_split a⟩

end Family

/-! ## Texts of respelled events -/

theorem Event.Respelled.spelled {j : Json} {e : Event} (h : eventFamily.Respelled j e) :
    Event.Spelled j e := by
  refine Family.Respelled.spelled eventFamily_lawful (fun tag f hf v => ?_) h
  have hread := ((eventFamily_lawful.fields tag).lawful f hf).read_encode v
  exact (EventTag.fields_read tag f hf _ _).mp hread

/-- A text whose value in JSON is an array of respelled events is read as these events. -/
theorem Events.decode_of_respelled {source : String} {items : List Json} {events : List Event}
    (hread : Json.read source.toList = .ok (.array items))
    (hitems : List.Forall₂ eventFamily.Respelled items events) :
    decode source = .ok events :=
  decode_eq_ok_iff_accepts.mpr
    ⟨items, hread, hitems.imp fun _ _ h => accepts_iff_spelled.mpr (Event.Respelled.spelled h)⟩

/-- A word and a heading: the tag of one comes last and an unknown member before it, and the other
is an array without the parameters. -/
def respelledText : String :=
  "[\x7b\"word\":\"a\",\"x\":[null,-1],\"event\":\"on_word\"\x7d, [\"begin_section\",2]]"

/-- What the text is in JSON. -/
def respelledItems : List Json :=
  [.object [("word", .text "a"), ("x", .array [.null, .integer (-1)]), ("event", .text "on_word")],
    .array [.text "begin_section", .integer 2]]

theorem Events.decode_respelledText :
    Json.read respelledText.toList = .ok (.array respelledItems) ∧
      List.Forall₂ eventFamily.Respelled respelledItems
        [.content (.word "a"), .enter (.heading ⟨2, by decide, by decide⟩ .empty)] ∧
      decode respelledText =
        .ok [.content (.word "a"), .enter (.heading ⟨2, by decide, by decide⟩ .empty)] := by
  have hread : Json.read respelledText.toList = .ok (.array respelledItems) := rfl
  have hitems : List.Forall₂ eventFamily.Respelled respelledItems
      [.content (.word "a"), .enter (.heading ⟨2, by decide, by decide⟩ .empty)] := by
    refine .cons ?_ (.cons ?_ .nil)
    · refine @Family.Respelled.object _ eventFamily _ _ [("word", .text "a")]
        [("x", .array [.null, .integer (-1)])] ?_ ?_ ?_
      · exact @List.perm_append_comm _ [_, _] [_]
      · exact .inr ⟨[], rfl, rfl⟩
      · simp only [List.forall_mem_singleton]
        decide
    · refine @Family.Respelled.array _ eventFamily (.enter (.heading _ _)) [.integer 2] ?_
      exact ⟨rfl, rfl, rfl⟩
  exact ⟨hread, hitems, decode_of_respelled hread hitems⟩

end WikiMarkup
