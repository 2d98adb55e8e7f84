-- SUMMARY: What a codec writes is read back as what was written: scalars, names, parameters, records and tagged families.
import WikiMarkup.Wire.Record
import WikiMarkup.Proofs.JsonText

/-!
# Lawful codecs

A codec is lawful if its reader gives back what was written, and what is written is a JSON value
that survives as text. The codec of a record is lawful as soon as those of its fields are and no
two fields share a name; for a family the name of the tag member has to be free as well.
-/

namespace WikiMarkup

variable {α : Type} {depth : Nat}

/-- What the codec writes is read back, and is `depth` levels deep at most. -/
structure Codec.Lawful (depth : Nat) (c : Codec α) : Prop where
  exact_encode (a : α) : Json.Exact depth (c.encode a)
  read_encode (a : α) : c.decode (c.encode a) = .ok a

namespace Codec

theorem Lawful.mono {depth' : Nat} {c : Codec α} (h : c.Lawful depth) (hle : depth ≤ depth') :
    c.Lawful depth' where
  exact_encode a := (h.exact_encode a).mono hle
  read_encode := h.read_encode

/-! ## Scalars -/

@[simp] theorem text_lawful : text.Lawful depth where
  exact_encode s := .text s
  read_encode _ := rfl

@[simp] theorem optionalText_lawful : optionalText.Lawful depth where
  exact_encode
    | some s => .text s
    | none => .null
  read_encode
    | some _ => rfl
    | none => rfl

@[simp] theorem flag_lawful : flag.Lawful depth where
  exact_encode b := .boolean b
  read_encode _ := rfl

theorem decodeNatural_natCast {n bound : Nat} (h : n < bound) (expected : String) :
    decodeNatural bound expected (Json.integer n) = .ok n := by
  have hlow : (0 : Int) ≤ n := by omega
  have hhigh : (n : Int) < bound := by omega
  simp [decodeNatural, Json.integer, hlow, hhigh]

theorem isWord_natCast {n : Nat} (h : n < Json.wordBound) : Json.IsWord n :=
  ⟨by omega, Int.ofNat_lt.mpr h⟩

@[simp] theorem sectionLevel_lawful : sectionLevel.Lawful depth where
  exact_encode level := .integer (isWord_natCast (by
    have hle := level.le_six
    unfold Json.wordBound
    omega))
  read_encode level := by
    have hle := level.le_six
    have hlevel : SectionLevel.ofNat? level.toNat = some level := by
      simp [SectionLevel.ofNat?, level.one_le, hle]
    simp [sectionLevel, decodeNatural_natCast (show level.toNat < 256 by omega), hlevel]

@[simp] theorem count_lawful : count.Lawful depth where
  exact_encode n := .integer (isWord_natCast (by
    have hlt := n.toNat_lt
    unfold Json.wordBound
    omega))
  read_encode n := by
    have hread := decodeNatural_natCast n.toNat_lt_size "usize"
    simp only [count]
    rw [hread, Except.map, UInt64.ofNat_toNat]

@[simp] theorem character_lawful : character.Lawful depth where
  exact_encode c := .text _
  read_encode c := by simp [character]

/-! ## Names -/

/-- A name that only one value has leads to it. -/
theorem ofName_name {all : List α} {name : α → String} (hnames : (all.map name).Nodup) {a : α}
    (ha : a ∈ all) : ofName all name (name a) = .ok a := by
  have hfind : all.find? (name · = name a) = some a := by
    induction all with
    | nil => cases ha
    | cons b all ih =>
      rw [List.map_cons, List.nodup_cons] at hnames
      rcases List.mem_cons.mp ha with rfl | hmem
      · simp
      · have hne : name b ≠ name a := by
          intro heq
          exact hnames.1 (heq ▸ List.mem_map_of_mem hmem)
        simp [hne, ih hnames.2 hmem]
  simp [ofName, hfind]

theorem choice_lawful {all : List α} {name : α → String} (hnames : (all.map name).Nodup)
    (hall : ∀ a, a ∈ all) : (choice all name).Lawful depth where
  exact_encode a := .text (name a)
  read_encode a := ofName_name hnames (hall a)

@[simp] theorem listKind_lawful : listKind.Lawful depth :=
  choice_lawful (by decide) fun kind => by cases kind <;> decide

@[simp] theorem format_lawful : format.Lawful depth :=
  choice_lawful (by decide) fun f => by cases f <;> decide

@[simp] theorem linkKind_lawful : linkKind.Lawful depth :=
  choice_lawful (by decide) fun kind => by cases kind <;> decide

/-! ## Parameters -/

theorem put_of_not_mem {name : String} (value : String) {entries : List (String × String)}
    (h : name ∉ Entries.names entries) :
    Entries.put name value entries = entries ++ [(name, value)] := by
  induction entries with
  | nil => rfl
  | cons entry rest ih =>
    obtain ⟨n, v⟩ := entry
    have hn : n ≠ name := by
      rintro rfl
      exact h List.mem_cons_self
    have hrest : name ∉ Entries.names rest := fun hmem => h (List.mem_cons_of_mem _ hmem)
    simp [Entries.put, hn, ih hrest]

/-- Members with new names go to the end, in their order. -/
theorem storeMembers_texts (p q : Parameters) (entries : List (String × String))
    (h : q.entries = p.entries ++ entries) :
    storeMembers p (entries.map fun entry => (entry.1, .text entry.2)) = .ok q := by
  induction entries generalizing p with
  | nil =>
    rw [List.append_nil] at h
    cases p
    cases q
    cases h
    rfl
  | cons entry entries ih =>
    have hnew : entry.1 ∉ Entries.names p.entries := by
      intro hmem
      have hnodup := q.nodup_names
      rw [h, Entries.names, List.map_append, List.nodup_append] at hnodup
      exact hnodup.2.2 _ hmem _ List.mem_cons_self rfl
    have hput : (p.insert entry.1 entry.2).entries = p.entries ++ [entry] :=
      put_of_not_mem entry.2 hnew
    exact ih (p.insert entry.1 entry.2) (by rw [hput, h, List.append_assoc]; rfl)

@[simp] theorem parameters_lawful : parameters.Lawful (depth + 1) where
  exact_encode p := .object fun m hm => by
    obtain ⟨entry, -, rfl⟩ := List.mem_map.mp hm
    exact .text entry.2
  read_encode p := storeMembers_texts .empty p p.entries rfl

end Codec

/-! ## Members of a record -/

/-- The fields have different names, and each reads back what it writes. -/
structure LawfulFields (depth : Nat) (fields : List Field) : Prop where
  nodup_names : (fields.map Field.name).Nodup
  lawful : ∀ f ∈ fields, f.codec.Lawful depth

theorem LawfulFields.tail {f : Field} {fields : List Field} (h : LawfulFields depth (f :: fields)) :
    LawfulFields depth fields where
  nodup_names := (List.nodup_cons.mp h.nodup_names).2
  lawful g hg := h.lawful g (List.mem_cons_of_mem _ hg)

namespace Slots

/-- Every field filled. -/
def filled : (fields : List Field) → Values fields → Slots fields
  | [], _ => ()
  | _ :: fields, (v, values) => (some v, filled fields values)

theorem finish_filled (fields : List Field) (values : Values fields) :
    finish fields (filled fields values) = .ok values := by
  induction fields with
  | nil => rfl
  | cons f fields ih =>
    obtain ⟨v, values⟩ := values
    simp [filled, finish, ih]

/-- Members of other names leave a field as it is. -/
theorem putAll_of_ne {f : Field} {fields : List Field} (slot : Option f.Value)
    (slots : Slots fields) {members : List (String × Json)} (h : ∀ m ∈ members, f.name ≠ m.1) :
    @putAll (f :: fields) (slot, slots) members = (slots.putAll members).map (slot, ·) := by
  induction members generalizing slots with
  | nil => rfl
  | cons m members ih =>
    have hm := h m List.mem_cons_self
    have hmembers := fun slots => ih slots fun m' hm' => h m' (List.mem_cons_of_mem _ hm')
    simp only [putAll, put, if_neg hm]
    cases put m.1 m.2 fields slots with
    | error e => rfl
    | ok next => exact hmembers next

end Slots

namespace Values

theorem mem_members {fields : List Field} {values : Values fields} {m : String × Json}
    (h : m ∈ members fields values) :
    ∃ f ∈ fields, m.1 = f.name ∧ ∃ v, m.2 = f.codec.encode v := by
  induction fields with
  | nil => cases h
  | cons f fields ih =>
    obtain ⟨v, values⟩ := values
    rcases List.mem_cons.mp h with rfl | hmem
    · exact ⟨f, List.mem_cons_self, rfl, v, rfl⟩
    · obtain ⟨g, hg, hname, hvalue⟩ := ih hmem
      exact ⟨g, List.mem_cons_of_mem _ hg, hname, hvalue⟩

theorem exact_members {fields : List Field} (h : LawfulFields depth fields)
    (values : Values fields) {m : String × Json} (hm : m ∈ members fields values) :
    Json.Exact depth m.2 := by
  obtain ⟨f, hf, -, v, hvalue⟩ := mem_members hm
  rw [hvalue]
  exact (h.lawful f hf).exact_encode v

theorem putAll_members {fields : List Field} (h : LawfulFields depth fields)
    (values : Values fields) :
    (Slots.empty fields).putAll (members fields values) = .ok (.filled fields values) := by
  induction fields with
  | nil => rfl
  | cons f fields ih =>
    obtain ⟨v, values⟩ := values
    have hnew : ∀ m ∈ members fields values, f.name ≠ m.1 := by
      intro m hm heq
      obtain ⟨g, hg, hname, -⟩ := mem_members hm
      exact (List.nodup_cons.mp h.nodup_names).1 (heq.trans hname ▸ List.mem_map_of_mem hg)
    have hread := (h.lawful f List.mem_cons_self).read_encode v
    have hrest := Slots.putAll_of_ne (some v) (Slots.empty fields) hnew
    rw [ih h.tail values] at hrest
    simp only [members, Slots.putAll, Slots.empty, Slots.put, if_pos, hread, ok_bind]
    exact hrest

/-- Values are read back from the members that hold them. -/
theorem ofMembers_members {fields : List Field} (h : LawfulFields depth fields)
    (values : Values fields) : ofMembers fields (members fields values) = .ok values := by
  rw [ofMembers, putAll_members h, ok_bind, Slots.finish_filled]

end Values

/-! ## Records and families -/

theorem Record.codec_lawful {r : Record α} (hfields : LawfulFields depth r.fields)
    (hbuild : ∀ a, r.build (r.split a) = a) : r.codec.Lawful (depth + 1) where
  exact_encode a := .object fun m hm => Values.exact_members hfields (r.split a) hm
  read_encode a := by
    simp [codec, Values.ofMembers_members hfields, Except.map, hbuild]

/-- Every tag has its own name, and a member of its own beside the fields. -/
structure Family.Lawful (depth : Nat) (family : Family α) : Prop where
  nodup_tagNames : (family.tags.map family.tagName).Nodup
  mem_tags (tag : family.Tag) : tag ∈ family.tags
  fields (tag : family.Tag) : LawfulFields depth (family.fields tag)
  key_ne (tag : family.Tag) : ∀ f ∈ family.fields tag, f.name ≠ family.key
  build_split (a : α) : family.build (family.split a).1 (family.split a).2 = a

namespace Family

variable {family : Family α}

theorem tagOfName_tagName (h : family.Lawful depth) (tag : family.Tag) :
    family.tagOfName (family.tagName tag) = .ok tag :=
  Codec.ofName_name h.nodup_tagNames (h.mem_tags tag)

theorem collect_cons (family : Family α) (tag : Option family.Tag) (before : List (String × Json))
    (m : String × Json) (members : List (String × Json)) :
    family.collect tag before (m :: members) =
      family.collect tag before [m] >>= fun found => family.collect found.1 found.2 members := by
  by_cases hkey : m.1 = family.key
  · cases tag with
    | some tag => simp only [collect, if_pos hkey]; rfl
    | none =>
      simp only [collect, if_pos hkey]
      cases family.tagOf m.2 with
      | error e => rfl
      | ok tag => rfl
  · simp [collect, hkey]

theorem collect_of_ne (tag : Option family.Tag) (before : List (String × Json))
    {members : List (String × Json)} (h : ∀ m ∈ members, m.1 ≠ family.key) :
    family.collect tag before members = .ok (tag, before ++ members) := by
  induction members generalizing before with
  | nil => simp [collect]
  | cons m members ih =>
    have hm := h m List.mem_cons_self
    have hmembers := ih (before ++ [m]) fun m' hm' => h m' (List.mem_cons_of_mem _ hm')
    simp [collect, hm, hmembers]

/-- The members of the object that a value is written as: the tag, then the fields. -/
def written (family : Family α) (a : α) : List (String × Json) :=
  (family.key, .text (family.tagName (family.split a).1)) :: Values.members _ (family.split a).2

theorem encode_eq (family : Family α) (a : α) :
    family.codec.encode a = .object (family.written a) := rfl

theorem members_ne_key (h : family.Lawful depth) (a : α) :
    ∀ m ∈ Values.members _ (family.split a).2, m.1 ≠ family.key := by
  intro m hm
  obtain ⟨f, hf, hname, -⟩ := Values.mem_members hm
  rw [hname]
  exact h.key_ne _ f hf

theorem exact_of_mem_written (h : family.Lawful depth) {a : α} {m : String × Json}
    (hm : m ∈ family.written a) : Json.Exact depth m.2 := by
  rcases List.mem_cons.mp hm with rfl | hmem
  · exact .text _
  · exact Values.exact_members (h.fields _) _ hmem

theorem collect_written (h : family.Lawful depth) (a : α) :
    family.collect none [] (family.written a) =
      .ok (some (family.split a).1, Values.members _ (family.split a).2) := by
  have hothers := collect_of_ne (some (family.split a).1) [] (members_ne_key h a)
  simp [written, collect, tagOf, tagOfName_tagName h, hothers]

theorem codec_lawful (h : family.Lawful depth) : family.codec.Lawful (depth + 1) where
  exact_encode _ := .object fun _ hm => exact_of_mem_written h hm
  read_encode a := by
    have hvalues := Values.ofMembers_members (h.fields _) (family.split a).2
    rw [encode_eq]
    simp [codec, collect_written h, ofCollected, ofMembers, hvalues, Except.map, h.build_split]

end Family

end WikiMarkup
