-- SUMMARY: Parameters as an ordered mapping: names are distinct after any edits, each operation keeps the order of the others, and agreement is an equivalence that forgets the order.
import Mathlib.Data.List.Induction
import WikiMarkup.Proofs.EventGrammar
import WikiMarkup.Proofs.Sorting

/-!
# Parameters as an ordered mapping

Lists of pairs with distinct names are exactly those that storing, removing, collecting and reading
lead to from nothing. On such a list each operation has two laws: what is then stored under each
name, and which entries stand in which order. Collecting a list of pairs stores them one after the
other, so each name stands where it comes first and has the text that comes last, and reading an
object collects its members.
-/

namespace WikiMarkup

namespace Entries

/-! ## What is stored -/

variable {name : String} {entries : List (String × String)}

theorem get?_put (name value other : String) (entries : List (String × String)) :
    get? other (put name value entries) =
      if other = name then some value else get? other entries := by
  induction entries with
  | nil => simp [put, get?, eq_comm]
  | cons entry rest ih =>
    obtain ⟨n, v⟩ := entry
    by_cases hn : n = name
    · by_cases ho : other = name
      · simp [put, get?, hn, ho]
      · simp [put, get?, hn, ho, Ne.symm ho]
    · by_cases ho : n = other
      · have hne : other ≠ name := fun heq => hn (ho.trans heq)
        simp [put, get?, ho, hne]
      · simp [put, get?, hn, ho, ih]

/-- Removing takes away what the name has; no second entry of it is left. -/
theorem get?_remove (hnodup : (names entries).Nodup) (name other : String) :
    get? other (remove name entries) = if other = name then none else get? other entries := by
  induction entries with
  | nil => simp [remove, get?]
  | cons entry rest ih =>
    obtain ⟨n, v⟩ := entry
    obtain ⟨hfresh, hrest⟩ := List.nodup_cons.mp hnodup
    by_cases hn : n = name
    · subst hn
      by_cases ho : other = n
      · subst ho
        simp [remove, get?_eq_none_iff.mpr hfresh]
      · simp [remove, get?, ho, Ne.symm ho]
    · by_cases ho : n = other
      · have hne : other ≠ name := fun heq => hn (ho.trans heq)
        simp [remove, get?, ho, hne]
      · simp [remove, get?, hn, ho, ih hrest]

/-! ## Where it stands -/

/-- A text that is replaced leaves its place to the new one. -/
theorem put_of_mem (hnodup : (names entries).Nodup) (hname : name ∈ names entries)
    (value : String) :
    put name value entries =
      entries.map fun entry => if entry.1 = name then (name, value) else entry := by
  induction entries with
  | nil => cases hname
  | cons entry rest ih =>
    obtain ⟨n, v⟩ := entry
    obtain ⟨hfresh, hrest⟩ := List.nodup_cons.mp hnodup
    by_cases hn : n = name
    · subst hn
      have hothers : ∀ entry ∈ rest, entry.1 ≠ n := fun entry hentry heq =>
        hfresh (List.mem_map.mpr ⟨entry, hentry, heq⟩)
      have hsame : rest.map (fun entry => if entry.1 = n then (n, value) else entry) = rest :=
        (List.map_congr_left fun entry hentry => if_neg (hothers entry hentry)).trans
          (List.map_id' rest)
      rw [put, if_pos rfl, List.map_cons, if_pos rfl, hsame]
    · have hmem : name ∈ names rest := (List.mem_cons.mp hname).resolve_left fun heq => hn heq.symm
      rw [put, if_neg hn, List.map_cons, if_neg hn, ih hrest hmem]

/-- Removing leaves the entries of other names in their order. -/
theorem remove_eq_filter (hnodup : (names entries).Nodup) (name : String) :
    remove name entries = entries.filter (·.1 ≠ name) := by
  induction entries with
  | nil => rfl
  | cons entry rest ih =>
    obtain ⟨n, v⟩ := entry
    obtain ⟨hfresh, hrest⟩ := List.nodup_cons.mp hnodup
    by_cases hn : n = name
    · subst hn
      have hothers : ∀ entry ∈ rest, decide (entry.1 ≠ n) = true := fun entry hentry =>
        decide_eq_true fun heq => hfresh (List.mem_map.mpr ⟨entry, hentry, heq⟩)
      rw [remove, if_pos rfl, List.filter_cons_of_neg (by simp), List.filter_eq_self.mpr hothers]
    · rw [remove, if_neg hn, List.filter_cons_of_pos (by simpa using hn), ih hrest]

end Entries

namespace Parameters

/-! ## Histories -/

/-- The lists that storing, removing, collecting and reading lead to. -/
inductive Built : List (String × String) → Prop
  | empty : Built []
  | exchange {entries : List (String × String)} (h : Built entries) (name value : String) :
    Built (Entries.exchange name value entries).2
  | take {entries : List (String × String)} (h : Built entries) (name : String) :
    Built (Entries.take name entries).2
  | collect (pairs : List (String × String)) : Built (ofList pairs).entries
  /-- From the text of an object. -/
  | decode {source : String} {p : Parameters} (h : decode source = .ok p) : Built p.entries
  /-- From an object inside an event. -/
  | value {j : Json} {p : Parameters} (h : Codec.parameters.decode j = .ok p) : Built p.entries

theorem Built.nodup_names {entries : List (String × String)} (h : Built entries) :
    (Entries.names entries).Nodup := by
  induction h with
  | empty => exact List.nodup_nil
  | exchange h name value ih =>
    rw [Entries.exchange_eq]
    exact Entries.nodup_names_put name value ih
  | take h name ih =>
    rw [Entries.take_eq]
    exact ih.sublist (Entries.names_remove_sublist name _)
  | collect pairs => exact (ofList pairs).nodup_names
  | @decode _ p _ => exact p.nodup_names
  | @value _ p _ => exact p.nodup_names

/-- Entries with distinct names are stored one after the other, each at the end. -/
theorem built_of_nodup_names {entries : List (String × String)}
    (h : (Entries.names entries).Nodup) : Built entries := by
  induction entries using List.reverseRecOn with
  | nil => exact .empty
  | append_singleton entries entry ih =>
    rw [Entries.names, List.map_append, List.map_singleton, List.nodup_append] at h
    obtain ⟨hentries, -, hapart⟩ := h
    have hnew : entry.1 ∉ Entries.names entries := fun hmem =>
      hapart _ hmem _ (List.mem_singleton.mpr rfl) rfl
    have hbuilt := (ih hentries).exchange entry.1 entry.2
    rwa [Entries.exchange_eq, Codec.put_of_not_mem entry.2 hnew] at hbuilt

theorem built_iff {entries : List (String × String)} :
    Built entries ↔ (Entries.names entries).Nodup :=
  ⟨Built.nodup_names, built_of_nodup_names⟩

/-! ## Storing and removing -/

theorem exchange_eq (p : Parameters) (name value : String) :
    p.exchange name value = (p.get? name, p.insert name value) := by
  simp only [exchange, Entries.exchange_eq]
  rfl

theorem take_eq (p : Parameters) (name : String) : p.take name = (p.get? name, p.erase name) := by
  simp only [take, Entries.take_eq]
  rfl

theorem get?_insert (p : Parameters) (name value other : String) :
    (p.insert name value).get? other = if other = name then some value else p.get? other :=
  Entries.get?_put name value other p.entries

theorem get?_erase (p : Parameters) (name other : String) :
    (p.erase name).get? other = if other = name then none else p.get? other :=
  Entries.get?_remove p.nodup_names name other

/-- A text is stored in place of the one that its name has, or else at the end. -/
theorem entries_insert (p : Parameters) (name value : String) :
    (p.insert name value).entries =
      if p.get? name = none then p.entries ++ [(name, value)]
      else p.entries.map fun entry => if entry.1 = name then (name, value) else entry := by
  split
  · next hnone => exact Codec.put_of_not_mem value (Entries.get?_eq_none_iff.mp hnone)
  · next hsome =>
    have hname : name ∈ Entries.names p.entries :=
      not_not.mp fun hnot => hsome (Entries.get?_eq_none_iff.mpr hnot)
    exact Entries.put_of_mem p.nodup_names hname value

theorem entries_erase (p : Parameters) (name : String) :
    (p.erase name).entries = p.entries.filter (·.1 ≠ name) :=
  Entries.remove_eq_filter p.nodup_names name

/-- What was removed is stored at the end again. -/
theorem entries_insert_erase (p : Parameters) (name value : String) :
    ((p.erase name).insert name value).entries =
      p.entries.filter (·.1 ≠ name) ++ [(name, value)] := by
  rw [entries_insert, get?_erase, if_pos rfl, if_pos rfl, entries_erase]

/-! ## Collecting -/

theorem ofList_concat (pairs : List (String × String)) (pair : String × String) :
    ofList (pairs ++ [pair]) = (ofList pairs).insert pair.1 pair.2 := by
  simp [ofList]

/-- Each name has the text that comes last. -/
theorem get?_ofList (pairs : List (String × String)) (name : String) :
    (ofList pairs).get? name = lastNamed? name pairs := by
  induction pairs using List.reverseRecOn with
  | nil => rfl
  | append_singleton pairs pair ih =>
    rw [ofList_concat, get?_insert, lastNamed?_concat, ih]
    simp only [eq_comm]

/-- Each name stands where it comes first. -/
theorem names_ofList (pairs : List (String × String)) :
    Entries.names (ofList pairs).entries = (pairs.map (·.1)).eraseDups := by
  induction pairs using List.reverseRecOn with
  | nil => rfl
  | append_singleton pairs pair ih =>
    rw [ofList_concat, insert, Entries.names_put, ih, List.map_append, List.map_singleton,
      List.eraseDups_append]
    by_cases hmem : pair.1 ∈ pairs.map (·.1)
    · simp [List.removeAll, hmem]
    · simp [List.removeAll, hmem, List.eraseDups_cons]

/-! ## Reading -/

/-- What is done with a member that was read: a text is stored. -/
def storeMember (p : Parameters) (m : String × Json) : Except DecodeError Parameters :=
  (Codec.storeMembers p [m]).mapError .shape

theorem storeMember_eq_ok_iff {p q : Parameters} {m : String × Json} :
    storeMember p m = .ok q ↔ ∃ text, m.2 = .text text ∧ q = p.insert m.1 text := by
  rw [storeMember, mapError_eq_ok_iff, Codec.storeMembers_eq_ok_iff]
  obtain ⟨name, value⟩ := m
  constructor
  · rintro ⟨pairs, hpairs, rfl⟩
    obtain ⟨⟨n, text⟩, rfl, hpair⟩ := List.map_eq_singleton_iff.mp hpairs.symm
    cases hpair
    exact ⟨text, rfl, rfl⟩
  · rintro ⟨text, rfl, rfl⟩
    exact ⟨[(name, text)], rfl, rfl⟩

/-- A member is read as the value reader reads it, and has to be a text. -/
theorem readMember_follows (depth : Nat) :
    Json.FollowsMember (depth + 1) readMember (fun _ => True) storeMember := by
  intro p n s p' rest
  simp only [storeMember_eq_ok_iff, true_and]
  constructor
  · intro h
    obtain ⟨mid, hcolon, h⟩ := Json.ok_of_bind h
    split at h
    · next t =>
      obtain ⟨⟨text, after⟩, htext, h⟩ := Json.ok_of_bind h
      cases h
      exact ⟨_, .text text, mapError_eq_ok_iff.mp hcolon,
        Json.readValue_text_iff.mpr ⟨t, rfl, mapError_eq_ok_iff.mp htext⟩, text, rfl, rfl⟩
    · cases h
  · rintro ⟨mid, v, hcolon, hvalue, text, rfl, rfl⟩
    obtain ⟨t, rfl, htext⟩ := Json.readValue_text_iff.mp hvalue
    rw [readMember, hcolon, mapError_ok, ok_bind]
    simp only [htext, mapError_ok, ok_bind]

theorem foldlM_storeMember {p q : Parameters} {members : List (String × Json)} :
    members.foldlM storeMember p = .ok q ↔ Codec.storeMembers p members = .ok q := by
  induction members generalizing p with
  | nil => simp [pure, Except.pure, Codec.storeMembers]
  | cons m members ih =>
    rw [List.foldlM_cons, bind_eq_ok_iff]
    simp only [storeMember_eq_ok_iff, ih]
    obtain ⟨name, value⟩ := m
    constructor
    · rintro ⟨next, ⟨text, rfl, rfl⟩, h⟩
      exact h
    · intro h
      obtain ⟨text, htext, h⟩ := Json.ok_of_bind h
      exact ⟨_, ⟨text, Codec.text_of_decodeText htext, rfl⟩, h⟩

/-- The object with texts as members. -/
def objectOf (pairs : List (String × String)) : Json :=
  .object (pairs.map fun pair => (pair.1, .text pair.2))

/-- A value is read as parameters exactly if it is an object of texts, and they are its members,
collected. -/
theorem decode_value_eq_ok_iff {j : Json} {p : Parameters} :
    Codec.parameters.decode j = .ok p ↔ ∃ pairs, j = objectOf pairs ∧ p = ofList pairs := by
  constructor
  · intro h
    simp only [Codec.parameters] at h
    split at h
    · obtain ⟨pairs, rfl, rfl⟩ := Codec.storeMembers_eq_ok_iff.mp h
      exact ⟨pairs, rfl, rfl⟩
    · cases h
  · rintro ⟨pairs, rfl, rfl⟩
    exact (Codec.PlainSpells.parameters pairs).decode

/-- So is a text in which such a value is read. -/
theorem decode_text_eq_ok_iff {source : String} {p : Parameters} :
    decode source = .ok p ↔
      ∃ pairs, Json.read source.toList = .ok (objectOf pairs) ∧ p = ofList pairs := by
  have hname : ∀ s n rest, Json.readName s = .ok (n, rest) ↔ Json.readString s = .ok (n, rest) :=
    fun _ _ _ => mapError_eq_ok_iff
  have hmembers : ∀ {members : List (String × Json)}, members.foldlM storeMember empty = .ok p ↔
      ∃ pairs : List (String × String),
        members = pairs.map (fun pair => (pair.1, .text pair.2)) ∧ p = ofList pairs := by
    intro members
    rw [foldlM_storeMember, Codec.storeMembers_eq_ok_iff]
    exact exists_congr fun pairs => and_congr_right fun _ => eq_comm
  constructor
  · intro h
    unfold decode at h
    split at h
    · next t hbrace =>
      obtain ⟨⟨q, rest⟩, hread, h⟩ := Json.ok_of_bind h
      obtain ⟨⟨⟩, hend, h⟩ := Json.ok_of_bind h
      cases h
      obtain ⟨members, hobject, -, hfold⟩ := ((readMember_follows 125).readObject hname).mp hread
      obtain ⟨pairs, rfl, hp⟩ := hmembers.mp hfold
      refine ⟨pairs, ?_, hp⟩
      have hvalue := Json.readValue_object_iff.mpr ⟨t, hbrace, hobject⟩
      rw [Json.read, Json.maxDepth, hvalue, ok_bind]
      dsimp only
      rw [mapError_eq_ok_iff.mp hend, ok_bind, objectOf]
    · unfold DecodeError.ofWrongStart at h
      split at h
      · cases h
      · cases h
      · split at h <;> cases h
  · rintro ⟨pairs, hread, rfl⟩
    obtain ⟨⟨v, rest⟩, hvalue, h⟩ := Json.ok_of_bind hread
    obtain ⟨⟨⟩, hend, h⟩ := Json.ok_of_bind h
    cases h
    obtain ⟨t, hbrace, hobject⟩ := Json.readValue_object_iff.mp hvalue
    have hfold : Json.readObject .fault Json.readName readMember empty t =
        .ok (ofList pairs, rest) := ((readMember_follows 125).readObject hname).mpr
      ⟨_, hobject, fun _ _ => trivial, hmembers.mpr ⟨pairs, rfl, rfl⟩⟩
    unfold decode
    simp only [hbrace, hfold, ok_bind, hend, mapError_ok]

/-! ## Agreement -/

variable {p q r : Parameters}

theorem agrees_refl (p : Parameters) : p.agrees p = true := agrees_iff.mpr fun _ => rfl

theorem agrees_symm (h : p.agrees q = true) : q.agrees p = true :=
  agrees_iff.mpr fun name => (agrees_iff.mp h name).symm

theorem agrees_trans (h : p.agrees q = true) (h' : q.agrees r = true) : p.agrees r = true :=
  agrees_iff.mpr fun name => (agrees_iff.mp h name).trans (agrees_iff.mp h' name)

/-- The order of the entries does not count. -/
theorem agrees_of_perm (h : p.entries.Perm q.entries) : p.agrees q = true := by
  refine agrees_iff.mpr fun name => Option.ext fun text => ?_
  rw [← mem_entries_iff, ← mem_entries_iff]
  exact h.mem_iff

/-! ## The mapping and its order -/

/-- Any edits lead to distinct names, and only distinct names are a restriction. Collecting puts each
name where it comes first, with the text that comes last, and reading collects the members of an
object. Storing and removing give back what was stored under the name, change what is stored under
that name only and keep the order of the others; what was removed and is stored again goes last. Two
parameter lists agree exactly if they store the same under every name, so agreement is an
equivalence and does not depend on any order. -/
theorem ordered_mapping :
    (∀ entries, Built entries ↔ (Entries.names entries).Nodup) ∧
    (∀ pairs, Entries.names (ofList pairs).entries = (pairs.map (·.1)).eraseDups ∧
      ∀ name, (ofList pairs).get? name = lastNamed? name pairs) ∧
    (∀ source p, decode source = .ok p ↔
      ∃ pairs, Json.read source.toList = .ok (objectOf pairs) ∧ p = ofList pairs) ∧
    (∀ j p, Codec.parameters.decode j = .ok p ↔ ∃ pairs, j = objectOf pairs ∧ p = ofList pairs) ∧
    (∀ (p : Parameters) name value,
      (p.exchange name value).1 = p.get? name ∧
      (∀ other, (p.exchange name value).2.get? other =
        if other = name then some value else p.get? other) ∧
      (p.exchange name value).2.entries =
        if p.get? name = none then p.entries ++ [(name, value)]
        else p.entries.map fun entry => if entry.1 = name then (name, value) else entry) ∧
    (∀ (p : Parameters) name,
      (p.take name).1 = p.get? name ∧
      (∀ other, (p.take name).2.get? other = if other = name then none else p.get? other) ∧
      (p.take name).2.entries = p.entries.filter (·.1 ≠ name) ∧
      ∀ value, ((p.take name).2.exchange name value).2.entries =
        p.entries.filter (·.1 ≠ name) ++ [(name, value)]) ∧
    (∀ p q : Parameters, p.agrees q = true ↔ ∀ name, p.get? name = q.get? name) ∧
    (Equivalence fun p q : Parameters => p.agrees q = true) ∧
    ∀ p q : Parameters, p.entries.Perm q.entries → p.agrees q = true := by
  refine ⟨fun _ => built_iff, fun pairs => ⟨names_ofList pairs, get?_ofList pairs⟩,
    fun _ _ => decode_text_eq_ok_iff, fun _ _ => decode_value_eq_ok_iff, ?_, ?_, fun _ _ => agrees_iff,
    ⟨agrees_refl, agrees_symm, agrees_trans⟩, fun _ _ => agrees_of_perm⟩
  · intro p name value
    rw [exchange_eq]
    exact ⟨rfl, get?_insert p name value, entries_insert p name value⟩
  · intro p name
    rw [take_eq]
    refine ⟨rfl, get?_erase p name, entries_erase p name, fun value => ?_⟩
    rw [exchange_eq]
    exact entries_insert_erase p name value

end Parameters

end WikiMarkup
