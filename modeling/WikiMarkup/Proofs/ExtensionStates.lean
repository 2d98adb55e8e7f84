-- SUMMARY: A hit gives each extension the state that was listed last under its name, and no miss of any kind gives a state to one.
import Mathlib.Data.List.Induction
import WikiMarkup.Proofs.InterruptedWrites
import WikiMarkup.Proofs.RenderingStore

/-!
# States of extensions

States are put into a list that is sorted by name when they are stored, and taken out of it one by
one when they are handed out. Of each name the state that was put in last is in the list, and taking
one out leaves the others, so extensions of different names get what a lookup by name gives. A
lookup hits exactly if the last store under the key was of the source; it misses for a document that
is not cached, for a request of a fresh rendering, and for a file that is absent or holds anything
else.
-/

namespace WikiMarkup

/-! ## States by name -/

theorem lastNamed?_map {α β : Type} (f : α → β) (name : String) (members : List (String × α)) :
    lastNamed? name (members.map fun m => (m.1, f m.2)) = (lastNamed? name members).map f := by
  induction members using List.reverseRecOn with
  | nil => rfl
  | append_singleton members member ih =>
    rw [List.map_append, List.map_singleton, lastNamed?_concat, lastNamed?_concat, ih]
    split <;> rfl

namespace Json

/-- What is put in is found under its name, and nothing else changes. -/
theorem find?_putSorted {α : Type} (name : String) (value : α) (sorted : List (String × α))
    (asked : String) :
    (putSorted name value sorted).find? (·.1 = asked) =
      if name = asked then some (name, value) else sorted.find? (·.1 = asked) := by
  induction sorted with
  | nil => by_cases hasked : name = asked <;> simp [putSorted, hasked]
  | cons first rest ih =>
    obtain ⟨n, v⟩ := first
    simp only [putSorted]
    split
    · next hname =>
      subst hname
      by_cases hasked : name = asked
      · simp [hasked]
      · simp [hasked]
    · next hname =>
      split
      · by_cases hasked : name = asked
        · simp [hasked]
        · simp [hasked]
      · by_cases hn : n = asked
        · have hasked : ¬ name = asked := fun h => hname (h.trans hn.symm)
          simp [hn, hasked]
        · simp [hn, ih]

/-- A sorted list has under each name the last value that it was made of. -/
theorem find?_sortByName {α : Type} (members : List (String × α)) (name : String) :
    ((sortByName members).find? (·.1 = name)).map (·.2) = lastNamed? name members := by
  induction members using List.reverseRecOn with
  | nil => rfl
  | append_singleton members member ih =>
    have hsorted : sortByName (members ++ [member]) =
        putSorted member.1 member.2 (sortByName members) := by
      rw [sortByName, List.foldl_append]
      rfl
    rw [hsorted, find?_putSorted, lastNamed?_concat, apply_ite (Option.map _), ih]
    rfl

end Json

namespace StoredRendering

/-- Extensions of different names get the states that stand under their names. -/
theorem handOut_eq_map {names : List String} (h : names.Nodup) (states : List (String × Json)) :
    handOut states names = names.map fun name => (name, (states.find? (·.1 = name)).map (·.2)) := by
  induction names generalizing states with
  | nil => rfl
  | cons name names ih =>
    obtain ⟨hname, hnames⟩ := List.nodup_cons.mp h
    rw [handOut, ih hnames, List.map_cons]
    refine congrArg (List.cons _) (List.map_congr_left fun other hother => ?_)
    have hne : other ≠ name := fun heq => hname (heq ▸ hother)
    rw [List.find?_filter]
    refine congrArg (fun found => (other, Option.map Prod.snd found)) ?_
    congr 1
    funext state
    by_cases hstate : state.1 = other
    · simp [hstate, hne]
    · simp [hstate]

/-- What extensions get back of a list of states: each the last state under its name, in canonical
order. -/
def restored (states : List (String × Json)) (extensions : List String) :
    List (String × Option Json) :=
  extensions.map fun name => (name, (lastNamed? name states).map Json.canonical)

theorem handOut_ofStates {extensions : List String} (h : extensions.Nodup) (rendered : String)
    (states : List (String × Json)) :
    handOut (ofStates rendered states).extensions extensions = restored states extensions := by
  rw [handOut_eq_map h]
  refine List.map_congr_left fun name _ => congrArg (name, ·) ?_
  rw [ofStates, Json.find?_sortByName, Json.canonicalMembers_eq_map, lastNamed?_map]

end StoredRendering

/-! ## Hits -/

namespace RenderingCall

/-- The numbers in the states are read from their texts, and the states are not too deep. -/
def StatesReadable : RenderingCall → Prop
  | store _ _ _ states =>
    ∀ state ∈ states, Json.Readable (StoredRendering.memberDepth - 1) state.2
  | lookup _ _ _ => True

theorem StatesReadable.readable {call : RenderingCall} (h : call.StatesReadable) :
    call.Readable := by
  cases call with
  | store request source rendered states =>
    exact StoredRendering.ofBytes?_toBytes_ofStates h rendered
  | lookup request source extensions => trivial

end RenderingCall

namespace RenderingCache

variable {c : RenderingCache} {calls : List RenderingCall} {key : String}

/-- The last rendering under a key is that of a store behind which none stores under the key. -/
theorem lastStored?_eq_some_iff {source : String} {rendering : StoredRendering} :
    c.lastStored? calls key = some (source, rendering) ↔
      ∃ before request rendered states later,
        calls = before ++ .store request source rendered states :: later ∧
        c.isCacheable request.document = true ∧ request.key = key ∧
        (∀ call ∈ later, call.stored? c key = none) ∧ .ofStates rendered states = rendering := by
  rw [lastStored?, List.getLast?_filterMap, List.findSome?_eq_some_iff]
  constructor
  · rintro ⟨later, call, before, hcalls, hstored, hlater⟩
    cases call with
    | lookup _ _ _ => cases hstored
    | store request stored rendered states =>
      rw [RenderingCall.stored?] at hstored
      split at hstored
      · next hkey =>
        rw [Bool.and_eq_true, decide_eq_true_eq] at hkey
        cases hstored
        refine ⟨before.reverse, request, rendered, states, later.reverse, ?_, hkey.1, hkey.2.symm,
          fun call hcall => hlater call (List.mem_reverse.mp hcall), rfl⟩
        rw [List.reverse_eq_append_iff.mp hcalls, List.reverse_cons, List.append_assoc,
          List.singleton_append]
      · cases hstored
  · rintro ⟨before, request, rendered, states, later, rfl, hcacheable, rfl, hlater, rfl⟩
    refine ⟨later.reverse, .store request source rendered states, before.reverse, ?_, ?_,
      fun call hcall => hlater call (List.mem_reverse.mp hcall)⟩
    · rw [List.reverse_append, List.reverse_cons, List.append_assoc, List.singleton_append]
    · simp [RenderingCall.stored?, hcacheable]

/-- What is found is the last rendering under the key if that has the tag of the source. -/
theorem found?_eq_some_iff_tag {request : RenderRequest} {source : String}
    {held : Option (String × StoredRendering)} {rendering : StoredRendering} :
    c.found? request source held = some rendering ↔
      c.isCacheable request.document = true ∧ request.isRefresh = false ∧
        ∃ stored, sourceTag stored = sourceTag source ∧ held = some (stored, rendering) := by
  rw [found?, looksUp]
  cases c.isCacheable request.document with
  | false => simp
  | true =>
    cases request.isRefresh with
    | true => simp
    | false =>
      cases held with
      | none => simp
      | some entry =>
        obtain ⟨stored, other⟩ := entry
        by_cases htag : sourceTag stored = sourceTag source
        · simp [htag]
        · simp [htag, Ne.symm htag]

/-! ## Misses -/

/-- Why a lookup finds nothing in what it reads from the file of an entry. -/
inductive Misses (c : RenderingCache) (request : RenderRequest) (source : String) :
    Except FileError (List UInt8) → Prop
  | notCacheable {read : Except FileError (List UInt8)}
      (h : c.isCacheable request.document = false) : Misses c request source read
  | refresh {read : Except FileError (List UInt8)} (h : request.isRefresh = true) :
    Misses c request source read
  | absent (e : FileError) : Misses c request source (.error e)
  /-- The entry is that of a source with another digest. -/
  | otherSource {other : String} (h : sourceTag other ≠ sourceTag source) (value : List UInt8) :
    Misses c request source (.ok (Entry.encode (sourceTag other) value))
  /-- The first line is not text. -/
  | untagged {line : List UInt8} (hline : Entry.lineEnd ∉ line) (h : Text.ofBytes? line = none)
      (value : List UInt8) : Misses c request source (.ok (line ++ Entry.lineEnd :: value))
  /-- What is behind the tag is no rendering. -/
  | undecodable {value : List UInt8} (h : StoredRendering.ofBytes? value = none) :
    Misses c request source (.ok (Entry.encode (sourceTag source) value))
  /-- The entry was cut off somewhere. -/
  | truncated {rendering : StoredRendering} {cut : List UInt8}
      (hcut : cut <+: Entry.encode (sourceTag source) rendering.toBytes)
      (hne : cut ≠ Entry.encode (sourceTag source) rendering.toBytes) :
    Misses c request source (.ok cut)

section

variable {σ : Type} [Host (StateM σ)] {root source : String} {documents : List Pattern}
  {request : RenderRequest} {read : Except FileError (List UInt8)} {s : σ}

theorem find?_eq_none_of_read
    (hread : ((Host.readFile (Store.entryPath root bucket request.key) :
      ExceptT FileError (StateM σ) (List UInt8)) s).1 = read)
    (hnone : (read.toOption.bind (Entry.decode? (sourceTag source))).bind
      StoredRendering.ofBytes? = none) :
    ((find? ⟨.files root, documents⟩ request source : StateM σ (Option StoredRendering)) s).1 =
      none := by
  rw [run_find?]
  split
  · rw [Store.run_get?]
    subst hread
    exact hnone
  · rfl

/-- A lookup finds no rendering for any of these reasons. -/
theorem Misses.find? (h : Misses ⟨.files root, documents⟩ request source read)
    (hread : ((Host.readFile (Store.entryPath root bucket request.key) :
      ExceptT FileError (StateM σ) (List UInt8)) s).1 = read) :
    ((RenderingCache.find? ⟨.files root, documents⟩ request source :
      StateM σ (Option StoredRendering)) s).1 = none := by
  cases h with
  | notCacheable h =>
    rw [run_find?, looksUp, h]
    rfl
  | refresh h =>
    rw [run_find?, looksUp, h, Bool.not_true, Bool.and_false]
    rfl
  | absent e => exact find?_eq_none_of_read hread rfl
  | otherSource h value =>
    refine find?_eq_none_of_read hread ?_
    have hother := not_or.mpr ⟨sourceTag_ne_empty source, h.symm⟩
    rw [Except.toOption, Option.bind_some, Entry.decode?_encode (no_lineEnd_sourceTag _),
      if_neg hother]
    rfl
  | untagged hline h value =>
    refine find?_eq_none_of_read hread ?_
    rw [Except.toOption, Option.bind_some, Entry.decode?, Entry.splitLine_append hline]
    simp [h]
  | undecodable h =>
    refine find?_eq_none_of_read hread ?_
    rw [Except.toOption, Option.bind_some, Entry.decode?_encode (no_lineEnd_sourceTag _),
      if_pos (.inr rfl)]
    exact h
  | truncated hcut hne => exact find?_interrupted hcut hne hread documents

/-- A lookup that finds nothing calls no extension. -/
theorem lookup_of_find?_eq_none {c : RenderingCache}
    (h : ((c.find? request source : StateM σ (Option StoredRendering)) s).1 = none)
    (extensions : List String) :
    ((c.lookup request source extensions : StateM σ _) s).1 = (none, extensions.map (·, none)) := by
  rw [run_lookup]
  generalize (c.find? request source : StateM σ (Option StoredRendering)) s = result at h ⊢
  obtain ⟨found, s'⟩ := result
  obtain rfl : found = none := h
  rfl

/-- The text is that of the rendering that is found. -/
theorem text_lookup {c : RenderingCache} (extensions : List String) :
    ((c.lookup request source extensions : StateM σ _) s).1.1 =
      ((c.find? request source : StateM σ (Option StoredRendering)) s).1.map (·.rendered) := by
  rw [run_lookup]
  rcases (c.find? request source : StateM σ (Option StoredRendering)) s with ⟨_ | found, s'⟩ <;> rfl

end

/-! ## Lookups -/

/-- On a store that was opened with a new version, a lookup for extensions of different names hits
exactly if the document is cacheable, no fresh rendering is asked for, and the last store under the
key was of a source with this tag. It gives the text of that store, and each extension the last
state that was listed under its name there. On any host a lookup that gives no text gives no state
to an extension, this is so for each of the reasons to miss, and the text does not depend on the
extensions. -/
theorem lookup_restores {w : World} {root version : String} {place : Location}
    (hhome : Store.Home w root place)
    (hversion : ((Store.storedVersion root : StateM World (Option String)) w).1 ≠ some version)
    (hvalid : ∀ request : RenderRequest, Path.Valid (Store.entryPath root bucket request.key))
    (documents : List Pattern) {calls : List RenderingCall}
    (hstates : ∀ call ∈ calls, call.StatesReadable) :
    let c : RenderingCache := ⟨.files root, documents⟩
    (∃ w', (RenderingCall.openAndRun root version documents calls : StateM World _) w = (c, w') ∧
      ∀ request source (extensions : List String) text given, extensions.Nodup →
        (((c.lookup request source extensions : StateM World _) w').1 = (some text, given) ↔
          c.isCacheable request.document = true ∧ request.isRefresh = false ∧
            ∃ before stored other states later,
              calls = before ++ .store stored other text states :: later ∧
              c.isCacheable stored.document = true ∧ stored.key = request.key ∧
              sourceTag other = sourceTag source ∧
              (∀ call ∈ later, call.stored? c request.key = none) ∧
              given = StoredRendering.restored states extensions)) ∧
    ∀ {σ : Type} [Host (StateM σ)] (s : σ) (request : RenderRequest) (source : String)
      (extensions : List String),
      (((c.lookup request source extensions : StateM σ _) s).1.1 = none →
        ((c.lookup request source extensions : StateM σ _) s).1.2 = extensions.map (·, none)) ∧
      (Misses c request source ((Host.readFile (Store.entryPath root bucket request.key) :
          ExceptT FileError (StateM σ) (List UInt8)) s).1 →
        ((c.lookup request source extensions : StateM σ _) s).1 =
          (none, extensions.map (·, none))) ∧
      ∀ others, ((c.lookup request source others : StateM σ _) s).1.1 =
        ((c.lookup request source extensions : StateM σ _) s).1.1 := by
  intro c
  constructor
  · obtain ⟨w', hrun, hholds⟩ := Holds.openAndRun hhome hversion hvalid documents
      fun call hcall => (hstates call hcall).readable
    refine ⟨w', hrun, fun request source extensions text given hnodup => ?_⟩
    rw [hholds.lookup]
    constructor
    · intro hanswer
      cases hfound : found? c request source (lastStored? c calls request.key) with
      | none => rw [hfound] at hanswer; cases hanswer
      | some rendering =>
        rw [hfound] at hanswer
        obtain ⟨hcacheable, hrefresh, other, htag, hlast⟩ := found?_eq_some_iff_tag.mp hfound
        obtain ⟨before, stored, rendered, states, later, hcalls, hstored, hkey, hlater, rfl⟩ :=
          lastStored?_eq_some_iff.mp hlast
        dsimp only at hanswer
        rw [StoredRendering.handOut_ofStates hnodup] at hanswer
        obtain ⟨htext, hgiven⟩ := Prod.mk.inj hanswer
        obtain rfl : rendered = text := Option.some.inj htext
        exact ⟨hcacheable, hrefresh, before, stored, other, states, later, hcalls, hstored, hkey,
          htag, hlater, hgiven.symm⟩
    · rintro ⟨hcacheable, hrefresh, before, stored, other, states, later, hcalls, hstored, hkey,
        htag, hlater, rfl⟩
      have hlast := lastStored?_eq_some_iff.mpr
        ⟨before, stored, text, states, later, hcalls, hstored, hkey, hlater, rfl⟩
      rw [found?_eq_some_iff_tag.mpr ⟨hcacheable, hrefresh, other, htag, hlast⟩]
      dsimp only
      rw [StoredRendering.handOut_ofStates hnodup]
      rfl
  · intro σ _ s request source extensions
    refine ⟨fun htext => ?_, fun hmiss => ?_, fun others => ?_⟩
    · rw [text_lookup, Option.map_eq_none_iff] at htext
      rw [lookup_of_find?_eq_none htext]
    · exact lookup_of_find?_eq_none (hmiss.find? rfl) extensions
    · rw [text_lookup, text_lookup]

/-- Of a name that was listed twice the later state is given back, a name that nobody listed gets
none, and the state of a name that nobody asks for is left. -/
theorem lookup_restores_later_state :
    let r : RenderRequest := ⟨"A.B", none, "", .empty⟩
    let states : List (String × Json) := [("toc", .text "old"), ("notes", .array [.integer 1]),
      ("toc", .object [("b", .null), ("a", .boolean true)])]
    let calls : List RenderingCall := [.store r "s" "text" states, .lookup r "s" ["notes"]]
    ∃ w', (RenderingCall.openAndRun "cache" "1" [] calls : StateM World _) ⟨.empty, [], [], []⟩ =
        (⟨.files "cache", []⟩, w') ∧
      ((lookup ⟨.files "cache", []⟩ r "s" ["footnotes", "toc"] : StateM World _) w').1 =
        (some "text", [("footnotes", none),
          ("toc", some (.object [("a", .boolean true), ("b", .null)]))]) := by
  intro r states calls
  have hname : Path.IsName "cache" := by constructor <;> decide
  have hexact : ∀ state ∈ states, Json.Exact 1 state.2 := by
    intro state hstate
    simp only [states, List.mem_cons, List.not_mem_nil, or_false] at hstate
    rcases hstate with rfl | rfl | rfl
    · exact .text _
    · exact .array (by simpa using .integer ⟨by decide, by decide⟩)
    · exact .object (by simpa using ⟨.null, .boolean _⟩)
  have hstates : ∀ call ∈ calls, call.StatesReadable := by
    intro call hcall
    simp only [calls, List.mem_cons, List.not_mem_nil, or_false] at hcall
    rcases hcall with rfl | rfl
    · exact fun state hstate => (hexact state hstate).readable.mono (by decide)
    · trivial
  obtain ⟨⟨w', hrun, hlookup⟩, -⟩ := lookup_restores (.of_empty hname)
    (Store.Home.storedVersion_empty hname "1") (valid_entryPath (by decide) (by decide)) [] hstates
  refine ⟨w', hrun, (hlookup r "s" ["footnotes", "toc"] _ _ (by decide)).mpr ?_⟩
  exact ⟨rfl, by decide, [], r, "s", states, [.lookup r "s" ["notes"]], rfl, rfl, rfl, rfl,
    by simp [RenderingCall.stored?], by rfl⟩

end RenderingCache

end WikiMarkup
