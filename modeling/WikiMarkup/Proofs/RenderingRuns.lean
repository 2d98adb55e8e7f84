-- SUMMARY: What looking up and storing a rendering come to on a host, and what the files of a store of renderings hold between them.
import WikiMarkup.Proofs.RequestKeys
import WikiMarkup.Proofs.StoreFiles
import WikiMarkup.Command.Run

/-!
# Stores of renderings

Keys and tags are digests in hexadecimal digits, so they are names of files and fit on one line.
Between two operations each key has at most one rendering, of one source; `Holds` ties the files to
them. Looking up compares tags, storing replaces what the key has, and neither touches another key.
-/

namespace WikiMarkup

/-! ## Digests as names -/

namespace Text

theorem mem_hexChars {bs : List UInt8} {c : Char} (h : c ∈ hexChars bs) :
    ∃ n < 16, c = hexDigit n := by
  obtain ⟨b, -, hc⟩ := List.mem_flatMap.mp h
  have hb := b.toNat_lt
  simp only [List.mem_cons, List.not_mem_nil, or_false] at hc
  rcases hc with rfl | rfl
  · exact ⟨b.toNat / 16, by omega, rfl⟩
  · exact ⟨b.toNat % 16, by omega, rfl⟩

theorem length_hexChars (bs : List UInt8) : (hexChars bs).length = 2 * bs.length := by
  induction bs with
  | nil => rfl
  | cons b bs ih =>
    have hcons : (hexChars (b :: bs)).length = 2 + (hexChars bs).length := by
      rw [← List.singleton_append, hexChars, List.flatMap_append, List.length_append]
      rfl
    rw [hcons, ih, List.length_cons]
    omega

/-- Digits in a text take one byte each. -/
theorem utf8ByteSize_hex (bs : List UInt8) : (hex bs).utf8ByteSize = 2 * bs.length := by
  have hsize : (hex bs).utf8ByteSize = ((hexChars bs).flatMap String.utf8EncodeChar).length := by
    rw [← bytes_ofList]
    rfl
  have hone : ∀ cs : List Char, (∀ c ∈ cs, c.toNat < 128) →
      (cs.flatMap String.utf8EncodeChar).length = cs.length := by
    intro cs hcs
    induction cs with
    | nil => rfl
    | cons c cs ih =>
      rw [List.flatMap_cons, List.length_append, encodeChar_of_lt (hcs c List.mem_cons_self),
        ih fun d hd => hcs d (List.mem_cons_of_mem _ hd), List.length_singleton, List.length_cons,
        Nat.add_comm]
  rw [hsize, hone, length_hexChars]
  intro c hc
  obtain ⟨n, hn, rfl⟩ := mem_hexChars hc
  have hdigit : ∀ n < 16, (hexDigit n).toNat < 128 := by decide
  exact hdigit n hn

end Text

namespace Sha256

theorem length_digest (message : List UInt8) : (digest message).length = 32 := rfl

theorem utf8ByteSize_hexDigest (message : List UInt8) : (hexDigest message).utf8ByteSize = 64 := by
  rw [hexDigest, Text.utf8ByteSize_hex, length_digest]

/-- A digest is made of digits only. -/
theorem not_mem_hexDigest {c : Char} (h : ∀ n < 16, c ≠ Text.hexDigit n) (message : List UInt8) :
    c ∉ (hexDigest message).toList := by
  intro hc
  rw [hexDigest, Text.hex, String.toList_ofList] at hc
  obtain ⟨n, hn, heq⟩ := Text.mem_hexChars hc
  exact h n hn heq

theorem isName_hexDigest (message : List UInt8) : Path.IsName (hexDigest message) := by
  have hsize := utf8ByteSize_hexDigest message
  have hne : ∀ name : String, name.utf8ByteSize ≠ 64 → hexDigest message ≠ name := by
    rintro name hname rfl
    exact hname hsize
  refine ⟨hne _ (by decide), hne _ (by decide), hne _ (by decide), ?_, ?_, ?_⟩
  · exact not_mem_hexDigest (by decide) message
  · exact not_mem_hexDigest (by decide) message
  · rw [hsize]
    decide

end Sha256

theorem RenderRequest.isName_key (request : RenderRequest) : Path.IsName request.key :=
  Sha256.isName_hexDigest _

theorem sourceTag_ne_empty (source : String) : sourceTag source ≠ "" :=
  (Sha256.isName_hexDigest _).ne_empty

theorem no_lineEnd_sourceTag (source : String) : '\n' ∉ (sourceTag source).toList :=
  Sha256.not_mem_hexDigest (by decide) _

/-! ## Runs of the operations -/

/-- Renders sources one after the other, each through the cache if it comes with a request. -/
def renderAll {m : Type → Type} [Monad m] [Host m] (c : RenderingCache) :
    List (Option RenderRequest × String) → m (List (Except RunError Rendered))
  | [] => return []
  | (request, source) :: calls => do
    let result ← renderSource (request.map (c, ·)) source
    let results ← renderAll c calls
    return result :: results

theorem run_renderAll_cons {σ : Type} [Host (StateM σ)] (c : RenderingCache)
    (request : Option RenderRequest) (source : String)
    (calls : List (Option RenderRequest × String)) (s : σ) :
    (renderAll c ((request, source) :: calls) : StateM σ _) s =
      match (renderSource (request.map (c, ·)) source : StateM σ (Except RunError Rendered)) s with
      | (result, s') =>
        match (renderAll c calls : StateM σ (List (Except RunError Rendered))) s' with
        | (results, s'') => (result :: results, s'') := rfl

namespace RenderingCache

section

variable {σ : Type} [Host (StateM σ)] (c : RenderingCache) (request : RenderRequest)
  (source : String) (s : σ)

/-- Whether the stored rendering is looked at for a request. -/
def looksUp (c : RenderingCache) (request : RenderRequest) : Bool :=
  c.isCacheable request.document && !request.isRefresh

theorem run_find? :
    (c.find? request source : StateM σ (Option StoredRendering)) s =
      if c.looksUp request then
        match (c.store.get? bucket request.key (sourceTag source) : StateM σ _) s with
        | (bytes, s') => (bytes.bind StoredRendering.ofBytes?, s')
      else (none, s) := by
  rw [find?, looksUp]
  cases c.isCacheable request.document <;> cases request.isRefresh <;> rfl

theorem run_insert (rendered : String) (states : List (String × Json)) :
    (c.insert request source rendered states : StateM σ Unit) s =
      if c.isCacheable request.document then
        (c.store.put bucket request.key (sourceTag source)
          (StoredRendering.ofStates rendered states).toBytes : StateM σ Unit) s
      else ((), s) := by
  rw [insert]
  split <;> rfl

theorem run_lookup (extensions : List String) :
    (c.lookup request source extensions : StateM σ _) s =
      match (c.find? request source : StateM σ (Option StoredRendering)) s with
      | (some found, s') =>
        ((some found.rendered, StoredRendering.handOut found.extensions extensions), s')
      | (none, s') => ((none, extensions.map (·, none)), s') := by
  rw [lookup, Host.run_state_bind]
  rcases (c.find? request source : StateM σ (Option StoredRendering)) s with ⟨_ | found, s'⟩ <;> rfl

theorem run_renderThrough :
    (renderThrough c request source : StateM σ (Except RunError Rendered)) s =
      match (c.find? request source : StateM σ (Option StoredRendering)) s with
      | (some found, s') => (.ok ⟨found.rendered, []⟩, s')
      | (none, s') =>
        match renderFresh source with
        | .error e => (.error e, s')
        | .ok rendered =>
          match (c.insert request source rendered.text [] : StateM σ Unit) s' with
          | ((), s'') => (.ok rendered, s'') := by
  rw [renderThrough, Host.run_state_bind]
  rcases (c.find? request source : StateM σ (Option StoredRendering)) s with ⟨_ | found, s'⟩
  · cases renderFresh source <;> rfl
  · rfl

end

/-! ## What the files hold -/

/-- The last item that gives something decides, if it gives something. -/
theorem getLast?_filterMap_concat {α β : Type} (f : α → Option β) (items : List α) (item : α) :
    ((items ++ [item]).filterMap f).getLast? =
      match f item with
      | some found => some found
      | none => (items.filterMap f).getLast? := by
  rw [List.filterMap_append]
  cases hitem : f item with
  | none => rw [List.filterMap_cons_none hitem, List.filterMap_nil, List.append_nil]
  | some found => rw [List.filterMap_cons_some hitem, List.filterMap_nil, List.getLast?_concat]

/-- The digest of the source is that of no other one of the sources. -/
def Separated (sources : List String) (source : String) : Prop :=
  ∀ other ∈ sources, sourceTag source = sourceTag other → source = other

/-- What a request finds of the rendering that its key has. -/
def found? (c : RenderingCache) (request : RenderRequest) (source : String)
    (held : Option (String × StoredRendering)) : Option StoredRendering :=
  if c.looksUp request then
    held.bind fun (stored, rendering) =>
      if sourceTag source = sourceTag stored then some rendering else none
  else none

/-- Without a collision of digests, what is found is a rendering of the source itself. -/
theorem found?_eq_some_iff {c : RenderingCache} {request : RenderRequest} {source : String}
    {held : Option (String × StoredRendering)} {rendering : StoredRendering}
    (h : ∀ stored other, held = some (stored, other) → sourceTag source = sourceTag stored →
      source = stored) :
    c.found? request source held = some rendering ↔
      c.isCacheable request.document = true ∧ request.isRefresh = false ∧
        held = some (source, rendering) := by
  rw [found?, looksUp]
  cases c.isCacheable request.document with
  | false => simp
  | true =>
    cases request.isRefresh with
    | true => simp
    | false =>
      cases held with
      | none => simp
      | some entry =>
        obtain ⟨stored, other⟩ := entry
        have hsame := h stored other rfl
        by_cases htag : sourceTag source = sourceTag stored
        · simp [hsame htag]
        · have hother : stored ≠ source := fun heq => htag (by rw [heq])
          simp [htag, hother]

/-- Under each key the files hold one rendering of one source, or none. -/
structure Holds (w : World) (root : String) (place : Location)
    (held : String → Option (String × StoredRendering)) : Prop where
  home : Store.Home w root place
  laid : Store.Home.Laid w.tree place
  valid : ∀ request : RenderRequest, Path.Valid (Store.entryPath root bucket request.key)
  entries : ∀ key, w.tree.contents? (place ++ [bucket, key]) =
    (held key).map fun (source, rendering) => Entry.encode (sourceTag source) rendering.toBytes
  readable : ∀ key source rendering, held key = some (source, rendering) →
    StoredRendering.ofBytes? rendering.toBytes = some rendering

variable {w : World} {root : String} {place : Location}
  {held : String → Option (String × StoredRendering)}

theorem isName_bucket : Path.IsName bucket := by
  constructor <;> decide

/-- The path of an entry is not too long if that of the store leaves room. -/
theorem valid_entryPath (hnul : Char.ofNat 0 ∉ root.toList)
    (hroom : root.utf8ByteSize + 75 < Tree.maxPath) (request : RenderRequest) :
    Path.Valid (Store.entryPath root bucket request.key) := by
  have hkey := request.isName_key
  refine ⟨Path.no_nul_join hkey (Path.no_nul_join isName_bucket hnul), ?_⟩
  calc (Store.entryPath root bucket request.key).utf8ByteSize
      ≤ (Path.join root bucket).utf8ByteSize + 1 + request.key.utf8ByteSize :=
        Path.utf8ByteSize_join_le hkey _
    _ = (Path.join root bucket).utf8ByteSize + 65 := by
        rw [show request.key.utf8ByteSize = 64 from Sha256.utf8ByteSize_hexDigest _]
    _ ≤ root.utf8ByteSize + 1 + bucket.utf8ByteSize + 65 :=
        Nat.add_le_add_right (Path.utf8ByteSize_join_le isName_bucket root) 65
    _ = root.utf8ByteSize + 75 := rfl
    _ < Tree.maxPath := hroom

namespace Holds

theorem plainEntry (h : Holds w root place held) (request : RenderRequest) :
    Store.PlainEntry root bucket request.key :=
  ⟨isName_bucket, by decide, request.isName_key, h.valid request⟩

/-- A store that was opened with a new version holds nothing. -/
theorem of_fresh {version : String} (hhome : Store.Home w root place)
    (hfresh : Store.Home.Fresh w.tree place version)
    (hvalid : ∀ request : RenderRequest, Path.Valid (Store.entryPath root bucket request.key)) :
    Holds w root place fun _ => none := by
  refine ⟨hhome, hfresh.laid, hvalid, ?_, ?_⟩
  · intro key
    have hnone := hfresh (place ++ [bucket, key]) (List.prefix_append _ _)
    rw [if_neg (by simp), if_neg (by simp)] at hnone
    rw [Tree.contents?, hnone]
    rfl
  · intro key source rendering hheld
    cases hheld

/-- Opening with a new version leaves such a store. -/
theorem openAt {version : String} (hhome : Store.Home w root place)
    (hversion : ((Store.storedVersion root : StateM World (Option String)) w).1 ≠ some version)
    (hvalid : ∀ request : RenderRequest, Path.Valid (Store.entryPath root bucket request.key)) :
    ∃ w', (Store.openAt root version : StateM World Store) w = (.files root, w') ∧
      Holds w' root place fun _ => none := by
  rw [hhome.run_storedVersion] at hversion
  obtain ⟨tree, hopen, hhome', hfresh⟩ := hhome.run_openAt_other hversion
  exact ⟨{ w with tree }, hopen, .of_fresh hhome' hfresh hvalid⟩

/-- What is looked up is what the key has, if that has the tag of the source. Nothing changes. -/
theorem find? (h : Holds w root place held) (documents : List Pattern) (request : RenderRequest)
    (source : String) :
    (RenderingCache.find? ⟨.files root, documents⟩ request source : StateM World _) w =
      (found? ⟨.files root, documents⟩ request source (held request.key), w) := by
  rw [run_find?, h.home.run_get? (h.plainEntry request), h.entries, found?]
  split
  · cases hheld : held request.key with
    | none => rfl
    | some entry =>
      obtain ⟨stored, rendering⟩ := entry
      rw [Option.map_some, Option.bind_some, Option.bind_some,
        Entry.decode?_encode (no_lineEnd_sourceTag stored)]
      dsimp only
      by_cases htag : sourceTag source = sourceTag stored
      · rw [if_pos (.inr htag), if_pos htag, Option.bind_some, h.readable _ _ _ hheld]
      · rw [if_neg (not_or.mpr ⟨sourceTag_ne_empty source, htag⟩), if_neg htag]
        rfl
  · rfl

/-- A lookup hands out what is found, and changes nothing. -/
theorem lookup (h : Holds w root place held) (documents : List Pattern) (request : RenderRequest)
    (source : String) (extensions : List String) :
    (RenderingCache.lookup ⟨.files root, documents⟩ request source extensions : StateM World _) w =
      (match found? ⟨.files root, documents⟩ request source (held request.key) with
        | some found => (some found.rendered, StoredRendering.handOut found.extensions extensions)
        | none => (none, extensions.map (·, none)), w) := by
  rw [run_lookup, h.find?]
  cases found? ⟨.files root, documents⟩ request source (held request.key) <;> rfl

/-- Storing replaces what the key has, and changes no other file. -/
theorem insert (h : Holds w root place held) {documents : List Pattern} {request : RenderRequest}
    (hcacheable : isCacheable ⟨.files root, documents⟩ request.document = true) (source : String)
    {rendered : String} {states : List (String × Json)}
    (hreadable : StoredRendering.ofBytes? (StoredRendering.ofStates rendered states).toBytes =
      some (.ofStates rendered states)) :
    ∃ w', (RenderingCache.insert ⟨.files root, documents⟩ request source rendered states :
        StateM World Unit) w = ((), w') ∧
      (∀ loc, loc ≠ place ++ [bucket, request.key] → w'.tree.contents? loc = w.tree.contents? loc) ∧
      Holds w' root place fun key =>
        if key = request.key then some (source, .ofStates rendered states) else held key := by
  obtain ⟨tree, hput, hhome, hlaid, hcontents⟩ := h.home.run_put h.laid (h.plainEntry request)
    (no_lineEnd_sourceTag source) (StoredRendering.ofStates rendered states).toBytes
  refine ⟨_, by rw [run_insert, if_pos hcacheable, hput], ?_, hhome, hlaid, h.valid, ?_, ?_⟩
  · intro loc hloc
    rw [hcontents, if_neg hloc]
  · intro key
    have hplace : place ++ [bucket, key] = place ++ [bucket, request.key] ↔ key = request.key := by
      simp
    rw [hcontents, h.entries]
    by_cases hkey : key = request.key
    · rw [if_pos (hplace.mpr hkey), if_pos hkey]
      rfl
    · rw [if_neg fun heq => hkey (hplace.mp heq), if_neg hkey]
  · intro key stored rendering hheld
    split at hheld
    · cases hheld
      exact hreadable
    · exact h.readable key stored rendering hheld

end Holds

end RenderingCache

end WikiMarkup
