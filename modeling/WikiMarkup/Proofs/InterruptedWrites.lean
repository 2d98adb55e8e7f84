-- SUMMARY: An entry of which only a beginning was written is a miss: no rendering is served from it and no extension gets a state.
import WikiMarkup.Proofs.Brackets
import WikiMarkup.Proofs.RenderingRuns

/-!
# Interrupted writes

A file that was emptied and then written only in part holds a beginning of an entry. If the end of
its first line is missing, nothing is left behind that line; otherwise the tag is whole, and behind
it is a beginning of the bytes of a rendering, which is never an object.
-/

namespace WikiMarkup

/-! ## Entries -/

namespace Entry

theorem splitLine_of_not_mem {line : List UInt8} (h : lineEnd ∉ line) : splitLine line = (line, []) := by
  induction line with
  | nil => rfl
  | cons b line ih =>
    have hb : b ≠ lineEnd := fun heq => h (heq ▸ List.mem_cons_self)
    rw [splitLine, if_neg hb, ih fun hmem => h (List.mem_cons_of_mem _ hmem)]

/-- What an entry that was cut off gives is a beginning of its bytes, and not all of them. -/
theorem prefix_of_decode?_cut {stored tag : String} (htag : '\n' ∉ stored.toList)
    {value cut found : List UInt8} (hvalue : value ≠ []) (hcut : cut <+: encode stored value)
    (hne : cut ≠ encode stored value) (h : decode? tag cut = some found) :
    found <+: value ∧ found ≠ value := by
  have hline : lineEnd ∉ Text.bytes stored := fun hmem =>
    htag (Text.mem_of_mem_bytes (c := '\n') (by decide) hmem)
  have hfound : found = (splitLine cut).2 := by
    rw [decode?] at h
    obtain ⟨line, -, h⟩ := Option.bind_eq_some_iff.mp h
    split at h
    · cases h
    · exact (Option.some.inj h).symm
  rw [encode] at hcut hne
  generalize Text.bytes stored = line at hline hcut hne
  obtain ⟨lost, hlost⟩ := hcut
  rcases List.append_eq_append_iff.mp hlost with ⟨rest, rfl, -⟩ | ⟨rest, rfl, hrest⟩
  -- The first line has no end.
  · rw [splitLine_of_not_mem fun hmem => hline (List.mem_append_left _ hmem)] at hfound
    rw [hfound]
    exact ⟨List.nil_prefix, hvalue.symm⟩
  · cases rest with
    | nil =>
      rw [List.append_nil, splitLine_of_not_mem hline] at hfound
      rw [hfound]
      exact ⟨List.nil_prefix, hvalue.symm⟩
    | cons b behind =>
      obtain ⟨rfl, hvalue'⟩ := List.cons.inj hrest
      rw [splitLine_append hline] at hfound
      rw [hfound]
      refine ⟨⟨lost, hvalue'.symm⟩, ?_⟩
      rintro rfl
      exact hne rfl

end Entry

/-! ## Renderings -/

namespace StoredRendering

theorem toBytes_ne_nil (r : StoredRendering) : r.toBytes ≠ [] := by
  intro hnil
  have hchars : Json.byteChars r.toJson.print = [] := congrArg Json.ofByteChars hnil
  rw [toJson, Json.print, List.cons_append, Json.byteChars_cons (by decide)] at hchars
  cases hchars

/-- From a beginning of the bytes of a rendering none is read. -/
theorem ofBytes?_cut {r : StoredRendering} {cut : List UInt8} (hcut : cut <+: r.toBytes)
    (hne : cut ≠ r.toBytes) : ofBytes? cut = none := by
  rw [ofBytes?, Json.outline?_cut hcut hne]
  rfl

end StoredRendering

namespace RenderingCache

variable {σ : Type} [Host (StateM σ)]

/-- While the file of an entry holds only a beginning of it, no stored rendering is found. -/
theorem find?_interrupted {root source : String} {request : RenderRequest} {r : StoredRendering}
    {cut : List UInt8} (hcut : cut <+: Entry.encode (sourceTag source) r.toBytes)
    (hne : cut ≠ Entry.encode (sourceTag source) r.toBytes) {s : σ}
    (hread : ((Host.readFile (Store.entryPath root bucket request.key) :
      ExceptT FileError (StateM σ) (List UInt8)) s).1 = .ok cut) (documents : List Pattern) :
    ((find? ⟨.files root, documents⟩ request source : StateM σ (Option StoredRendering)) s).1 =
      none := by
  rw [run_find?]
  split
  · rw [Store.run_get?]
    generalize (Host.readFile (Store.entryPath root bucket request.key) :
      ExceptT FileError (StateM σ) (List UInt8)) s = read at hread ⊢
    obtain ⟨result, s'⟩ := read
    obtain rfl : result = .ok cut := hread
    change (Entry.decode? (sourceTag source) cut).bind StoredRendering.ofBytes? = none
    cases hdecode : Entry.decode? (sourceTag source) cut with
    | none => rfl
    | some found =>
      obtain ⟨hfound, hwhole⟩ := Entry.prefix_of_decode?_cut (no_lineEnd_sourceTag source)
        (StoredRendering.toBytes_ne_nil r) hcut hne hdecode
      exact StoredRendering.ofBytes?_cut hfound hwhole
  · rfl

/-- Storing a rendering writes one file, and while that file holds only a beginning of what is written
to it, lookups of the rendering miss and give no extension a state. -/
theorem lookup_interrupted (root : String) (documents : List Pattern) (request : RenderRequest)
    (source rendered : String) (states : List (String × Json)) (extensions : List String) :
    let c : RenderingCache := ⟨.files root, documents⟩
    let path := Store.entryPath root bucket request.key
    let contents := Entry.encode (sourceTag source) (StoredRendering.ofStates rendered states).toBytes
    (c.isCacheable request.document = true → ∀ s : σ,
      (c.insert request source rendered states : StateM σ Unit) s =
        ((), ((Store.writeWithParents path contents : ExceptT FileError (StateM σ) Unit) s).2)) ∧
    ∀ (s : σ) (cut : List UInt8), cut <+: contents → cut ≠ contents →
      ((Host.readFile path : ExceptT FileError (StateM σ) (List UInt8)) s).1 = .ok cut →
      ((c.lookup request source extensions : StateM σ _) s).1 = (none, extensions.map (·, none)) := by
  intro c path contents
  constructor
  · intro hcacheable s
    rw [run_insert, if_pos hcacheable]
    exact Store.run_put (no_lineEnd_sourceTag source) root bucket request.key _ s
  · intro s cut hcut hne hread
    have hmiss := find?_interrupted hcut hne hread documents
    rw [run_lookup]
    generalize (c.find? request source : StateM σ (Option StoredRendering)) s = result at hmiss ⊢
    obtain ⟨found, s'⟩ := result
    obtain rfl : found = none := hmiss
    rfl

/-- Nothing is served from an entry that ends in its tag, behind it, in its line end or in a text. -/
theorem lookup_interrupted_anywhere :
    let r : RenderRequest := ⟨"A.B", none, "", .empty⟩
    let contents := Entry.encode (sourceTag "s")
      (StoredRendering.ofStates "= \"T\" =" [("headings", .array [.text "T"])]).toBytes
    ∀ n ∈ [0, 63, 64, 65, 80, 118],
      let tree : Tree := ⟨[(["cache"], .directory), (["cache", "rendering"], .directory),
        (["cache", "rendering", r.key], .file (contents.take n))]⟩
      ((lookup ⟨.files "cache", []⟩ r "s" ["headings"] : StateM World _) ⟨tree, [], [], []⟩).1 =
        (none, [("headings", none)]) := by
  intro r contents n hn tree
  have hread : ∀ n ∈ [0, 63, 64, 65, 80, 118], contents.take n ≠ contents ∧
      ((Host.readFile (Store.entryPath "cache" bucket r.key) :
        ExceptT FileError (StateM World) (List UInt8)) ⟨⟨[(["cache"], .directory),
          (["cache", "rendering"], .directory), (["cache", "rendering", r.key],
            .file (contents.take n))]⟩, [], [], []⟩).1 = .ok (contents.take n) := by
    decide +kernel
  obtain ⟨hne, hfile⟩ := hread n hn
  exact (lookup_interrupted "cache" [] r "s" "= \"T\" =" [("headings", .array [.text "T"])]
    ["headings"]).2 _ _ (List.take_prefix n contents) hne hfile

end RenderingCache

end WikiMarkup
