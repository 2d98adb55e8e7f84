-- SUMMARY: Rendering through a store gives the texts and errors of rendering afresh, whatever earlier calls stored and whichever changes of the files were refused.
import WikiMarkup.Proofs.RefusedChanges
import WikiMarkup.Proofs.RenderingRuns
import WikiMarkup.Proofs.StoredStates

/-!
# Rendering through a store

Calls share one store and overwrite each other's entries; sources change under a key, some cannot be
rendered, and some writes are lost. What carries over from call to call is that every entry is the
fresh rendering of the source that its tag is the digest of: such an entry can only be hit by that
source, and then gives what rendering it again would give.
-/

namespace WikiMarkup

namespace RenderingCache

/-- Every entry is the fresh rendering of one of the sources, under the tag of that source. -/
def Sound (s : FaultyWorld) (root : String) (sources : List String) : Prop :=
  ∀ key contents, s.world.tree.contents?
      (Tree.placeBehind s.world.directory (Path.join root bucket) key) = some contents →
    ∃ source rendered, source ∈ sources ∧ renderFresh source = .ok rendered ∧
      contents = Entry.encode (sourceTag source) (StoredRendering.ofStates rendered.text []).toBytes

namespace Sound

variable {s : FaultyWorld} {root source : String} {sources : List String}
  {documents : List Pattern} {rendered : Rendered}

/-- What is found is the fresh rendering of the source that was asked for. -/
theorem find? (h : Sound s root sources) (documents : List Pattern) (request : RenderRequest)
    (hsource : Separated sources source) :
    ∃ found, (RenderingCache.find? ⟨.files root, documents⟩ request source :
        StateM FaultyWorld _) s = (found, s) ∧
      ∀ rendering, found = some rendering →
        ∃ rendered, renderFresh source = .ok rendered ∧ rendering = .ofStates rendered.text [] := by
  obtain ⟨contents, hget, hfile⟩ :=
    FaultyWorld.run_get? request.isName_key root bucket (sourceTag source) s
  rw [run_find?, hget]
  split
  · refine ⟨_, rfl, fun rendering hfound => ?_⟩
    cases contents with
    | none => cases hfound
    | some contents =>
      obtain ⟨stored, rendered, hmem, hfresh, rfl⟩ := h request.key contents (hfile contents rfl)
      rw [Option.bind_some, Entry.decode?_encode (no_lineEnd_sourceTag stored)] at hfound
      split at hfound
      · next htag =>
        obtain rfl := hsource stored hmem (htag.resolve_left (sourceTag_ne_empty source))
        rw [Option.bind_some, StoredRendering.ofBytes?_toBytes] at hfound
        exact ⟨rendered, hfresh, (Option.some.inj hfound).symm⟩
      · cases hfound
  · exact ⟨none, rfl, fun rendering hfound => by cases hfound⟩

/-- Storing a fresh rendering keeps entries sound, whether or not it comes through. -/
theorem insert (h : Sound s root sources) (documents : List Pattern) (request : RenderRequest)
    (hmem : source ∈ sources) (hfresh : renderFresh source = .ok rendered) :
    ∃ s', (RenderingCache.insert ⟨.files root, documents⟩ request source rendered.text [] :
        StateM FaultyWorld Unit) s = ((), s') ∧ Sound s' root sources := by
  rw [run_insert]
  split
  · obtain ⟨s', hput, hdirectory, hwritten⟩ := FaultyWorld.run_put (no_lineEnd_sourceTag source)
      request.isName_key root bucket (StoredRendering.ofStates rendered.text []).toBytes s
    refine ⟨s', hput, fun key contents hfile => ?_⟩
    rw [hdirectory] at hfile
    rcases hwritten _ _ hfile with hold | ⟨-, rfl⟩
    · exact h key contents hold
    · exact ⟨source, rendered, hmem, hfresh, rfl⟩
  · exact ⟨s, rfl, h⟩

/-- One call: the text or the error is that of a fresh rendering, and an error changes nothing. -/
theorem renderSource (h : Sound s root sources) (documents : List Pattern)
    (request : Option RenderRequest) (hmem : source ∈ sources) (hsource : Separated sources source) :
    ∃ result s', (WikiMarkup.renderSource
          (request.map ((⟨.files root, documents⟩ : RenderingCache), ·)) source :
        StateM FaultyWorld (Except RunError Rendered)) s = (result, s') ∧
      result.map (·.text) = (renderFresh source).map (·.text) ∧
      Sound s' root sources ∧ ∀ e, result = .error e → s' = s := by
  cases request with
  | none => exact ⟨renderFresh source, s, rfl, rfl, h, fun _ _ => rfl⟩
  | some request =>
    change ∃ result s', (renderThrough ⟨.files root, documents⟩ request source :
      StateM FaultyWorld (Except RunError Rendered)) s = (result, s') ∧ _
    obtain ⟨found, hfind, hfound⟩ := h.find? documents request hsource
    rw [run_renderThrough, hfind]
    cases found with
    | some rendering =>
      obtain ⟨rendered, hfresh, rfl⟩ := hfound rendering rfl
      refine ⟨_, s, rfl, ?_, h, fun _ _ => rfl⟩
      rw [hfresh]
      rfl
    | none =>
      dsimp only
      cases hfresh : renderFresh source with
      | error e => exact ⟨.error e, s, rfl, rfl, h, fun _ _ => rfl⟩
      | ok rendered =>
        obtain ⟨s', hinsert, hsound⟩ := h.insert documents request hmem hfresh
        dsimp only
        rw [hinsert]
        exact ⟨.ok rendered, s', rfl, rfl, hsound, fun e he => by cases he⟩

/-- Any calls. -/
theorem renderAll {calls : List (Option RenderRequest × String)} (h : Sound s root sources)
    (documents : List Pattern) (hmem : ∀ call ∈ calls, call.2 ∈ sources)
    (hsources : ∀ source ∈ sources, Separated sources source) :
    ∃ results s', (WikiMarkup.renderAll ⟨.files root, documents⟩ calls : StateM FaultyWorld _) s =
        (results, s') ∧
      (results.map fun result => result.map (·.text)) =
        (calls.map fun call => (renderFresh call.2).map (·.text)) ∧
      Sound s' root sources := by
  induction calls generalizing s with
  | nil => exact ⟨[], s, rfl, rfl, h⟩
  | cons call calls ih =>
    obtain ⟨request, source⟩ := call
    have hfirst : source ∈ sources := hmem _ List.mem_cons_self
    obtain ⟨result, s', hrun, hresult, hsound, -⟩ :=
      h.renderSource documents request hfirst (hsources source hfirst)
    obtain ⟨results, s'', hruns, hresults, hsound'⟩ :=
      ih hsound fun call hcall => hmem call (List.mem_cons_of_mem _ hcall)
    refine ⟨result :: results, s'', ?_, ?_, hsound'⟩
    · rw [run_renderAll_cons, hrun]
      dsimp only
      rw [hruns]
    · rw [List.map_cons, List.map_cons, hresult, hresults]

end Sound

/-- Calls through a store without entries give the texts and the errors of fresh renderings, whatever
changes are refused. A call that fails leaves everything as it was, and after each call what a
request finds is the fresh rendering of the source that it asks for. -/
theorem renderAll_eq_fresh (s : FaultyWorld) (root : String) (documents : List Pattern)
    (calls : List (Option RenderRequest × String))
    (hempty : ∀ key, s.world.tree.contents?
      (Tree.placeBehind s.world.directory (Path.join root bucket) key) = none)
    (hseparated : ∀ call ∈ calls, Separated (calls.map (·.2)) call.2) :
    let c : RenderingCache := ⟨.files root, documents⟩
    (((WikiMarkup.renderAll c calls : StateM FaultyWorld _) s).1.map fun result =>
        result.map (·.text)) =
      (calls.map fun call => (renderFresh call.2).map (·.text)) ∧
    ∀ before request source after, calls = before ++ (request, source) :: after →
      ∀ results s' result s'',
      (WikiMarkup.renderAll c before : StateM FaultyWorld _) s = (results, s') →
      (WikiMarkup.renderSource (request.map (c, ·)) source :
        StateM FaultyWorld (Except RunError Rendered)) s' = (result, s'') →
      (∀ e, result = .error e → s'' = s') ∧
      ∀ request source found, Separated (calls.map (·.2)) source →
        ((c.find? request source : StateM FaultyWorld _) s'').1 = some found →
        ∃ rendered, renderFresh source = .ok rendered ∧ found = .ofStates rendered.text [] := by
  intro c
  have hsound : Sound s root (calls.map (·.2)) := by
    intro key contents hfile
    rw [hempty] at hfile
    cases hfile
  have hmem : ∀ call ∈ calls, call.2 ∈ calls.map (·.2) := fun call hcall =>
    List.mem_map_of_mem hcall
  have hsources : ∀ source ∈ calls.map (·.2), Separated (calls.map (·.2)) source := by
    intro source hsource
    obtain ⟨call, hcall, rfl⟩ := List.mem_map.mp hsource
    exact hseparated call hcall
  constructor
  · obtain ⟨results, s', hrun, hresults, -⟩ := hsound.renderAll documents hmem hsources
    rw [hrun]
    exact hresults
  · intro before request source after hsplit results s' result s'' hruns hrun
    have hbefore : ∀ call ∈ before, call.2 ∈ calls.map (·.2) := fun call hcall =>
      hmem call (hsplit ▸ List.mem_append_left _ hcall)
    have hcall : source ∈ calls.map (·.2) :=
      hmem (request, source) (hsplit ▸ List.mem_append_right _ List.mem_cons_self)
    obtain ⟨_, _, hruns', -, hsound'⟩ := hsound.renderAll documents hbefore hsources
    obtain ⟨rfl, rfl⟩ := Prod.mk.inj (hruns.symm.trans hruns')
    obtain ⟨_, _, hrun', -, hsound'', herror⟩ :=
      hsound'.renderSource documents request hcall (hsources source hcall)
    obtain ⟨rfl, rfl⟩ := Prod.mk.inj (hrun.symm.trans hrun')
    refine ⟨herror, fun request source found hsource hfound => ?_⟩
    obtain ⟨_, hfind, hfresh⟩ := hsound''.find? documents request hsource
    rw [hfind] at hfound
    exact hfresh found hfound

/-- The second directory cannot be made for the first call, and its rendering is lost; the one after
it fails, and the last one is rendered again. -/
theorem renderAll_write_lost :
    let r : RenderRequest := ⟨"A.B", none, "", .empty⟩
    let s : FaultyWorld := ⟨⟨.empty, [], [], []⟩, [none, none, some (.other "no space left")]⟩
    let source := "[\x7b\"event\":\"on_word\",\"word\":\"a\"\x7d]"
    (((WikiMarkup.renderAll ⟨.files "cache", []⟩ [(some r, source), (some r, "[]"), (none, "\x7b"),
        (some r, source)] : StateM FaultyWorld _) s).1.map fun result =>
          (result.map (·.text)).toOption) = [some "a", some "", none, some "a"] := by
  intro r s source
  have hempty : ∀ key, s.world.tree.contents?
      (Tree.placeBehind s.world.directory (Path.join "cache" bucket) key) = none := by
    intro key
    rw [Tree.contents?, Tree.placeBehind, Tree.get?_of_ne_nil _ (by simp)]
    rfl
  have hseparated : ∀ call ∈ [(some r, source), (some r, "[]"), (none, "\x7b"), (some r, source)],
      Separated [source, "[]", "\x7b", source] call.2 := by
    unfold Separated
    decide +kernel
  obtain ⟨hresults, -⟩ := renderAll_eq_fresh s "cache" [] _ hempty hseparated
  have htexts := congrArg (List.map Except.toOption) hresults
  rw [List.map_map, List.map_map] at htexts
  refine htexts.trans ?_
  decide +kernel

end RenderingCache

end WikiMarkup
