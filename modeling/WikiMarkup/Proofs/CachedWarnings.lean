-- SUMMARY: A stored rendering gives back its text without its warnings: which calls that loses something for, and that it does.
import WikiMarkup.Proofs.RenderingRuns
import WikiMarkup.Proofs.StoredStates

/-!
# Warnings of stored renderings

Only the text of a rendering is stored, so a call that finds its rendering reports no warnings. What
is found under a key is decided by the calls alone: it is the last rendering that came about under
it, whether the call found it or made it.
-/

namespace WikiMarkup

/-- Opens a store for the renderings of some documents and renders sources through it. -/
def openAndRender {m : Type → Type} [Monad m] [Host m] (root version : String)
    (documents : List Pattern) (calls : List (Option RenderRequest × String)) :
    m RenderingCache := do
  let store ← Store.openAt root version
  let _ ← renderAll ⟨store, documents⟩ calls
  return ⟨store, documents⟩

namespace RenderingCache

/-- The source and the rendering that a call leaves under a key, found there or made. -/
def rendered? (c : RenderingCache) (key : String) :
    Option RenderRequest × String → Option (String × Rendered)
  | (some request, source) =>
    if c.isCacheable request.document && key = request.key then
      (renderFresh source).toOption.map (source, ·)
    else none
  | (none, _) => none

/-- The last rendering that calls left under a key, with its source. -/
def lastRendered? (c : RenderingCache) (calls : List (Option RenderRequest × String))
    (key : String) : Option (String × Rendered) :=
  (calls.filterMap (c.rendered? key)).getLast?

/-- The call finds its rendering: the document is cacheable, no fresh rendering is asked for, and the
last rendering under the key was of this source. -/
structure Hits (c : RenderingCache) (calls : List (Option RenderRequest × String))
    (request : RenderRequest) (source : String) : Prop where
  cacheable : c.isCacheable request.document = true
  no_refresh : request.isRefresh = false
  last : (c.lastRendered? calls request.key).map (·.1) = some source

variable {c : RenderingCache} {calls : List (Option RenderRequest × String)} {key source : String}
  {call : Option RenderRequest × String}

/-- What is left under a key is the fresh rendering of the source of one of the calls. -/
theorem mem_of_lastRendered? {rendered : Rendered}
    (h : c.lastRendered? calls key = some (source, rendered)) :
    source ∈ calls.map (·.2) ∧ renderFresh source = .ok rendered := by
  obtain ⟨⟨request, other⟩, hcall, hrendered⟩ := List.mem_filterMap.mp (List.mem_of_getLast? h)
  cases request with
  | none => cases hrendered
  | some request =>
    rw [rendered?] at hrendered
    split at hrendered
    · cases hfresh : renderFresh other with
      | error e => rw [hfresh] at hrendered; cases hrendered
      | ok fresh =>
        rw [hfresh] at hrendered
        cases hrendered
        exact ⟨List.mem_map_of_mem hcall, hfresh⟩
    · cases hrendered

/-- A call that rendered its source finds the rendering when it is made again. -/
theorem hits_again {request : RenderRequest} {rendered : Rendered}
    (calls : List (Option RenderRequest × String))
    (hcacheable : c.isCacheable request.document = true) (hrefresh : request.isRefresh = false)
    (hfresh : renderFresh source = .ok rendered) :
    c.Hits (calls ++ [(some request, source)]) request source := by
  have hrendered : c.rendered? request.key (some request, source) = some (source, rendered) := by
    rw [rendered?, hcacheable, hfresh, if_pos (by simp)]
    rfl
  refine ⟨hcacheable, hrefresh, ?_⟩
  rw [lastRendered?, getLast?_filterMap_concat, hrendered]
  rfl

/-- What the files hold after calls: of each rendering the text only. -/
def heldAfter (c : RenderingCache) (calls : List (Option RenderRequest × String)) (key : String) :
    Option (String × StoredRendering) :=
  (c.lastRendered? calls key).map fun (source, rendered) =>
    (source, .ofStates rendered.text [])

theorem heldAfter_concat (c : RenderingCache) (calls : List (Option RenderRequest × String))
    (call : Option RenderRequest × String) (key : String) :
    c.heldAfter (calls ++ [call]) key =
      match c.rendered? key call with
      | some (source, rendered) => some (source, .ofStates rendered.text [])
      | none => c.heldAfter calls key := by
  rw [heldAfter, lastRendered?, getLast?_filterMap_concat]
  cases c.rendered? key call <;> rfl

theorem heldAfter_of_none (h : ∀ key, c.rendered? key call = none)
    (calls : List (Option RenderRequest × String)) :
    c.heldAfter (calls ++ [call]) = c.heldAfter calls := by
  funext key
  rw [heldAfter_concat, h]

/-- A call that finds its rendering leaves under its key what is there. -/
theorem Hits.heldAfter_concat {request : RenderRequest} (h : c.Hits calls request source) :
    c.heldAfter (calls ++ [(some request, source)]) = c.heldAfter calls := by
  obtain ⟨⟨other, rendered⟩, hlast, rfl⟩ := Option.map_eq_some_iff.mp h.last
  obtain ⟨-, hfresh⟩ := mem_of_lastRendered? hlast
  funext key
  rw [RenderingCache.heldAfter_concat, rendered?, h.cacheable, hfresh]
  by_cases hkey : key = request.key
  · rw [hkey, if_pos (by simp), heldAfter, hlast]
    rfl
  · rw [if_neg (by simpa using hkey)]

namespace Holds

variable {w : World} {root : String} {place : Location} {documents : List Pattern}
  {request : RenderRequest} {rendered : Rendered}

/-- A call that finds its rendering gives the text without warnings, and changes nothing. -/
theorem renderThrough_hit (h : Holds w root place (heldAfter ⟨.files root, documents⟩ calls))
    (hhits : Hits ⟨.files root, documents⟩ calls request source)
    (hfresh : renderFresh source = .ok rendered) :
    (renderThrough ⟨.files root, documents⟩ request source :
        StateM World (Except RunError Rendered)) w = (.ok ⟨rendered.text, []⟩, w) := by
  obtain ⟨⟨other, stored⟩, hlast, rfl⟩ := Option.map_eq_some_iff.mp hhits.last
  obtain ⟨-, hstored⟩ := mem_of_lastRendered? hlast
  obtain rfl := Except.ok.inj (hfresh.symm.trans hstored)
  have hlooks : looksUp ⟨.files root, documents⟩ request = true := by
    rw [looksUp, hhits.cacheable, hhits.no_refresh]
    rfl
  rw [run_renderThrough, h.find?, found?, if_pos hlooks, heldAfter, hlast]
  simp [StoredRendering.ofStates]

/-- Any other call gives the fresh rendering, and leaves that under its key. -/
theorem renderThrough_miss (h : Holds w root place (heldAfter ⟨.files root, documents⟩ calls))
    (hseparated : Separated (calls.map (·.2)) source)
    (hmiss : ¬ Hits ⟨.files root, documents⟩ calls request source) :
    ∃ w', (renderThrough ⟨.files root, documents⟩ request source :
        StateM World (Except RunError Rendered)) w = (renderFresh source, w') ∧
      Holds w' root place
        (heldAfter ⟨.files root, documents⟩ (calls ++ [(some request, source)])) := by
  have hnone : found? ⟨.files root, documents⟩ request source
      (heldAfter ⟨.files root, documents⟩ calls request.key) = none := by
    refine Option.eq_none_iff_forall_ne_some.mpr fun found hfound => hmiss ?_
    have hsource : ∀ stored other,
        heldAfter ⟨.files root, documents⟩ calls request.key = some (stored, other) →
        sourceTag source = sourceTag stored → source = stored := by
      intro stored other hheld
      obtain ⟨⟨last, rendered⟩, hlast, heq⟩ := Option.map_eq_some_iff.mp hheld
      cases heq
      exact hseparated _ (mem_of_lastRendered? hlast).1
    obtain ⟨hcacheable, hrefresh, hheld⟩ := (found?_eq_some_iff hsource).mp hfound
    obtain ⟨⟨last, rendered⟩, hlast, heq⟩ := Option.map_eq_some_iff.mp hheld
    cases heq
    exact ⟨hcacheable, hrefresh, by rw [hlast]; rfl⟩
  rw [run_renderThrough, h.find?, hnone]
  dsimp only
  cases hfresh : renderFresh source with
  | error e =>
    refine ⟨w, rfl, ?_⟩
    rw [heldAfter_of_none fun key => by simp [rendered?, hfresh, Except.toOption]]
    exact h
  | ok rendered =>
    by_cases hcacheable : isCacheable ⟨.files root, documents⟩ request.document = true
    · obtain ⟨w', hinsert, -, hholds⟩ := h.insert hcacheable source
        (StoredRendering.ofBytes?_toBytes rendered.text)
      have hheld : heldAfter ⟨.files root, documents⟩ (calls ++ [(some request, source)]) =
          fun key => if key = request.key then some (source, .ofStates rendered.text [])
            else heldAfter ⟨.files root, documents⟩ calls key := by
        funext key
        rw [heldAfter_concat, rendered?, hfresh, hcacheable]
        by_cases hkey : key = request.key <;> simp [hkey, Except.toOption]
      refine ⟨w', ?_, hheld ▸ hholds⟩
      dsimp only
      rw [hinsert]
    · refine ⟨w, ?_, ?_⟩
      · dsimp only
        rw [run_insert, if_neg hcacheable]
      · rw [heldAfter_of_none fun key => by simp [rendered?, hcacheable]]
        exact h

/-- One call more. -/
theorem renderSource (h : Holds w root place (heldAfter ⟨.files root, documents⟩ calls))
    (request : Option RenderRequest) (hseparated : Separated (calls.map (·.2)) source) :
    ∃ result w', (WikiMarkup.renderSource
          (request.map ((⟨.files root, documents⟩ : RenderingCache), ·)) source :
        StateM World (Except RunError Rendered)) w = (result, w') ∧
      Holds w' root place (heldAfter ⟨.files root, documents⟩ (calls ++ [(request, source)])) := by
  cases request with
  | none =>
    refine ⟨renderFresh source, w, rfl, ?_⟩
    rw [heldAfter_of_none fun _ => rfl]
    exact h
  | some request =>
    by_cases hhits : Hits ⟨.files root, documents⟩ calls request source
    · obtain ⟨⟨other, rendered⟩, hlast, rfl⟩ := Option.map_eq_some_iff.mp hhits.last
      obtain ⟨-, hfresh⟩ := mem_of_lastRendered? hlast
      exact ⟨_, w, h.renderThrough_hit hhits hfresh, hhits.heldAfter_concat ▸ h⟩
    · obtain ⟨w', hrun, hholds⟩ := h.renderThrough_miss hseparated hhits
      exact ⟨_, w', hrun, hholds⟩

/-- Any calls more. -/
theorem renderAll {later : List (Option RenderRequest × String)}
    (h : Holds w root place (heldAfter ⟨.files root, documents⟩ calls))
    (hseparated : ∀ call ∈ later, Separated ((calls ++ later).map (·.2)) call.2) :
    ∃ results w', (WikiMarkup.renderAll ⟨.files root, documents⟩ later : StateM World _) w =
        (results, w') ∧
      Holds w' root place (heldAfter ⟨.files root, documents⟩ (calls ++ later)) := by
  induction later generalizing w calls with
  | nil => exact ⟨[], w, rfl, by rwa [List.append_nil]⟩
  | cons call later ih =>
    obtain ⟨request, source⟩ := call
    have hfirst : Separated (calls.map (·.2)) source := by
      intro other hother
      refine hseparated _ List.mem_cons_self other ?_
      rw [List.map_append]
      exact List.mem_append_left _ hother
    obtain ⟨result, w', hrun, hholds⟩ := h.renderSource request hfirst
    have happend : calls ++ [(request, source)] ++ later = calls ++ (request, source) :: later := by
      simp
    obtain ⟨results, w'', hruns, hholds'⟩ := ih hholds fun call hcall =>
      happend ▸ hseparated call (List.mem_cons_of_mem _ hcall)
    refine ⟨result :: results, w'', ?_, happend ▸ hholds'⟩
    rw [run_renderAll_cons, hrun]
    dsimp only
    rw [hruns]

/-- After opening with a new version the calls decide what the files hold. -/
theorem openAndRender {version : String} (hhome : Store.Home w root place)
    (hversion : ((Store.storedVersion root : StateM World (Option String)) w).1 ≠ some version)
    (hvalid : ∀ request : RenderRequest, Path.Valid (Store.entryPath root bucket request.key))
    (documents : List Pattern) (hseparated : ∀ call ∈ calls, Separated (calls.map (·.2)) call.2) :
    ∃ w', (WikiMarkup.openAndRender root version documents calls : StateM World _) w =
        (⟨.files root, documents⟩, w') ∧
      Holds w' root place (heldAfter ⟨.files root, documents⟩ calls) := by
  obtain ⟨opened, hopen, hempty⟩ := Holds.openAt hhome hversion hvalid
  change Holds opened root place (heldAfter ⟨.files root, documents⟩ []) at hempty
  obtain ⟨results, w', hrun, hholds⟩ := hempty.renderAll hseparated
  refine ⟨w', ?_, hholds⟩
  rw [WikiMarkup.openAndRender, Host.run_state_bind, hopen]
  dsimp only
  rw [Host.run_state_bind, hrun]
  rfl

end Holds

/-- A call through the store reports the warnings of the fresh rendering exactly if there are none or
the call does not find its rendering. The text is that of the fresh rendering in any case. -/
theorem renderSource_warnings_eq_iff {w : World} {root version : String} {place : Location}
    (hhome : Store.Home w root place)
    (hversion : ((Store.storedVersion root : StateM World (Option String)) w).1 ≠ some version)
    (hvalid : ∀ request : RenderRequest, Path.Valid (Store.entryPath root bucket request.key))
    (documents : List Pattern)
    (hseparated : ∀ call ∈ calls, Separated (calls.map (·.2)) call.2)
    (request : RenderRequest) (hsource : Separated (calls.map (·.2)) source)
    {rendered : Rendered} (hfresh : renderFresh source = .ok rendered) :
    ∃ w' warnings, (openAndRender root version documents calls : StateM World _) w =
        (⟨.files root, documents⟩, w') ∧
      ((renderSource (some (⟨.files root, documents⟩, request)) source :
        StateM World (Except RunError Rendered)) w').1 = .ok ⟨rendered.text, warnings⟩ ∧
      (warnings = rendered.warnings ↔
        rendered.warnings = [] ∨ ¬ Hits ⟨.files root, documents⟩ calls request source) := by
  obtain ⟨w', hrun, hholds⟩ := Holds.openAndRender hhome hversion hvalid documents hseparated
  by_cases hhits : Hits ⟨.files root, documents⟩ calls request source
  · refine ⟨w', [], hrun, ?_, ?_⟩
    · exact congrArg Prod.fst (hholds.renderThrough_hit hhits hfresh)
    · rw [eq_comm, or_iff_left (fun hmiss => hmiss hhits)]
  · obtain ⟨w'', hmiss, -⟩ := hholds.renderThrough_miss hsource hhits
    refine ⟨w', rendered.warnings, hrun, ?_, ?_⟩
    · rw [hfresh] at hmiss
      exact congrArg Prod.fst hmiss
    · exact iff_of_true rfl (.inr hhits)

theorem separated_singleton (source : String) : Separated [source] source :=
  fun _ hother _ => (List.mem_singleton.mp hother).symm

theorem separated_of_single (request : Option RenderRequest) (source : String) :
    ∀ call ∈ [(request, source)], Separated ([(request, source)].map (·.2)) call.2 := by
  intro call hcall
  obtain rfl := List.mem_singleton.mp hcall
  exact separated_singleton source

/-- The end of a list that was not begun is reported when it is rendered. -/
theorem renderFresh_unmatched :
    renderFresh "[\x7b\"event\":\"end_list\",\"list_type\":\"bulleted\"\x7d]" =
      .ok ⟨"", [.unmatchedListEnd]⟩ := by
  have hrendered : (renderFresh
      "[\x7b\"event\":\"end_list\",\"list_type\":\"bulleted\"\x7d]").toOption =
        some ⟨"", [.unmatchedListEnd]⟩ := by
    decide +kernel
  cases hfresh : renderFresh "[\x7b\"event\":\"end_list\",\"list_type\":\"bulleted\"\x7d]" with
  | error e => rw [hfresh] at hrendered; cases hrendered
  | ok rendered =>
    rw [hfresh] at hrendered
    rw [Option.some.inj hrendered]

/-- The call that was made before finds its rendering and misses the warning; asking for a fresh
rendering brings it back. -/
theorem renderSource_again :
    let r : RenderRequest := ⟨"A.B", none, "", .empty⟩
    let fresh : RenderRequest := ⟨"A.B", none, "", .ofList [("refresh", "1")]⟩
    let source := "[\x7b\"event\":\"end_list\",\"list_type\":\"bulleted\"\x7d]"
    ∃ w', (openAndRender "cache" "1" [] [(some r, source)] : StateM World _) ⟨.empty, [], [], []⟩ =
        (⟨.files "cache", []⟩, w') ∧
      ((renderSource (some (⟨.files "cache", []⟩, r)) source :
        StateM World (Except RunError Rendered)) w').1 ≠ .ok ⟨"", [.unmatchedListEnd]⟩ ∧
      ((renderSource (some (⟨.files "cache", []⟩, fresh)) source :
        StateM World (Except RunError Rendered)) w').1 = .ok ⟨"", [.unmatchedListEnd]⟩ := by
  intro r fresh source
  have hname : Path.IsName "cache" := by constructor <;> decide
  have hwarnings := fun request => renderSource_warnings_eq_iff (.of_empty hname)
    (Store.Home.storedVersion_empty hname "1") (valid_entryPath (by decide) (by decide)) []
    (separated_of_single (some r) source) request (separated_singleton source) renderFresh_unmatched
  obtain ⟨w', warnings, hrun, hresult, hiff⟩ := hwarnings r
  obtain ⟨w'', warnings', hrun', hresult', hiff'⟩ := hwarnings fresh
  obtain rfl : w' = w'' := congrArg Prod.snd (hrun.symm.trans hrun')
  refine ⟨w', hrun, ?_, ?_⟩
  · intro hsame
    have hfound : Hits ⟨.files "cache", []⟩ [(some r, source)] r source :=
      hits_again [] rfl (by decide) renderFresh_unmatched
    rw [hresult] at hsame
    have hequal : warnings = [.unmatchedListEnd] :=
      congrArg Rendered.warnings (Except.ok.inj hsame)
    rcases hiff.mp hequal with hnone | hmiss
    · cases hnone
    · exact hmiss hfound
  · rw [hresult', hiff'.mpr (.inr fun hhits => ?_)]
    have hrefresh := hhits.no_refresh
    revert hrefresh
    decide

/-- Not every call through a store reports the warnings of the fresh rendering. -/
theorem warnings_not_reported_again :
    ¬ ∀ (calls : List (Option RenderRequest × String)) (request : RenderRequest) (source : String)
      (rendered : Rendered), renderFresh source = .ok rendered →
      isCacheable ⟨.files "cache", []⟩ request.document = true →
      ∀ w', (openAndRender "cache" "1" [] calls : StateM World _) ⟨.empty, [], [], []⟩ =
        (⟨.files "cache", []⟩, w') →
      ∃ text, ((renderSource (some (⟨.files "cache", []⟩, request)) source :
        StateM World (Except RunError Rendered)) w').1 = .ok ⟨text, rendered.warnings⟩ := by
  intro hclaim
  let r : RenderRequest := ⟨"A.B", none, "", .empty⟩
  let source := "[\x7b\"event\":\"end_list\",\"list_type\":\"bulleted\"\x7d]"
  have hname : Path.IsName "cache" := by constructor <;> decide
  obtain ⟨w', hrun, hholds⟩ := Holds.openAndRender (.of_empty hname)
    (Store.Home.storedVersion_empty hname "1") (valid_entryPath (by decide) (by decide)) []
    (separated_of_single (some r) source)
  have hhits : Hits ⟨.files "cache", []⟩ [(some r, source)] r source :=
    hits_again [] rfl (by decide) renderFresh_unmatched
  have hhit := hholds.renderThrough_hit hhits renderFresh_unmatched
  obtain ⟨text, htext⟩ := hclaim _ r source _ renderFresh_unmatched rfl w' hrun
  have hboth := htext.symm.trans (congrArg Prod.fst hhit)
  cases hboth

end RenderingCache

end WikiMarkup
