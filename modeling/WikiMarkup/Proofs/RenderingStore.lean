-- SUMMARY: A rendering is found exactly if the last one stored under its key was of that source, whatever else was stored and looked up.
import WikiMarkup.Proofs.RenderingRuns
import WikiMarkup.Proofs.StoredStates

/-!
# The last rendering counts

Renderings are stored and looked up in any order on a store that was opened with a new version. What
a key has then is the last rendering of a cacheable document that was stored under it, read off the
calls alone. Each call keeps that tie between the calls and the files, and a lookup reads it.
-/

namespace WikiMarkup

/-- What is done with a store of renderings. -/
inductive RenderingCall where
  | store (request : RenderRequest) (source rendered : String) (states : List (String × Json))
  | lookup (request : RenderRequest) (source : String) (extensions : List String)

namespace RenderingCall

/-- The source and the rendering that the call puts under a key. -/
def stored? (c : RenderingCache) (key : String) : RenderingCall → Option (String × StoredRendering)
  | store request source rendered states =>
    if c.isCacheable request.document && key = request.key then
      some (source, .ofStates rendered states)
    else none
  | lookup _ _ _ => none

/-- What the call stores can be decoded from what it is encoded to. -/
def Readable : RenderingCall → Prop
  | store _ _ rendered states =>
    StoredRendering.ofBytes? (StoredRendering.ofStates rendered states).toBytes =
      some (.ofStates rendered states)
  | lookup _ _ _ => True

/-- The call stores no rendering of another source with the digest of this one. -/
def Separates (source : String) : RenderingCall → Prop
  | store _ stored _ _ => sourceTag source = sourceTag stored → source = stored
  | lookup _ _ _ => True

section

variable {m : Type → Type} [Monad m] [Host m]

/-- Makes the call. -/
def run (c : RenderingCache) : RenderingCall → m Unit
  | store request source rendered states => c.insert request source rendered states
  | lookup request source extensions => do
    let _ ← c.lookup request source extensions

/-- Makes one call after the other. -/
def runAll (c : RenderingCache) : List RenderingCall → m Unit
  | [] => return ()
  | call :: calls => do
    call.run c
    runAll c calls

/-- Opens a store for the renderings of some documents and makes calls on it. -/
def openAndRun (root version : String) (documents : List Pattern) (calls : List RenderingCall) :
    m RenderingCache := do
  let store ← Store.openAt root version
  runAll ⟨store, documents⟩ calls
  return ⟨store, documents⟩

/-- The answer of a lookup behind other calls. -/
def lookupAfter (c : RenderingCache) (calls : List RenderingCall) (request : RenderRequest)
    (source : String) (extensions : List String) :
    m (Option String × List (String × Option Json)) := do
  runAll c calls
  c.lookup request source extensions

end

end RenderingCall

namespace RenderingCache

/-- The last rendering that calls put under a key, with its source. -/
def lastStored? (c : RenderingCache) (calls : List RenderingCall) (key : String) :
    Option (String × StoredRendering) :=
  (calls.filterMap (·.stored? c key)).getLast?

variable {c : RenderingCache} {calls : List RenderingCall} {key : String}

/-- A call that puts nothing under the key may be left out. -/
theorem lastStored?_of_none {call : RenderingCall} (h : call.stored? c key = none)
    (calls later : List RenderingCall) :
    c.lastStored? (calls ++ call :: later) key = c.lastStored? (calls ++ later) key := by
  rw [lastStored?, lastStored?, List.filterMap_append, List.filterMap_cons_none h,
    ← List.filterMap_append]

/-- The last rendering under a key was stored by one of the calls. -/
theorem mem_of_lastStored? {stored : String × StoredRendering}
    (h : c.lastStored? calls key = some stored) : ∃ call ∈ calls, call.stored? c key = some stored :=
  List.mem_filterMap.mp (List.mem_of_getLast? h)

namespace Holds

variable {w : World} {root : String} {place : Location} {documents : List Pattern}

/-- A call that stores nothing leaves the world as it is. -/
theorem run_of_stores_nothing {call : RenderingCall}
    {held : String → Option (String × StoredRendering)} (h : Holds w root place held)
    (hnone : ∀ key, call.stored? ⟨.files root, documents⟩ key = none) :
    (call.run ⟨.files root, documents⟩ : StateM World Unit) w = ((), w) := by
  cases call with
  | lookup request source extensions =>
    rw [RenderingCall.run, Host.run_state_bind, h.lookup]
    rfl
  | store request source rendered states =>
    have hcacheable : ¬ isCacheable ⟨.files root, documents⟩ request.document = true := by
      intro hcacheable
      have hkey := hnone request.key
      rw [RenderingCall.stored?, hcacheable] at hkey
      simp at hkey
    rw [RenderingCall.run, run_insert, if_neg hcacheable]

/-- One call more: the files hold what was stored last, and where nothing was put they are as
before. -/
theorem run {call : RenderingCall}
    (h : Holds w root place (lastStored? ⟨.files root, documents⟩ calls)) (hreadable : call.Readable) :
    ∃ w', (call.run ⟨.files root, documents⟩ : StateM World Unit) w = ((), w') ∧
      Holds w' root place (lastStored? ⟨.files root, documents⟩ (calls ++ [call])) ∧
      ∀ key, call.stored? ⟨.files root, documents⟩ key = none →
        w'.tree.contents? (place ++ [bucket, key]) = w.tree.contents? (place ++ [bucket, key]) := by
  by_cases hnone : ∀ key, call.stored? ⟨.files root, documents⟩ key = none
  · have hsame : lastStored? ⟨.files root, documents⟩ (calls ++ [call]) =
        lastStored? ⟨.files root, documents⟩ calls := by
      funext key
      rw [lastStored?_of_none (hnone key), List.append_nil]
    exact ⟨w, h.run_of_stores_nothing hnone, hsame ▸ h, fun _ _ => rfl⟩
  cases call with
  | lookup request source extensions => exact absurd (fun _ => rfl) hnone
  | store request source rendered states =>
    have hcacheable : isCacheable ⟨.files root, documents⟩ request.document = true := by
      refine Classical.byContradiction fun hnot => hnone fun key => ?_
      simp [RenderingCall.stored?, hnot]
    obtain ⟨w', hrun, hframe, hholds⟩ := h.insert hcacheable source hreadable
    have hstored : ∀ key, RenderingCall.stored? ⟨.files root, documents⟩ key
        (.store request source rendered states) =
          if key = request.key then some (source, .ofStates rendered states) else none := by
      intro key
      simp [RenderingCall.stored?, hcacheable]
    have hheld : lastStored? ⟨.files root, documents⟩
        (calls ++ [.store request source rendered states]) =
          fun key => if key = request.key then some (source, .ofStates rendered states)
            else lastStored? ⟨.files root, documents⟩ calls key := by
      funext key
      rw [lastStored?, getLast?_filterMap_concat, hstored, ← lastStored?]
      by_cases hkey : key = request.key
      · rw [if_pos hkey, if_pos hkey]
      · rw [if_neg hkey, if_neg hkey]
    refine ⟨w', hrun, hheld ▸ hholds, fun key hnone => hframe _ fun hplace => ?_⟩
    have hkey : key = request.key := by simpa using hplace
    rw [hstored, if_pos hkey] at hnone
    cases hnone

/-- Any calls more. -/
theorem runAll {later : List RenderingCall}
    (h : Holds w root place (lastStored? ⟨.files root, documents⟩ calls))
    (hreadable : ∀ call ∈ later, call.Readable) :
    ∃ w', (RenderingCall.runAll ⟨.files root, documents⟩ later : StateM World Unit) w = ((), w') ∧
      Holds w' root place (lastStored? ⟨.files root, documents⟩ (calls ++ later)) := by
  induction later generalizing w calls with
  | nil => exact ⟨w, rfl, by rwa [List.append_nil]⟩
  | cons call later ih =>
    obtain ⟨w', hrun, hholds, -⟩ := h.run (hreadable call List.mem_cons_self)
    obtain ⟨w'', hruns, hholds'⟩ := ih hholds fun call hcall =>
      hreadable call (List.mem_cons_of_mem _ hcall)
    refine ⟨w'', ?_, ?_⟩
    · rw [RenderingCall.runAll, Host.run_state_bind, hrun]
      exact hruns
    · rwa [List.append_assoc, List.singleton_append] at hholds'

/-- After opening with a new version the calls decide what the files hold. -/
theorem openAndRun {version : String} (hhome : Store.Home w root place)
    (hversion : ((Store.storedVersion root : StateM World (Option String)) w).1 ≠ some version)
    (hvalid : ∀ request : RenderRequest, Path.Valid (Store.entryPath root bucket request.key))
    (documents : List Pattern) (hreadable : ∀ call ∈ calls, call.Readable) :
    ∃ w', (RenderingCall.openAndRun root version documents calls : StateM World _) w =
        (⟨.files root, documents⟩, w') ∧
      Holds w' root place (lastStored? ⟨.files root, documents⟩ calls) := by
  obtain ⟨opened, hopen, hempty⟩ := Holds.openAt hhome hversion hvalid
  change Holds opened root place (lastStored? ⟨.files root, documents⟩ []) at hempty
  obtain ⟨w', hrun, hholds⟩ := hempty.runAll hreadable
  refine ⟨w', ?_, hholds⟩
  rw [RenderingCall.openAndRun, Host.run_state_bind, hopen]
  dsimp only
  rw [Host.run_state_bind, hrun]
  rfl

/-- The answers of lookups after any calls more. -/
theorem lookupAfter {later : List RenderingCall}
    (h : Holds w root place (lastStored? ⟨.files root, documents⟩ calls))
    (hreadable : ∀ call ∈ later, call.Readable) (request : RenderRequest) (source : String)
    (extensions : List String) :
    ((RenderingCall.lookupAfter ⟨.files root, documents⟩ later request source extensions :
        StateM World _) w).1 =
      match found? ⟨.files root, documents⟩ request source
        (lastStored? ⟨.files root, documents⟩ (calls ++ later) request.key) with
      | some found => (some found.rendered, StoredRendering.handOut found.extensions extensions)
      | none => (none, extensions.map (·, none)) := by
  obtain ⟨w', hrun, hholds⟩ := h.runAll hreadable
  rw [RenderingCall.lookupAfter, Host.run_state_bind, hrun]
  exact congrArg Prod.fst (hholds.lookup documents request source extensions)

end Holds

/-- On a store that was opened with a new version, a lookup finds a text exactly if the document is
cacheable, no fresh rendering is asked for, and the last rendering under the key was of this source
and had this text. Requests that select the same rendering have one key. A call that puts nothing
under a key leaves its file and all later answers for it as they are. -/
theorem lookup_eq_some_iff {w : World} {root version : String} {place : Location}
    (hhome : Store.Home w root place)
    (hversion : ((Store.storedVersion root : StateM World (Option String)) w).1 ≠ some version)
    (hvalid : ∀ request : RenderRequest, Path.Valid (Store.entryPath root bucket request.key))
    (documents : List Pattern) {calls : List RenderingCall}
    (hreadable : ∀ call ∈ calls, call.Readable) :
    ∃ w', (RenderingCall.openAndRun root version documents calls : StateM World _) w =
        (⟨.files root, documents⟩, w') ∧
      (∀ request source extensions text, (∀ call ∈ calls, call.Separates source) →
        (((lookup ⟨.files root, documents⟩ request source extensions : StateM World _) w').1.1 =
            some text ↔
          isCacheable ⟨.files root, documents⟩ request.document = true ∧
            request.isRefresh = false ∧
            ∃ rendering, lastStored? ⟨.files root, documents⟩ calls request.key =
              some (source, rendering) ∧ rendering.rendered = text)) ∧
      (∀ r s : RenderRequest, r.SelectsSame s → r.key = s.key) ∧
      ∀ (call : RenderingCall) (key : String), call.Readable →
        call.stored? ⟨.files root, documents⟩ key = none →
        ((call.run ⟨.files root, documents⟩ : StateM World Unit) w').2.tree.contents?
            (place ++ [bucket, key]) = w'.tree.contents? (place ++ [bucket, key]) ∧
        ((∀ other, call.stored? ⟨.files root, documents⟩ other = none) →
          ((call.run ⟨.files root, documents⟩ : StateM World Unit) w').2 = w') ∧
        ∀ later, (∀ call ∈ later, call.Readable) → ∀ request source extensions,
          request.key = key →
          ((RenderingCall.lookupAfter ⟨.files root, documents⟩ (call :: later) request source
              extensions : StateM World _) w').1 =
            ((RenderingCall.lookupAfter ⟨.files root, documents⟩ later request source extensions :
              StateM World _) w').1 := by
  obtain ⟨w', hrun, hholds⟩ := Holds.openAndRun hhome hversion hvalid documents hreadable
  refine ⟨w', hrun, ?_, ?_, ?_⟩
  · intro request source extensions text hseparates
    have hsource : ∀ stored other,
        lastStored? ⟨.files root, documents⟩ calls request.key = some (stored, other) →
        sourceTag source = sourceTag stored → source = stored := by
      intro stored other hlast
      obtain ⟨call, hcall, hstored⟩ := mem_of_lastStored? hlast
      have hseparate := hseparates call hcall
      cases call with
      | lookup _ _ _ => cases hstored
      | store _ other _ _ =>
        rw [RenderingCall.stored?] at hstored
        split at hstored
        · cases hstored
          exact hseparate
        · cases hstored
    rw [hholds.lookup]
    constructor
    · intro htext
      cases hfound : found? ⟨.files root, documents⟩ request source
          (lastStored? ⟨.files root, documents⟩ calls request.key) with
      | none => rw [hfound] at htext; cases htext
      | some rendering =>
        rw [hfound] at htext
        obtain ⟨hcacheable, hrefresh, hlast⟩ := (found?_eq_some_iff hsource).mp hfound
        exact ⟨hcacheable, hrefresh, rendering, hlast, Option.some.inj htext⟩
    · rintro ⟨hcacheable, hrefresh, rendering, hlast, rfl⟩
      rw [(found?_eq_some_iff hsource).mpr ⟨hcacheable, hrefresh, hlast⟩]
  · intro r s hsame
    exact congrArg Sha256.hexDigest hsame.keyBytes_eq
  · intro call key hcall hnone
    obtain ⟨w'', hcallRun, -, hframe⟩ := hholds.run hcall
    refine ⟨by rw [hcallRun, hframe key hnone], ?_, ?_⟩
    · intro hnothing
      rw [hholds.run_of_stores_nothing hnothing]
    rintro later hlater request source extensions rfl
    have hboth : ∀ c ∈ call :: later, c.Readable := by
      intro c hc
      rcases List.mem_cons.mp hc with rfl | hc
      · exact hcall
      · exact hlater c hc
    rw [hholds.lookupAfter hboth, hholds.lookupAfter hlater, lastStored?_of_none hnone]

/-- The later of two renderings under a key is found, for a request that names the default action
and one that does not, and the earlier one is not. -/
theorem lookup_later_rendering :
    let r : RenderRequest := ⟨"A.B", none, "fr", .ofList [("x", "1")]⟩
    let s : RenderRequest := ⟨"A.B", some "view", "fr", .ofList [("refresh", "0"), ("x", "1")]⟩
    ∃ w', (RenderingCall.openAndRun "cache" "1" [] [.store r "a" "one" [], .store s "b" "two\n✓" []] :
        StateM World _) ⟨.empty, [], [], []⟩ = (⟨.files "cache", []⟩, w') ∧
      ((lookup ⟨.files "cache", []⟩ r "b" [] : StateM World _) w').1.1 = some "two\n✓" ∧
      ((lookup ⟨.files "cache", []⟩ r "a" [] : StateM World _) w').1.1 ≠ some "one" := by
  intro r s
  have hname : Path.IsName "cache" := by constructor <;> decide
  have hreadable : ∀ call ∈ ([.store r "a" "one" [], .store s "b" "two\n✓" []] :
      List RenderingCall), call.Readable := by
    intro call hcall
    simp only [List.mem_cons, List.not_mem_nil, or_false] at hcall
    rcases hcall with rfl | rfl <;> exact StoredRendering.ofBytes?_toBytes _
  obtain ⟨w', hrun, hlookup, hkey, -⟩ := lookup_eq_some_iff (.of_empty hname)
    (Store.Home.storedVersion_empty hname "1") (valid_entryPath (by decide) (by decide)) []
    hreadable
  have hsame : r.key = s.key := hkey r s ⟨rfl, rfl, rfl, by decide⟩
  have hlast : lastStored? ⟨.files "cache", []⟩
      [.store r "a" "one" [], .store s "b" "two\n✓" []] r.key =
        some ("b", .ofStates "two\n✓" []) := by
    simp [lastStored?, RenderingCall.stored?, isCacheable, hsame]
  have htags : sourceTag "a" ≠ sourceTag "b" := by decide +kernel
  have hseparates : ∀ source ∈ ["a", "b"], ∀ call ∈ ([.store r "a" "one" [],
      .store s "b" "two\n✓" []] : List RenderingCall), call.Separates source := by
    intro source hsource call hcall
    simp only [List.mem_cons, List.not_mem_nil, or_false] at hsource hcall
    rcases hsource with rfl | rfl <;> rcases hcall with rfl | rfl
    · exact fun _ => rfl
    · exact fun heq => absurd heq htags
    · exact fun heq => absurd heq htags.symm
    · exact fun _ => rfl
  refine ⟨w', hrun, ?_, ?_⟩
  · exact (hlookup r "b" [] "two\n✓" (hseparates "b" (by simp))).mpr ⟨rfl, by decide, _, hlast, rfl⟩
  · intro hfound
    obtain ⟨-, -, rendering, hother, -⟩ :=
      (hlookup r "a" [] "one" (hseparates "a" (by simp))).mp hfound
    rw [hlast] at hother
    simp at hother

end RenderingCache

end WikiMarkup
