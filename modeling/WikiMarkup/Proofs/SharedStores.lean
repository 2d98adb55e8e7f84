-- SUMMARY: Stores that are open on one directory at the same time: a lookup finds what was put last since the directory was emptied, which is of its own version if neither store has been overtaken.
import WikiMarkup.Proofs.VersionedStore

/-!
# Stores that share a directory

Several stores can be open on one directory, each with its own version, and take their steps in any
order. Only opening looks at the version: it empties the directory if the version changes, but a
store that is open goes on reading and writing there, overtaken or not. So an entry has the version
of its store only as long as that store was the last one to be opened, or one of the same version.
-/

namespace WikiMarkup.Store

/-! ## Steps of several stores -/

/-- A step of one of several stores on one directory. The stores are counted as they are opened. -/
inductive SharedStep where
  | openAt (version : String)
  | put (store : Nat) (bucket key tag : String) (value : List UInt8)
  | get (store : Nat) (bucket key tag : String)

namespace SharedStep

/-- The step names a plain entry, if any. -/
def Plain (root : String) : SharedStep → Prop
  | openAt _ => True
  | put _ bucket key _ _ => PlainEntry root bucket key
  | get _ bucket key _ => PlainEntry root bucket key

/-- The version with which a step opens a store. -/
def opening? : SharedStep → Option String
  | openAt version => some version
  | _ => Option.none

variable {m : Type → Type} [Monad m] [Host m]

/-- Takes a step with the stores that are open. One that is not open takes none. -/
def take (root : String) (opened : List Store) : SharedStep → m (List Store)
  | openAt version => do
    let store ← Store.openAt root version
    return opened ++ [store]
  | put i bucket key tag value => do
    if let some store := opened[i]? then
      store.put bucket key tag value
    return opened
  | get i bucket key tag => do
    if let some store := opened[i]? then
      let _ ← store.get? bucket key tag
    return opened

/-- Takes one step after the other. -/
def takeAll (root : String) : List Store → List SharedStep → m (List Store)
  | opened, [] => return opened
  | opened, step :: steps => do
    let opened ← step.take root opened
    takeAll root opened steps

end SharedStep

/-- The versions of the stores that steps open, in order. -/
def openings (steps : List SharedStep) : List String := steps.filterMap SharedStep.opening?

/-- No store was opened with another version after this one. -/
def UpToDate (steps : List SharedStep) (i : Nat) : Prop :=
  (openings steps)[i]? = (openings steps).getLast?

/-- After some first steps a store that was open put the bytes there. Later steps opened stores only
with the version that was the last one then. -/
def PutAfter (before steps : List SharedStep) (i : Nat) (bucket key tag : String)
    (value : List UInt8) : Prop :=
  i < (openings before).length ∧ ∃ after, steps = before ++ .put i bucket key tag value :: after ∧
    ∀ later ∈ openings after, (openings before).getLast? = some later

section

variable {steps before : List SharedStep} {i : Nat} {bucket key tag : String} {value : List UInt8}

theorem openings_append (steps more : List SharedStep) :
    openings (steps ++ more) = openings steps ++ openings more :=
  List.filterMap_append

theorem openings_openAt (steps : List SharedStep) (version : String) :
    openings (steps ++ [.openAt version]) = openings steps ++ [version] :=
  openings_append steps [.openAt version]

theorem openings_concat (steps : List SharedStep) {step : SharedStep}
    (h : step.opening? = Option.none) : openings (steps ++ [step]) = openings steps := by
  rw [openings_append, openings, openings, List.filterMap_cons_none h, List.filterMap_nil,
    List.append_nil]

/-- What was put is still there as long as no other version is opened. -/
theorem PutAfter.concat {step : SharedStep} (h : PutAfter before steps i bucket key tag value)
    (hstep : ∀ version, step.opening? = some version → (openings before).getLast? = some version) :
    PutAfter before (steps ++ [step]) i bucket key tag value := by
  obtain ⟨hopen, after, rfl, hlater⟩ := h
  refine ⟨hopen, after ++ [step], by simp, fun later hmem => ?_⟩
  rw [openings_append, List.mem_append] at hmem
  rcases hmem with hmem | hmem
  · exact hlater later hmem
  · obtain ⟨last, hlast, hversion⟩ := List.mem_filterMap.mp hmem
    rw [List.mem_singleton.mp hlast] at hversion
    exact hstep later hversion

theorem PutAfter.concat_of_none {step : SharedStep}
    (h : PutAfter before steps i bucket key tag value) (hstep : step.opening? = Option.none) :
    PutAfter before (steps ++ [step]) i bucket key tag value := by
  refine h.concat fun version hversion => ?_
  rw [hstep] at hversion
  cases hversion

/-- The last version is the one that was the last when the bytes were put there. -/
theorem PutAfter.getLast? (h : PutAfter before steps i bucket key tag value) :
    (openings steps).getLast? = (openings before).getLast? := by
  obtain ⟨-, after, rfl, hlater⟩ := h
  have hsplit : openings (before ++ .put i bucket key tag value :: after) =
      openings before ++ openings after := openings_append _ _
  rw [hsplit, List.getLast?_append]
  cases hlast : (openings after).getLast? with
  | none => rfl
  | some last => exact (hlater last (List.mem_of_getLast? hlast)).symm

end

/-! ## The map of several stores -/

/-- What several stores hold together, and how many of them there are. -/
structure SharedMap where
  opened : Nat
  held : VersionedMap

namespace SharedMap

def empty : SharedMap := ⟨0, .empty⟩

/-- Takes a step. The version is looked at only when a store is opened. -/
def take (s : SharedMap) : SharedStep → SharedMap
  | .openAt version => ⟨s.opened + 1, s.held.openAt version⟩
  | .put i bucket key tag value =>
    if i < s.opened then { s with held := s.held.put bucket key tag value } else s
  | .get _ _ _ _ => s

/-- Takes one step after the other. -/
def takeAll (s : SharedMap) (steps : List SharedStep) : SharedMap := steps.foldl take s

/-- All that the map holds was put there by one of the steps since it was emptied. -/
structure HeldBy (s : SharedMap) (steps : List SharedStep) : Prop where
  opened : s.opened = (openings steps).length
  version : s.held.version = (openings steps).getLast?
  entries : ∀ bucket key tag value, s.held.entries bucket key = some (tag, value) →
    ∃ before i, PutAfter before steps i bucket key tag value

variable {s : SharedMap} {steps : List SharedStep}

theorem heldBy_empty : HeldBy empty [] := ⟨rfl, rfl, fun _ _ _ _ hentry => by cases hentry⟩

theorem HeldBy.openAt (h : HeldBy s steps) (version : String) :
    HeldBy (s.take (.openAt version)) (steps ++ [.openAt version]) := by
  refine ⟨?_, ?_, ?_⟩
  · rw [openings_openAt, List.length_append, ← h.opened]
    rfl
  · rw [openings_openAt, List.getLast?_concat, take, VersionedMap.openAt]
    split
    · next hsame => exact hsame
    · rfl
  · intro bucket key tag value hentry
    rw [take, VersionedMap.openAt] at hentry
    split at hentry
    · next hsame =>
      obtain ⟨before, i, hput⟩ := h.entries bucket key tag value hentry
      refine ⟨before, i, hput.concat fun other hother => ?_⟩
      rw [← Option.some.inj hother, ← hsame, h.version, hput.getLast?]
    · cases hentry

theorem HeldBy.put (h : HeldBy s steps) (i : Nat) (bucket key tag : String) (value : List UInt8) :
    HeldBy (s.take (.put i bucket key tag value)) (steps ++ [.put i bucket key tag value]) := by
  have hkept : ∀ b k stored bytes, s.held.entries b k = some (stored, bytes) →
      ∃ before j, PutAfter before (steps ++ [.put i bucket key tag value]) j b k stored bytes := by
    intro b k stored bytes hentry
    obtain ⟨before, j, hput⟩ := h.entries b k stored bytes hentry
    exact ⟨before, j, hput.concat_of_none rfl⟩
  have hopenings : openings (steps ++ [.put i bucket key tag value]) = openings steps :=
    openings_concat steps rfl
  rw [take]
  split
  · next hopen =>
    refine ⟨by rw [hopenings, ← h.opened], ?_, ?_⟩
    · rw [hopenings, ← h.version, VersionedMap.put]
      split <;> rfl
    · intro b k stored bytes hentry
      rw [VersionedMap.put] at hentry
      split at hentry
      · exact hkept b k stored bytes hentry
      dsimp only at hentry
      split at hentry
      · next hsame =>
        obtain ⟨rfl, rfl⟩ := hsame
        cases hentry
        exact ⟨steps, i, h.opened ▸ hopen, [], rfl, fun _ hlater => absurd hlater List.not_mem_nil⟩
      · exact hkept b k stored bytes hentry
  · exact ⟨by rw [hopenings, h.opened], by rw [hopenings, h.version], hkept⟩

/-- One step, whichever it is. -/
theorem HeldBy.take (h : HeldBy s steps) (step : SharedStep) :
    HeldBy (s.take step) (steps ++ [step]) := by
  cases step with
  | openAt version => exact h.openAt version
  | put i bucket key tag value => exact h.put i bucket key tag value
  | get i bucket key tag =>
    have hopenings : openings (steps ++ [.get i bucket key tag]) = openings steps :=
      openings_concat steps rfl
    refine ⟨by rw [hopenings]; exact h.opened, by rw [hopenings]; exact h.version, ?_⟩
    intro b k stored bytes hentry
    obtain ⟨before, j, hput⟩ := h.entries b k stored bytes hentry
    exact ⟨before, j, hput.concat_of_none rfl⟩

/-- Any steps. -/
theorem HeldBy.takeAll (h : HeldBy s steps) (more : List SharedStep) :
    HeldBy (s.takeAll more) (steps ++ more) := by
  induction more generalizing s steps with
  | nil => rwa [List.append_nil]
  | cons step more ih =>
    rw [List.append_cons]
    exact ih (h.take step)

end SharedMap

/-! ## The files of several stores -/

/-- The files hold what is in the map, and every store that is open works on them. -/
structure Shares (root : String) (place : Location) (opened : List Store) (w : World)
    (s : SharedMap) : Prop where
  keeps : Keeps w root place s.held
  opened : opened = List.replicate s.opened (.files root)

namespace Shares

variable {root bucket key : String} {place : Location} {opened : List Store} {w : World}
  {s : SharedMap}

/-- A store that is open is one in the directory. -/
theorem getElem?_opened (h : Shares root place opened w s) (i : Nat) :
    opened[i]? = if i < s.opened then some (.files root) else Option.none := by
  rw [h.opened, List.getElem?_replicate]

theorem openAt (h : Shares root place opened w s) (version : String) :
    ∃ opened' w', ((SharedStep.openAt version).take root opened : StateM World _) w =
        (opened', w') ∧ Shares root place opened' w' (s.take (.openAt version)) := by
  obtain ⟨w', hopen, hkeeps⟩ := h.keeps.openAt version
  refine ⟨opened ++ [.files root], w', ?_, hkeeps, ?_⟩
  · rw [SharedStep.take, Host.run_state_bind, hopen]
    rfl
  · rw [SharedMap.take, h.opened, List.replicate_succ']

theorem put (h : Shares root place opened w s) (hplain : PlainEntry root bucket key) (i : Nat)
    (tag : String) (value : List UInt8) :
    ∃ w', ((SharedStep.put i bucket key tag value).take root opened : StateM World _) w =
        (opened, w') ∧ Shares root place opened w' (s.take (.put i bucket key tag value)) := by
  rw [SharedStep.take, SharedMap.take, h.getElem?_opened]
  by_cases hopen : i < s.opened
  · obtain ⟨w', hput, hkeeps⟩ := h.keeps.put hplain tag value
    rw [if_pos hopen, if_pos hopen]
    refine ⟨w', ?_, hkeeps, h.opened⟩
    dsimp only
    rw [Host.run_state_bind, hput]
    rfl
  · rw [if_neg hopen, if_neg hopen]
    exact ⟨w, rfl, h⟩

theorem get (h : Shares root place opened w s) (hplain : PlainEntry root bucket key) (i : Nat)
    (tag : String) :
    ((SharedStep.get i bucket key tag).take root opened : StateM World _) w = (opened, w) := by
  rw [SharedStep.take, h.getElem?_opened]
  by_cases hopen : i < s.opened
  · rw [if_pos hopen]
    dsimp only
    rw [Host.run_state_bind, h.keeps.get? hplain tag]
    rfl
  · rw [if_neg hopen]
    rfl

/-- One step, whichever it is. -/
theorem take (h : Shares root place opened w s) {step : SharedStep} (hplain : step.Plain root) :
    ∃ opened' w', (step.take root opened : StateM World _) w = (opened', w') ∧
      Shares root place opened' w' (s.take step) := by
  cases step with
  | openAt version => exact h.openAt version
  | put i bucket key tag value =>
    obtain ⟨w', hrun, hshares⟩ := h.put hplain i tag value
    exact ⟨opened, w', hrun, hshares⟩
  | get i bucket key tag => exact ⟨opened, w, h.get hplain i tag, h⟩

/-- Any steps. -/
theorem takeAll {steps : List SharedStep} (h : Shares root place opened w s)
    (hplain : ∀ step ∈ steps, step.Plain root) :
    ∃ opened' w', (SharedStep.takeAll root opened steps : StateM World _) w = (opened', w') ∧
      Shares root place opened' w' (s.takeAll steps) := by
  induction steps generalizing opened w s with
  | nil => exact ⟨opened, w, rfl, h⟩
  | cons step steps ih =>
    obtain ⟨opened', w', hrun, hshares⟩ := h.take (hplain step List.mem_cons_self)
    obtain ⟨opened'', w'', hruns, hshares'⟩ :=
      ih hshares fun other hother => hplain other (List.mem_cons_of_mem _ hother)
    refine ⟨opened'', w'', ?_, hshares'⟩
    rw [SharedStep.takeAll, Host.run_state_bind, hrun]
    exact hruns

end Shares

/-! ## Lookups -/

/-- The answer of one of the stores after steps of all of them. There is none if it is not open. -/
def lookupAfter {m : Type → Type} [Monad m] [Host m] (root : String) (steps : List SharedStep)
    (i : Nat) (bucket key tag : String) : m (Option (List UInt8)) := do
  let opened ← SharedStep.takeAll root [] steps
  match opened[i]? with
  | some store => store.get? bucket key tag
  | Option.none => return Option.none

section

variable {w : World} {root bucket key tag : String} {place : Location} {steps : List SharedStep}

/-- Every store that is open answers from the one map. -/
theorem run_lookupAfter (h : Home w root place) (habsent : w.tree.get? place = Option.none)
    (hplain : ∀ step ∈ steps, step.Plain root) (hentry : PlainEntry root bucket key) (i : Nat) :
    ((lookupAfter root steps i bucket key tag : StateM World _) w).1 =
      if i < (SharedMap.empty.takeAll steps).opened then
        (SharedMap.empty.takeAll steps).held.get? bucket key tag
      else Option.none := by
  have hempty : Shares root place [] w .empty := ⟨.empty h habsent, rfl⟩
  obtain ⟨opened, w', hrun, hshares⟩ := hempty.takeAll hplain
  rw [lookupAfter, Host.run_state_bind, hrun]
  dsimp only
  rw [hshares.getElem?_opened]
  split
  · dsimp only
    rw [hshares.keeps.get? hentry]
  · rfl

/-- Whatever stores did in a directory that was absent at first, a lookup finds only what one of
them put there since the directory was last emptied. If neither that store had been overtaken when
it put it there, nor this one is, both have the same version. -/
theorem putAfter_of_lookupAfter (h : Home w root place)
    (habsent : w.tree.get? place = Option.none) (hplain : ∀ step ∈ steps, step.Plain root)
    (hentry : PlainEntry root bucket key) {i : Nat} {value : List UInt8}
    (hfound : ((lookupAfter root steps i bucket key tag : StateM World _) w).1 = some value) :
    ∃ before j stored, PutAfter before steps j bucket key stored value ∧
      (tag = "" ∨ tag = stored) ∧
      (UpToDate before j → UpToDate steps i → (openings before)[j]? = (openings steps)[i]?) := by
  have hheld : (SharedMap.empty.takeAll steps).HeldBy steps := SharedMap.heldBy_empty.takeAll steps
  rw [run_lookupAfter h habsent hplain hentry] at hfound
  split at hfound
  · obtain ⟨⟨stored, bytes⟩, hstored, htagged⟩ := Option.bind_eq_some_iff.mp hfound
    dsimp only at htagged
    split at htagged
    · next htag =>
      obtain rfl := Option.some.inj htagged
      obtain ⟨before, j, hput⟩ := hheld.entries bucket key stored bytes hstored
      refine ⟨before, j, stored, hput, htag, fun hbefore hnow => ?_⟩
      rw [hbefore, hnow]
      exact hput.getLast?.symm
    · cases htagged
  · cases hfound

end

/-! ## Three stores in an empty tree -/

theorem home_cache : Home ⟨.empty, [], [], []⟩ "cache" ["cache"] := by
  refine .of_empty ?_
  constructor <;> decide

theorem plainEntry_cache : PlainEntry "cache" "a" "b" := by
  refine ⟨?_, by decide, ?_, by decide, by decide⟩
  · constructor <;> decide
  · constructor <;> decide

/-- A store that is opened with the version of an earlier one finds what that one put there, although
another version was opened between them. -/
theorem putAfter_reopened :
    let steps : List SharedStep := [.openAt "1", .openAt "2", .openAt "1", .put 0 "a" "b" "t" [10]]
    ∃ before j stored, PutAfter before steps j "a" "b" stored [10] ∧ ("" = "" ∨ "" = stored) ∧
      (UpToDate before j → UpToDate steps 2 → (openings before)[j]? = (openings steps)[2]?) := by
  intro steps
  have hplain : ∀ step ∈ steps, step.Plain "cache" := by
    intro step hstep
    simp only [steps, List.mem_cons, List.not_mem_nil, or_false] at hstep
    rcases hstep with rfl | rfl | rfl | rfl
    all_goals first | exact trivial | exact plainEntry_cache
  refine putAfter_of_lookupAfter home_cache rfl hplain plainEntry_cache ?_
  rw [run_lookupAfter home_cache rfl hplain plainEntry_cache]
  decide

/-- The first store goes on writing after the second one has emptied the directory for its own
version, and so the second one finds what no store of that version ever put there. -/
theorem lookupAfter_overtaken :
    let steps : List SharedStep := [.openAt "1", .openAt "2", .put 0 "a" "b" "t" [10]]
    ((lookupAfter "cache" steps 1 "a" "b" "" : StateM World _) ⟨.empty, [], [], []⟩).1 =
      some [10] ∧
    (openings steps)[1]? = some "2" ∧
    ¬ ∃ before j bucket key tag value, PutAfter before steps j bucket key tag value ∧
      (openings before)[j]? = some "2" := by
  intro steps
  have hplain : ∀ step ∈ steps, step.Plain "cache" := by
    intro step hstep
    simp only [steps, List.mem_cons, List.not_mem_nil, or_false] at hstep
    rcases hstep with rfl | rfl | rfl
    all_goals first | exact trivial | exact plainEntry_cache
  refine ⟨?_, by decide, ?_⟩
  · rw [run_lookupAfter home_cache rfl hplain plainEntry_cache]
    decide
  rintro ⟨before, j, bucket, key, tag, value, ⟨-, after, hsteps, -⟩, hversion⟩
  dsimp only [steps] at hsteps
  rcases before with _ | ⟨first, _ | ⟨second, _ | ⟨third, more⟩⟩⟩
  · cases hsteps
  · cases hsteps
  · cases hsteps
    exact absurd hversion (by decide)
  · have hlength := congrArg List.length hsteps
    simp at hlength

end WikiMarkup.Store
