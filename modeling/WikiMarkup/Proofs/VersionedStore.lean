-- SUMMARY: A store in files answers as a map from buckets and keys to tagged bytes that is emptied when it is opened with another version.
import WikiMarkup.Proofs.StoreFiles

/-!
# Stores as versioned maps

A `VersionedMap` has no files: a version, and tagged bytes under a bucket and a key. A store whose
directory is absent at first gives the same answers, whatever is opened, stored and looked up.
`Keeps` ties the files to the map. Each operation keeps it, and the answers follow by induction on
the operations.
-/

namespace WikiMarkup

namespace Store

/-- What is done with a store. -/
inductive Operation where
  | openAt (version : String)
  | put (bucket key tag : String) (value : List UInt8)
  | get (bucket key tag : String)

/-- The operation names a plain entry, if any. -/
def Operation.Plain (root : String) : Operation → Prop
  | openAt _ => True
  | put bucket key _ _ => PlainEntry root bucket key
  | get bucket key _ => PlainEntry root bucket key

/-- Does one thing after the other with a store, each with the one that was opened last, and gives
the answers of the lookups. -/
def perform {m : Type → Type} [Monad m] [Host m] (root : String) :
    Store → List Operation → m (List (Option (List UInt8)))
  | _, [] => return []
  | _, .openAt version :: operations => do
    let opened ← Store.openAt root version
    perform root opened operations
  | store, .put bucket key tag value :: operations => do
    store.put bucket key tag value
    perform root store operations
  | store, .get bucket key tag :: operations => do
    let found ← store.get? bucket key tag
    let answers ← perform root store operations
    return found :: answers

end Store

/-! ## Maps with a version -/

/-- A version, once there is one, and tagged bytes under a bucket and a key. -/
structure VersionedMap where
  version : Option String
  entries : String → String → Option (String × List UInt8)

namespace VersionedMap

def empty : VersionedMap := ⟨none, fun _ _ => none⟩

/-- Empties the map unless it has that version. -/
def openAt (m : VersionedMap) (version : String) : VersionedMap :=
  if m.version = some version then m else ⟨some version, fun _ _ => none⟩

/-- Puts tagged bytes in place of those there. A tag of several lines is refused. -/
def put (m : VersionedMap) (bucket key tag : String) (value : List UInt8) : VersionedMap :=
  if '\n' ∈ tag.toList then m
  else
    { m with
      entries := fun b k => if b = bucket ∧ k = key then some (tag, value) else m.entries b k }

/-- The bytes there, if they have that tag or any is asked for. -/
def get? (m : VersionedMap) (bucket key tag : String) : Option (List UInt8) :=
  (m.entries bucket key).bind fun (stored, value) =>
    if tag = "" ∨ tag = stored then some value else none

/-- The answers of the lookups among operations done one after the other. -/
def answers : VersionedMap → List Store.Operation → List (Option (List UInt8))
  | _, [] => []
  | m, .openAt version :: operations => (m.openAt version).answers operations
  | m, .put bucket key tag value :: operations => (m.put bucket key tag value).answers operations
  | m, .get bucket key tag :: operations => m.get? bucket key tag :: m.answers operations

end VersionedMap

/-! ## The files of a map -/

namespace Store

/-- The files of a store hold what is in a map. -/
structure Keeps (w : World) (root : String) (place : Location) (m : VersionedMap) : Prop where
  home : Home w root place
  laid : Home.Laid w.tree place
  version : (w.tree.contents? (place ++ ["VERSION"])).bind Text.ofBytes? = m.version
  entries : ∀ bucket key, w.tree.contents? (place ++ [bucket, key]) =
    (m.entries bucket key).map fun (tag, value) => Entry.encode tag value
  tags : ∀ bucket key tag value, m.entries bucket key = some (tag, value) → '\n' ∉ tag.toList

variable {w : World} {root version bucket key tag : String} {place : Location} {m : VersionedMap}

/-- Where there is nothing, there is the empty map. -/
theorem Keeps.empty (h : Home w root place) (habsent : w.tree.get? place = Option.none) :
    Keeps w root place .empty := by
  have hnone : ∀ rest, w.tree.get? (place ++ rest) = Option.none := fun rest =>
    h.closed.none_below habsent (List.prefix_append _ _)
  refine ⟨h, ⟨?_, ?_⟩, ?_, ?_, ?_⟩
  · intro name contents _
    rw [hnone]
    exact nofun
  · intro bucket key
    rw [hnone]
    exact nofun
  · rw [Tree.contents?, hnone]
    rfl
  · intro bucket key
    rw [Tree.contents?, hnone]
    rfl
  · intro bucket key tag value hentry
    cases hentry

theorem Keeps.openAt (h : Keeps w root place m) (version : String) :
    ∃ w', (Store.openAt root version : StateM World Store) w = (.files root, w') ∧
      Keeps w' root place (m.openAt version) := by
  by_cases hsame : m.version = some version
  · refine ⟨w, h.home.run_openAt_same (h.version.trans hsame), ?_⟩
    rw [VersionedMap.openAt, if_pos hsame]
    exact h
  · have hother : (w.tree.contents? (place ++ ["VERSION"])).bind Text.ofBytes? ≠ some version :=
      fun heq => hsame (h.version.symm.trans heq)
    obtain ⟨tree, hopen, hhome, hfresh⟩ := h.home.run_openAt_other hother
    refine ⟨_, hopen, ?_⟩
    rw [VersionedMap.openAt, if_neg hsame]
    refine ⟨hhome, hfresh.laid, ?_, ?_, ?_⟩
    · have hfile := hfresh (place ++ ["VERSION"]) (List.prefix_append _ _)
      rw [if_neg (by simp), if_pos rfl] at hfile
      rw [Tree.contents?_eq_some.mpr hfile]
      exact Text.ofBytes?_bytes version
    · intro bucket key
      have hnone := hfresh (place ++ [bucket, key]) (List.prefix_append _ _)
      rw [if_neg (by simp), if_neg (by simp)] at hnone
      rw [Tree.contents?, hnone]
      rfl
    · intro bucket key tag value hentry
      cases hentry

theorem Keeps.put (h : Keeps w root place m) (hplain : PlainEntry root bucket key) (tag : String)
    (value : List UInt8) :
    ∃ w', (Store.put (.files root) bucket key tag value : StateM World Unit) w = ((), w') ∧
      Keeps w' root place (m.put bucket key tag value) := by
  by_cases htag : '\n' ∈ tag.toList
  · refine ⟨w, run_put_refused htag _ _ _ _ _, ?_⟩
    rw [VersionedMap.put, if_pos htag]
    exact h
  obtain ⟨tree, hput, hhome, hlaid, hcontents⟩ := h.home.run_put h.laid hplain htag value
  refine ⟨_, hput, ?_⟩
  rw [VersionedMap.put, if_neg htag]
  refine ⟨hhome, hlaid, ?_, ?_, ?_⟩
  · rw [hcontents, if_neg (by simp)]
    exact h.version
  · intro b k
    have hplace : place ++ [b, k] = place ++ [bucket, key] ↔ b = bucket ∧ k = key := by simp
    rw [hcontents, h.entries]
    dsimp only
    by_cases hsame : b = bucket ∧ k = key
    · rw [if_pos (hplace.mpr hsame), if_pos hsame]
      rfl
    · rw [if_neg (fun heq => hsame (hplace.mp heq)), if_neg hsame]
  · intro b k stored bytes hentry
    dsimp only at hentry
    split at hentry
    · cases hentry
      exact htag
    · exact h.tags b k stored bytes hentry

theorem Keeps.get? (h : Keeps w root place m) (hplain : PlainEntry root bucket key) (tag : String) :
    (Store.get? (.files root) bucket key tag : StateM World (Option (List UInt8))) w =
      (m.get? bucket key tag, w) := by
  rw [h.home.run_get? hplain, h.entries, VersionedMap.get?]
  cases hentry : m.entries bucket key with
  | none => rfl
  | some entry =>
    obtain ⟨stored, value⟩ := entry
    rw [Option.map_some, Option.bind_some, Option.bind_some,
      Entry.decode?_encode (h.tags bucket key stored value hentry)]

section

variable {σ : Type} [Host (StateM σ)] (store : Store) (operations : List Operation) (s : σ)

theorem run_perform_openAt (root version : String) :
    (perform root store (.openAt version :: operations) : StateM σ _) s =
      match (Store.openAt root version : StateM σ Store) s with
      | (opened, s') => (perform root opened operations : StateM σ _) s' := rfl

theorem run_perform_put (root bucket key tag : String) (value : List UInt8) :
    (perform root store (.put bucket key tag value :: operations) : StateM σ _) s =
      match (store.put bucket key tag value : StateM σ Unit) s with
      | ((), s') => (perform root store operations : StateM σ _) s' := rfl

theorem run_perform_get (root bucket key tag : String) :
    (perform root store (.get bucket key tag :: operations) : StateM σ _) s =
      match (store.get? bucket key tag : StateM σ (Option (List UInt8))) s with
      | (found, s') =>
        match (perform root store operations : StateM σ _) s' with
        | (answers, s'') => (found :: answers, s'') := rfl

end

/-- Once a store is open, the answers are those of the map that its files hold. -/
theorem Keeps.perform {operations : List Operation} (h : Keeps w root place m)
    (hplain : ∀ operation ∈ operations, operation.Plain root) :
    ((Store.perform root (.files root) operations : StateM World _) w).1 =
      m.answers operations := by
  induction operations generalizing w m with
  | nil => rfl
  | cons operation operations ih =>
    have hfirst := hplain operation List.mem_cons_self
    have hrest : ∀ o ∈ operations, o.Plain root := fun o ho => hplain o (List.mem_cons_of_mem _ ho)
    cases operation with
    | openAt version =>
      obtain ⟨w', hopen, hkeeps⟩ := h.openAt version
      rw [run_perform_openAt, hopen]
      exact ih hkeeps hrest
    | put bucket key tag value =>
      obtain ⟨w', hput, hkeeps⟩ := h.put hfirst tag value
      rw [run_perform_put, hput]
      exact ih hkeeps hrest
    | get bucket key tag =>
      rw [run_perform_get, h.get? hfirst tag, VersionedMap.answers]
      exact congrArg _ (ih h hrest)

/-- A store whose directory is absent at first answers every lookup as the empty map does after the
same operations, if the first of them opens it. -/
theorem perform_eq_answers (h : Home w root place) (habsent : w.tree.get? place = Option.none)
    (version : String) {operations : List Operation}
    (hplain : ∀ operation ∈ operations, operation.Plain root) :
    ((perform root .none (.openAt version :: operations) : StateM World _) w).1 =
      VersionedMap.empty.answers (.openAt version :: operations) := by
  obtain ⟨w', hopen, hkeeps⟩ := (Keeps.empty h habsent).openAt version
  rw [run_perform_openAt, hopen]
  exact hkeeps.perform hplain

/-- Bytes that are no text are given back, to another tag nothing is, and another version forgets
them. -/
theorem perform_reopened :
    ((perform "cache" .none [.openAt "1", .put "a" "b" "" [255, 10], .put "a" "b" "t" [10, 0, 10],
        .put "a" "b" "t\n" [], .get "a" "b" "", .get "a" "b" "u", .openAt "1", .get "a" "b" "t",
        .openAt "2", .get "a" "b" ""] : StateM World _) ⟨.empty, [], [], []⟩).1 =
      [some [10, 0, 10], Option.none, some [10, 0, 10], Option.none] := by
  have hname : ∀ name ∈ ["cache", "a", "b"], Path.IsName name := by
    intro name hname
    simp only [List.mem_cons, List.not_mem_nil, or_false] at hname
    rcases hname with rfl | rfl | rfl <;> constructor <;> decide
  have hentry : PlainEntry "cache" "a" "b" :=
    ⟨hname "a" (by simp), by decide, hname "b" (by simp), by decide, by decide⟩
  have hhome : Home ⟨.empty, [], [], []⟩ "cache" ["cache"] := .of_empty (hname "cache" (by simp))
  refine (perform_eq_answers hhome rfl "1" ?_).trans (by decide)
  intro operation hoperation
  simp only [List.mem_cons, List.not_mem_nil, or_false] at hoperation
  rcases hoperation with rfl | rfl | rfl | rfl | rfl | rfl | rfl | rfl | rfl
  all_goals first | exact trivial | exact hentry

end Store

end WikiMarkup
