-- SUMMARY: The steps of an opening that is not cut off lead to what opening the store at once leads to, in whatever order things are removed, and to nothing else.
import WikiMarkup.Proofs.InterruptedOpenings
import Mathlib.Data.Finset.Max

/-!
# Completed openings

An opening that goes on step by step until the store is open ends in the world in which `openAt`
ends. In one direction the steps of `openAt` are found one by one. In the other, `Stage.rest` is
what an opening has still to do at a stage. No step changes where that leads to: what is removed one
by one would have been removed with the rest, and the version file is written anew whatever part of
it is there. When the store is open there is nothing left to do.
-/

namespace WikiMarkup

/-! ## Removing nodes one by one -/

namespace Tree

variable {t : Tree} {place loc : Location}

theorem clear_of_isLeaf (h : t.isLeaf place) : t.clear place = t := by
  rw [clear, List.filter_eq_self.mpr fun entry hentry => List.all_eq_true.mp h entry hentry]

theorem isLeaf_clear (t : Tree) (place : Location) : (t.clear place).isLeaf place :=
  List.all_eq_true.mpr fun _ hentry => (List.mem_filter.mp hentry).2

/-- What is removed below a location one by one is removed with all that is there. -/
theorem clear_erase (hloc : place <+: loc) (hne : loc ≠ place) :
    (t.erase loc).clear place = t.clear place := by
  rw [clear, clear, erase, List.filter_filter]
  congr 1
  refine List.filter_congr fun entry _ => ?_
  by_cases hentry : entry.1 = loc
  · simp [hentry, hloc, hne]
  · simp [hentry]

/-- Below a location where there is anything, something can be removed. -/
theorem exists_leaf (h : t.isLeaf place = false) :
    ∃ loc, place <+: loc ∧ loc ≠ place ∧ (t.get? loc).isSome ∧ t.isLeaf loc := by
  let below := t.nodes.filter fun entry => place.isPrefixOf entry.1 ∧ entry.1 ≠ place
  have hbelow : ∀ entry, entry ∈ below.toFinset ↔
      entry ∈ t.nodes ∧ place <+: entry.1 ∧ entry.1 ≠ place := by
    intro entry
    simp [below]
  have hsome : below.toFinset.Nonempty := by
    obtain ⟨entry, hentry, hunder⟩ := List.all_eq_false.mp h
    exact ⟨entry, (hbelow entry).mpr ⟨hentry, by simpa using hunder⟩⟩
  -- A node of the longest location has nothing below it.
  obtain ⟨deepest, hdeepest, hlongest⟩ :=
    below.toFinset.exists_max_image (fun entry => entry.1.length) hsome
  obtain ⟨hmem, hloc, hne⟩ := (hbelow deepest).mp hdeepest
  refine ⟨deepest.1, hloc, hne, ?_, ?_⟩
  · have hnil : deepest.1 ≠ [] := fun heq => hne (heq ▸ (List.prefix_nil.mp (heq ▸ hloc)).symm)
    rw [get?_of_ne_nil t hnil, Option.isSome_map, List.find?_isSome]
    exact ⟨deepest, hmem, by simp⟩
  · refine List.all_eq_true.mpr fun entry hentry => ?_
    simp only [decide_eq_true_eq, List.isPrefixOf_iff_prefix]
    rintro ⟨hunder, hother⟩
    have hplace : entry.1 ≠ place := by
      rintro rfl
      exact hne (hloc.eq_of_length_le hunder.length_le).symm
    have hlength := hlongest entry ((hbelow entry).mpr ⟨hentry, hloc.trans hunder, hplace⟩)
    exact hother (hunder.eq_of_length_le hlength).symm

/-- Removing a node leaves fewer nodes. -/
theorem length_erase_lt (hplace : place ≠ []) (h : (t.get? place).isSome) :
    (t.erase place).nodes.length < t.nodes.length := by
  rw [get?_of_ne_nil t hplace, Option.isSome_map, List.find?_isSome] at h
  obtain ⟨entry, hentry, hplace⟩ := h
  refine List.length_filter_lt_length_iff_exists.mpr ⟨entry, hentry, ?_⟩
  simpa using hplace

theorem set_set (t : Tree) (place : Location) (node node' : Node) :
    (t.set place node).set place node' = t.set place node' := by
  simp [set]

end Tree

namespace Store

open Session

variable {w last : World} {root version : String} {place : Location}

/-! ## Runs of one opening -/

namespace Session

/-- The steps lead from one session to the other, and all belong to one opening. -/
def Opens (root : String) (s s' : Session) : Prop :=
  ∃ steps, (∀ step ∈ steps, step.Inner) ∧ s.run? root steps = some s'

variable {s s' s'' : Session}

theorem Opens.refl (s : Session) : Opens root s s := ⟨[], nofun, rfl⟩

theorem Opens.trans (h : Opens root s s') (h' : Opens root s' s'') : Opens root s s'' := by
  obtain ⟨steps, hinner, hrun⟩ := h
  obtain ⟨steps', hinner', hrun'⟩ := h'
  refine ⟨steps ++ steps', fun step hstep => ?_, ?_⟩
  · exact (List.mem_append.mp hstep).elim (hinner step) (hinner' step)
  · rw [run?, List.foldlM_append]
    exact Option.bind_eq_some_iff.mpr ⟨s', hrun, hrun'⟩

theorem Opens.step (step : Step) (hinner : step.Inner) (hstep : s.take? root step = some s') :
    Opens root s s' := by
  refine ⟨[step], List.forall_mem_singleton.mpr hinner, ?_⟩
  rw [run?, List.foldlM_cons, hstep]
  rfl

end Session

theorem Home.locate (h : Home w root place) (hplace : w.tree.get? place = some .directory) :
    w.tree.locate w.directory root = .ok place := by
  rw [Tree.locate_eq h.valid_root h.root_ne_empty]
  exact Tree.follow_of_filter hplace (h.leads_tree.follow_eq_ok h.closed hplace)

/-- Everything below the directory can be removed. -/
theorem Home.opens_clear (h : Home w root place) (hplace : w.tree.get? place = some .directory)
    (version : String) :
    Opens root ⟨w, version, .emptying⟩
      ⟨{ w with tree := w.tree.clear place }, version, .emptying⟩ := by
  induction hcount : w.tree.nodes.length using Nat.strong_induction_on generalizing w with
  | _ count ih =>
    cases hleaf : w.tree.isLeaf place with
    | true =>
      rw [Tree.clear_of_isLeaf hleaf]
      exact .refl _
    | false =>
      obtain ⟨loc, hloc, hne, hthere, hfree⟩ := Tree.exists_leaf hleaf
      have hnil := h.ne_nil_of_below hloc
      have hless := Tree.length_erase_lt hnil hthere
      have hplace' : (w.tree.erase loc).get? place = some .directory := by
        rw [Tree.get?_erase hnil, if_neg hne.symm, hplace]
      have hrest := ih _ (hcount ▸ hless) (h.erase hloc hnil hfree) hplace' rfl
      dsimp only at hrest
      rw [Tree.clear_erase hloc hne] at hrest
      refine .trans (.step (.remove loc) trivial ?_) hrest
      simp only [take?, h.locate hplace]
      rw [if_pos ⟨trivial, by simpa using hloc, hne, hthere, hfree⟩]

/-- Once it is empty the directory can be removed. -/
theorem Home.opens_without (h : Home w root place) (hplace : w.tree.get? place = some .directory)
    (version : String) :
    Opens root ⟨w, version, .emptying⟩
      ⟨{ w with tree := w.tree.without place }, version, .missing⟩ := by
  have hhome : Home { w with tree := w.tree.clear place } root place := by
    refine h.of_outside (h.closed.clear place) ?_ ?_
    · intro loc hloc contents hfile
      rw [Tree.get?_clear] at hfile
      split at hfile
      · cases hfile
      · exact h.clear loc hloc contents hfile
    · intro loc node hloc hnode
      rw [Tree.get?_clear, if_neg fun hbelow => hloc hbelow.1, hnode]
  have hplace' : (w.tree.clear place).get? place = some .directory := by
    rw [Tree.get?_clear, if_neg fun hbelow => hbelow.2 rfl, hplace]
  have hleaf := w.tree.isLeaf_clear place
  have hremove := hhome.run_removeTree hplace'
  rw [Tree.without, Tree.clear_of_isLeaf hleaf] at hremove
  refine (h.opens_clear hplace version).trans (.step .removeRoot trivial ?_)
  simp only [take?, hhome.locate hplace', hleaf]
  rw [if_pos ⟨trivial, trivial⟩, perform_of_ok hremove]
  rfl

/-- The version file is filled byte by byte. -/
theorem Home.opens_stamped {t : Tree} {written left : List UInt8}
    (h : Home { w with tree := t.set (place ++ ["VERSION"]) (.file written) } root place)
    (hbare : Bare (t.set (place ++ ["VERSION"]) (.file written)) place (some written))
    (hleft : written ++ left = Text.bytes version) :
    Opens root
      ⟨{ w with tree := t.set (place ++ ["VERSION"]) (.file written) }, version, .stamping written⟩
      ⟨{ w with tree := t.set (place ++ ["VERSION"]) (.file (Text.bytes version)) }, version,
        .opened⟩ := by
  induction left generalizing written with
  | nil =>
    rw [List.append_nil] at hleft
    refine .step .finish trivial ?_
    simp only [take?, hleft, if_true]
  | cons byte left ih =>
    rw [List.append_cons] at hleft
    obtain ⟨hwrite, hhome⟩ := h.run_writeVersion hbare (written ++ [byte])
    have hbare' := hbare.set (written ++ [byte])
    rw [Tree.set_set] at hwrite hhome hbare'
    refine .trans (.step (.write byte) trivial ?_) (ih hhome hbare' hleft)
    simp only [take?]
    rw [if_pos (List.isPrefixOf_iff_prefix.mpr ⟨left, hleft⟩), perform_of_ok hwrite]

/-- Where there is no directory, it is made and the version is stored. -/
theorem Home.opens_missing (h : Home w root place) (hnone : w.tree.get? place = Option.none)
    (version : String) :
    Opens root ⟨w, version, .missing⟩
      ⟨((do
          Host.makeDirectories root
          Host.writeFile (versionPath root) (Text.bytes version) :
          ExceptT FileError (StateM World) Unit) w).2, version, .opened⟩ := by
  obtain ⟨mid, hmake, hhome, hbare⟩ := h.run_makeRoot hnone
  obtain ⟨hwrite, -⟩ := hhome.run_writeVersion hbare (Text.bytes version)
  obtain ⟨htruncate, hhome'⟩ := hhome.run_writeVersion hbare []
  rw [Host.run_bind, hmake]
  dsimp only
  rw [hwrite]
  have hmade : take? root ⟨w, version, .missing⟩ .makeRoot =
      some ⟨{ w with tree := mid }, version, .made⟩ := by
    simp only [take?, if_true]
    exact perform_of_ok hmake _
  have htruncated : take? root ⟨{ w with tree := mid }, version, .made⟩ .truncate =
      some ⟨{ w with tree := mid.set (place ++ ["VERSION"]) (.file []) }, version,
        .stamping []⟩ := by
    simp only [take?, if_true]
    exact perform_of_ok htruncate _
  have hstamped := hhome'.opens_stamped (hbare.set []) (List.nil_append (Text.bytes version))
  exact (Opens.step .makeRoot trivial hmade).trans
    ((Opens.step .truncate trivial htruncated).trans hstamped)

/-! ## What is left to do -/

/-- What an opening has still to do at a stage. -/
def Stage.rest (root version : String) : Stage → ExceptT FileError (StateM World) Unit
  | closed | opened => pure ()
  | emptying => do
    Host.removeTree root
    Host.makeDirectories root
    Host.writeFile (versionPath root) (Text.bytes version)
  | missing => do
    Host.makeDirectories root
    Host.writeFile (versionPath root) (Text.bytes version)
  | made | stamping _ => Host.writeFile (versionPath root) (Text.bytes version)

/-- The world to which what is left to do leads. -/
def Session.ending (root : String) (s : Session) : World :=
  (s.stage.rest root s.version s.world).2

/-- What opening with a version does depends on how far the opening has to go. -/
theorem Home.run_openAt_eq (h : Home w root place) (version : String) :
    ((openAt root version : StateM World Store) w).2 =
      (Stage.rest root version
        (if ((storedVersion root : StateM World _) w).1 = some version then .opened
        else if ((Host.pathExists root : StateM World _) w).1 then .emptying
        else .missing) w).2 := by
  rw [run_openAt, prepare, Host.run_bind, Host.run_lift, h.run_storedVersion]
  dsimp only
  split
  · rfl
  rw [Host.run_bind, Host.run_lift, h.run_pathExists]
  dsimp only
  split <;> rfl

/-- What opening a store does as a whole are steps of one opening. -/
theorem Home.opens_openAt (h : Home w root place) (before version : String) (stage : Stage) :
    ∃ s, Session.take? root ⟨w, before, stage⟩ (.begin version) = some s ∧
      Opens root s ⟨((openAt root version : StateM World Store) w).2, version, .opened⟩ := by
  refine ⟨_, rfl, ?_⟩
  rw [h.run_openAt_eq, h.run_storedVersion, h.run_pathExists]
  dsimp only
  split
  · exact .refl _
  cases hplace : w.tree.get? place with
  | none => exact h.opens_missing hplace version
  | some node =>
    rw [h.clear.directory hplace] at hplace
    have hnone : (w.tree.without place).get? place = Option.none := by
      rw [Tree.get?_without h.below, if_pos (List.prefix_refl _)]
    rw [if_pos Option.isSome_some, Stage.rest, Host.run_bind, h.run_removeTree hplace]
    exact (h.opens_without hplace version).trans (h.without.opens_missing hnone version)

/-! ## Every step leads there -/

/-- The session is in an opening with a version that ends in a world. -/
structure Session.LeadsTo (root : String) (place : Location) (version : String) (last : World)
    (s : Session) : Prop extends s.Consistent root place where
  version_eq : s.version = version
  stamped : ∀ written, s.stage = .stamping written →
    ∃ tree : Tree, s.world.tree = tree.set (place ++ ["VERSION"]) (.file written)
  ending_eq : s.ending root = last

namespace Session

variable {s s' : Session} {step : Step}

/-- Removing first what is removed anyway changes nothing in the end. -/
theorem ending_erase {loc : Location} (hs : s.Consistent root place)
    (there : s.world.tree.get? place = some .directory) (below : place <+: loc) (ne : loc ≠ place)
    (leaf : s.world.tree.isLeaf loc) :
    (s.withTree (s.world.tree.erase loc) .emptying).ending root =
      (s.withTree s.world.tree .emptying).ending root := by
  have hnil := hs.home.ne_nil_of_below below
  have hthere : (s.world.tree.erase loc).get? place = some .directory := by
    rw [Tree.get?_erase hnil, if_neg ne.symm, there]
  have hremove := hs.home.run_removeTree there
  have hremove' := (hs.home.erase below hnil leaf).run_removeTree hthere
  rw [Tree.without, Tree.clear_erase below ne] at hremove'
  simp only [ending, withTree, Stage.rest]
  rw [Host.run_bind, Host.run_bind, hremove, hremove']
  rfl

/-- Writing the version file is the same whatever part of the version is written before. -/
theorem ending_stamp (hs : s.Consistent root place) {before : Option (List UInt8)}
    (bare : Bare s.world.tree place before) (written : List UInt8) :
    (s.stamp place written).ending root = (s.withTree s.world.tree .made).ending root := by
  obtain ⟨-, hhome⟩ := hs.home.run_writeVersion bare written
  have hwrite := (hs.home.run_writeVersion bare (Text.bytes s.version)).1
  have hwrite' := (hhome.run_writeVersion (bare.set written) (Text.bytes s.version)).1
  simp only [ending, stamp, withTree, Stage.rest]
  rw [hwrite, hwrite', Tree.set_set]

/-- No step of an opening changes where it leads to. -/
theorem Moves.leadsTo (h : s.Moves root place step s') (hs : s.LeadsTo root place version last) :
    s'.LeadsTo root place version last := by
  refine ⟨h.consistent hs.toConsistent, h.version_eq.trans hs.version_eq, ?_, ?_⟩
  · cases h with
    | truncate _ _ | write _ _ _ =>
      rintro written hstage
      cases hstage
      exact ⟨s.world.tree, rfl⟩
    | _ => exact nofun
  · rw [← hs.ending_eq]
    cases h with
    | remove stage there below ne leaf =>
      rw [ending_erase hs.toConsistent there below ne leaf]
      rw [withTree, ← stage]
    | removeRoot stage there leaf =>
      simp only [ending, withTree, stage, Stage.rest]
      rw [Host.run_bind _ _ s.world, hs.home.run_removeTree there]
    | makeRoot stage make home bare =>
      simp only [ending, withTree, stage, Stage.rest]
      rw [Host.run_bind, make]
    | truncate stage bare =>
      rw [ending_stamp hs.toConsistent bare, withTree, ← stage]
    | write stage bare left =>
      rw [ending_stamp hs.toConsistent bare]
      simp only [ending, withTree, stage, Stage.rest]
    | finish stage bare =>
      obtain ⟨tree, htree⟩ := hs.stamped _ stage
      simp only [ending, stage, Stage.rest]
      rw [(hs.home.run_writeVersion bare _).1, htree, Tree.set_set, ← htree]
      rfl

/-- Nor do steps one after the other. -/
theorem LeadsTo.opens (h : s.LeadsTo root place version last) (hopens : Opens root s s') :
    s'.LeadsTo root place version last := by
  obtain ⟨steps, hinner, hrun⟩ := hopens
  induction steps generalizing s with
  | nil =>
    cases hrun
    exact h
  | cons step steps ih =>
    obtain ⟨hfirst, hrest⟩ := List.forall_mem_cons.mp hinner
    rw [run?, List.foldlM_cons] at hrun
    obtain ⟨mid, hmid, hrun⟩ := Option.bind_eq_some_iff.mp hrun
    exact ih ((h.toConsistent.moves hfirst hmid).leadsTo h) hrest hrun

/-- An open store has nothing left to do. -/
theorem LeadsTo.eq_of_opened (h : s.LeadsTo root place version last) (hstage : s.stage = .opened) :
    s = ⟨last, version, .opened⟩ := by
  have hending := h.ending_eq
  rw [ending, hstage] at hending
  rw [← h.version_eq, ← hstage, ← hending]
  rfl

end Session

/-- An opening that is begun leads to where opening the store at once leads to. -/
theorem Home.leadsTo_begin (h : Home w root place) (before version : String) (stage : Stage)
    {s : Session} (hbegin : Session.take? root ⟨w, before, stage⟩ (.begin version) = some s) :
    s.LeadsTo root place version ((openAt root version : StateM World Store) w).2 := by
  have hconsistent := consistent_begin h hbegin
  cases hbegin
  refine ⟨hconsistent, rfl, ?_, (h.run_openAt_eq version).symm⟩
  intro written hstage
  split at hstage
  · cases hstage
  · split at hstage <;> cases hstage

/-- The steps of one opening lead from its begin to an open store exactly if that is the store as
opening it at once leaves it. -/
theorem Home.opens_and_opened_iff (h : Home w root place) (before version : String) (stage : Stage)
    {begun s : Session}
    (hbegin : Session.take? root ⟨w, before, stage⟩ (.begin version) = some begun) :
    Opens root begun s ∧ s.stage = .opened ↔
      s = ⟨((openAt root version : StateM World Store) w).2, version, .opened⟩ := by
  constructor
  · rintro ⟨hopens, hstage⟩
    exact ((h.leadsTo_begin before version stage hbegin).opens hopens).eq_of_opened hstage
  · rintro rfl
    obtain ⟨_, hbegin', hopens⟩ := h.opens_openAt before version stage
    rw [hbegin, Option.some.injEq] at hbegin'
    exact ⟨hbegin' ▸ hopens, rfl⟩

end Store

end WikiMarkup
