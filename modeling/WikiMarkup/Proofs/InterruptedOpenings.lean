-- SUMMARY: Opening a store may be cut off after any of its steps: what is found later was put since the directory was last emptied, by a store of the version that finds it.
import WikiMarkup.Proofs.SharedStores
import WikiMarkup.Proofs.TreeChanges

/-!
# Interrupted openings

Opening a store with another version than the stored one takes many steps: everything below the
directory is removed piece by piece in some order, then the directory itself, it is made again, and
the version file is emptied and filled byte by byte. The opening may be cut off after any of them,
and all that the next one goes by is what the version file says then. Two facts carry the proof.
As long as a version can be read, the entries were put under that version, since the version file
is there only from the time when the directory was emptied until it is removed. And while the
version file is being filled there are no entries, so it does no harm that it may be read as
another version. That the steps of an opening which is not cut off are those of `openAt` is shown in
`CompletedOpenings`.
-/

namespace WikiMarkup

/-! ## Removing one node -/

namespace Tree

variable {t : Tree} {place loc : Location}

/-- Whether nothing is below a location. -/
def isLeaf (t : Tree) (place : Location) : Bool :=
  t.nodes.all fun entry => ¬ (place.isPrefixOf entry.1 ∧ entry.1 ≠ place)

theorem get?_of_isLeaf (h : t.isLeaf place) (hloc : place <+: loc) (hne : loc ≠ place) :
    t.get? loc = none := by
  have hnil : loc ≠ [] := by
    rintro rfl
    exact hne (List.prefix_nil.mp hloc).symm
  rw [get?_of_ne_nil t hnil, Option.map_eq_none_iff, List.find?_eq_none]
  intro entry hentry
  have hleaf := List.all_eq_true.mp h entry hentry
  simp only [decide_eq_true_eq, List.isPrefixOf_iff_prefix] at hleaf ⊢
  rintro rfl
  exact hleaf ⟨hloc, hne⟩

theorem get?_erase (hplace : place ≠ []) (loc : Location) :
    (t.erase place).get? loc = if loc = place then none else t.get? loc := by
  by_cases hloc : loc = []
  · rw [if_neg (hloc ▸ hplace.symm), hloc, get?_nil, get?_nil]
  rw [get?_of_ne_nil _ hloc, get?_of_ne_nil _ hloc, erase, List.find?_filter]
  by_cases heq : loc = place
  · rw [if_pos heq, List.find?_eq_none.mpr, Option.map_none]
    intro entry _
    simp [heq]
  · rw [if_neg heq]
    congr 2
    funext entry
    by_cases hentry : entry.1 = loc
    · simp [hentry, heq]
    · simp [hentry]

theorem Closed.erase (h : Closed t) (hplace : place ≠ []) (hleaf : t.isLeaf place) :
    Closed (t.erase place) := by
  intro loc node hnode
  rw [get?_erase hplace] at hnode ⊢
  split at hnode
  · cases hnode
  · next hne =>
    rw [if_neg, h loc node hnode]
    rintro rfl
    rw [get?_of_isLeaf hleaf (List.dropLast_prefix loc) hne] at hnode
    cases hnode

theorem contents?_of_erase (hplace : place ≠ []) {contents : List UInt8}
    (h : (t.erase place).contents? loc = some contents) : t.contents? loc = some contents := by
  rw [contents?_eq_some, get?_erase hplace] at h
  split at h
  · cases h
  · exact contents?_eq_some.mpr h

end Tree

namespace Store

/-! ## Openings step by step -/

/-- How far the opening has come that was begun last. -/
inductive Stage where
  /-- None was begun yet. -/
  | closed
  /-- What is below the directory is removed, and then the directory. -/
  | emptying
  /-- There is no directory. -/
  | missing
  /-- The directory is made. -/
  | made
  /-- So many bytes of the version are written. -/
  | stamping (written : List UInt8)
  /-- The store is open. -/
  | opened
  deriving DecidableEq

/-- A world, and the version with which a store was last opened there or begun to be. -/
structure Session where
  world : World
  version : String
  stage : Stage

/-- What happens next: an opening is begun, whether or not the one before it was finished, or goes
one step on, or the store that is open is used. -/
inductive Step where
  | begin (version : String)
  | remove (loc : Location)
  | removeRoot
  | makeRoot
  | truncate
  | write (byte : UInt8)
  | finish
  | put (bucket key tag : String) (value : List UInt8)
  | get (bucket key tag : String) (answer : Option (List UInt8))
  deriving DecidableEq

/-- The step names a plain entry, if any. -/
def Step.Plain (root : String) : Step → Prop
  | put bucket key _ _ => PlainEntry root bucket key
  | get bucket key _ _ => PlainEntry root bucket key
  | _ => True

/-- The version with which a step begins an opening. -/
def Step.begun? : Step → Option String
  | begin version => some version
  | _ => Option.none

/-- The version of the opening that was begun last. -/
def lastBegun? (steps : List Step) : Option String := (steps.filterMap Step.begun?).getLast?

namespace Session

/-- Lets a program that may fail run and goes on to a stage. One that fails is no step. -/
def perform (s : Session) (program : ExceptT FileError (StateM World) Unit) (stage : Stage) :
    Option Session :=
  match program s.world with
  | (.ok (), world) => some { s with world, stage }
  | (.error _, _) => Option.none

theorem perform_of_ok {s : Session} {program : ExceptT FileError (StateM World) Unit} {world : World}
    (h : program s.world = (.ok (), world)) (stage : Stage) :
    s.perform program stage = some { s with world, stage } := by
  rw [perform, h]

/-- The session after a step, if the step can be taken. The files and the directories below the root
are removed one by one in any order, a directory once it is empty. -/
def take? (root : String) (s : Session) : Step → Option Session
  | .begin version =>
    let stored := ((storedVersion root : StateM World _) s.world).1
    let there := ((Host.pathExists root : StateM World _) s.world).1
    some ⟨s.world, version,
      if stored = some version then .opened else if there then .emptying else .missing⟩
  | .remove loc =>
    match s.world.tree.locate s.world.directory root with
    | .ok place =>
      if s.stage = .emptying ∧ place.isPrefixOf loc ∧ loc ≠ place ∧
          (s.world.tree.get? loc).isSome ∧ s.world.tree.isLeaf loc then
        some { s with world := { s.world with tree := s.world.tree.erase loc } }
      else Option.none
    | .error _ => Option.none
  | .removeRoot =>
    match s.world.tree.locate s.world.directory root with
    | .ok place =>
      if s.stage = .emptying ∧ s.world.tree.isLeaf place then
        s.perform (Host.removeTree root) .missing
      else Option.none
    | .error _ => Option.none
  | .makeRoot =>
    if s.stage = .missing then s.perform (Host.makeDirectories root) .made else Option.none
  | .truncate =>
    if s.stage = .made then s.perform (Host.writeFile (versionPath root) []) (.stamping [])
    else Option.none
  | .write byte =>
    match s.stage with
    | .stamping written =>
      if (written ++ [byte]).isPrefixOf (Text.bytes s.version) then
        s.perform (Host.writeFile (versionPath root) (written ++ [byte]))
          (.stamping (written ++ [byte]))
      else Option.none
    | _ => Option.none
  | .finish =>
    if s.stage = .stamping (Text.bytes s.version) then some { s with stage := .opened }
    else Option.none
  | .put bucket key tag value =>
    if s.stage = .opened then
      some { s with world := ((Store.put (.files root) bucket key tag value : StateM World _)
        s.world).2 }
    else Option.none
  | .get bucket key tag answer =>
    if s.stage = .opened ∧
        ((Store.get? (.files root) bucket key tag : StateM World _) s.world).1 = answer then some s
    else Option.none

/-- The session after steps taken one after the other, if they can be taken. -/
def run? (root : String) (s : Session) (steps : List Step) : Option Session :=
  steps.foldlM (take? root) s

/-- Nothing was opened yet. -/
def start (w : World) : Session := ⟨w, "", .closed⟩

end Session

/-! ## What is below the directory -/

variable {w : World} {root version bucket key : String} {place : Location}

/-- The version that the version file holds, if there is one and it is text. -/
def heldVersion? (t : Tree) (place : Location) : Option String :=
  (t.contents? (place ++ ["VERSION"])).bind Text.ofBytes?

/-- There is a directory, and nothing in it but, if one is given, a version file. -/
def Bare (t : Tree) (place : Location) (written : Option (List UInt8)) : Prop :=
  ∀ loc, place <+: loc → t.get? loc =
    if loc = place then some .directory
    else if loc = place ++ ["VERSION"] then written.map .file
    else Option.none

theorem Bare.laid {t : Tree} {written : Option (List UInt8)} (h : Bare t place written) :
    Home.Laid t place := by
  constructor
  · intro name contents hname
    rw [h _ (List.prefix_append _ _), if_neg (by simp), if_neg (by simpa using hname)]
    exact nofun
  · intro bucket key
    rw [h _ (List.prefix_append _ _), if_neg (by simp), if_neg (by simp)]
    exact nofun

theorem Bare.contents?_entry {t : Tree} {written : Option (List UInt8)} (h : Bare t place written)
    (bucket key : String) : t.contents? (place ++ [bucket, key]) = Option.none := by
  rw [Tree.contents?, h _ (List.prefix_append _ _), if_neg (by simp), if_neg (by simp)]

theorem Bare.contents?_version {t : Tree} {written : Option (List UInt8)}
    (h : Bare t place written) : t.contents? (place ++ ["VERSION"]) = written := by
  rw [Tree.contents?, h _ (List.prefix_append _ _), if_neg (by simp), if_pos rfl]
  cases written <;> rfl

theorem Bare.directory {t : Tree} {written : Option (List UInt8)} (h : Bare t place written) :
    t.get? place = some .directory := by
  rw [h _ (List.prefix_refl _), if_pos rfl]

theorem Bare.set {t : Tree} {written : Option (List UInt8)} (h : Bare t place written)
    (contents : List UInt8) :
    Bare (t.set (place ++ ["VERSION"]) (.file contents)) place (some contents) := by
  intro loc hloc
  rw [Tree.get?_set (by simp)]
  by_cases hversion : loc = place ++ ["VERSION"]
  · subst hversion
    rw [if_pos rfl, if_neg (by simp), if_pos rfl]
    rfl
  · rw [if_neg hversion, h loc hloc, if_neg hversion, if_neg hversion]

/-- Where there was nothing, making the directory makes no more than that. -/
theorem bare_of_growsTo {t t' : Tree} (hclosed : t.Closed) (hnone : t.get? place = Option.none)
    (hgrows : t.GrowsTo t' place) (hplace : t'.get? place = some .directory) :
    Bare t' place Option.none := by
  intro loc hloc
  by_cases heq : loc = place
  · rw [if_pos heq, heq, hplace]
  · rcases hgrows loc with hsame | ⟨habove, -⟩
    · rw [if_neg heq, hsame, hclosed.none_below hnone hloc, Option.map_none, ite_self]
    · exact absurd (habove.eq_of_length_le hloc.length_le) heq

namespace Home

/-- What the path of the store names is the directory at its place. -/
theorem locate_eq_ok (h : Home w root place) {found : Location}
    (hfound : w.tree.locate w.directory root = .ok found) :
    found = place ∧ w.tree.get? place = some .directory := by
  rw [Tree.locate_eq h.valid_root h.root_ne_empty] at hfound
  rcases h.leads_tree.follow_cases h.clear with ⟨hfollow, hplace⟩ | hmissing
  · exact ⟨Except.ok.inj (hfound.symm.trans hfollow), hplace⟩
  · rw [hmissing] at hfound
    cases hfound

theorem erase (h : Home w root place) {loc : Location} (hloc : place <+: loc) (hne : loc ≠ [])
    (hleaf : w.tree.isLeaf loc) : Home { w with tree := w.tree.erase loc } root place := by
  refine h.of_outside (h.closed.erase hne hleaf) ?_ ?_
  · intro above habove contents hfile
    rw [Tree.get?_erase hne] at hfile
    split at hfile
    · cases hfile
    · exact h.clear above habove contents hfile
  · intro other node hother hnode
    rw [Tree.get?_erase hne, if_neg, hnode]
    rintro rfl
    exact hother hloc

theorem ne_nil_of_below (h : Home w root place) {loc : Location} (hloc : place <+: loc) :
    loc ≠ [] :=
  fun heq => h.below (List.prefix_nil.mp (heq ▸ hloc))

/-- Where there was no directory, one is made with nothing in it. -/
theorem run_makeRoot (h : Home w root place) (hnone : w.tree.get? place = Option.none) :
    ∃ tree, (Host.makeDirectories root : ExceptT FileError (StateM World) Unit) w =
        (.ok (), { w with tree }) ∧
      Home { w with tree } root place ∧ Bare tree place Option.none := by
  obtain ⟨tree, hmake, hgrows, hplace, -⟩ :=
    World.run_makeDirectories h.leads_tree h.clear h.valid_root (.inr h.ends)
  refine ⟨tree, hmake, ?_, bare_of_growsTo h.closed hnone hgrows hplace⟩
  exact h.of_outside (hgrows.closed h.closed) (hgrows.clear h.clear)
    fun loc node _ hnode => hgrows.extends loc node hnode

/-- The version file is written in a directory that has no directory of that name. -/
theorem run_writeVersion (h : Home w root place) {written : Option (List UInt8)}
    (hbare : Bare w.tree place written) (contents : List UInt8) :
    (Host.writeFile (versionPath root) contents : ExceptT FileError (StateM World) Unit) w =
        (.ok (), { w with tree := w.tree.set (place ++ ["VERSION"]) (.file contents) }) ∧
      Home { w with tree := w.tree.set (place ++ ["VERSION"]) (.file contents) } root place := by
  have hfree : w.tree.get? (place ++ ["VERSION"]) ≠ some .directory := by
    rw [hbare _ (List.prefix_append _ _), if_neg (by simp), if_pos rfl]
    cases written <;> exact nofun
  have hfollow := h.leads_tree.follow_eq_ok h.closed hbare.directory
  have hwrite := Tree.writeFile_join hfollow hbare.directory isName_version h.valid hfree contents
  refine ⟨?_, h.set_file (Tree.Grows.refl _ _) hbare.directory (List.prefix_refl _) hfree contents⟩
  change World.update _ _ = _
  rw [World.update, versionPath, hwrite]

theorem Laid.erase {t : Tree} (h : Laid t place) {loc : Location} (hne : loc ≠ []) :
    Laid (t.erase loc) place := by
  have hkept : ∀ {other node}, (t.erase loc).get? other = some node → t.get? other = some node := by
    intro other node hnode
    rw [Tree.get?_erase hne] at hnode
    split at hnode
    · cases hnode
    · exact hnode
  exact ⟨fun name contents hname hfile => h.bucket name contents hname (hkept hfile),
    fun bucket key hdirectory => h.entry bucket key (hkept hdirectory)⟩

end Home

/-! ## Steps of an opening -/

/-- The step belongs to an opening that was begun. -/
def Step.Inner : Step → Prop
  | begin _ => False
  | put _ _ _ _ => False
  | get _ _ _ _ => False
  | _ => True

/-- What a stage says about the files. -/
def Stage.Fits (t : Tree) (place : Location) (version : String) : Stage → Prop
  | closed => True
  | emptying => True
  | missing => t.get? place = Option.none
  | made => Bare t place Option.none
  | stamping written => Bare t place (some written)
  | opened => heldVersion? t place = some version

/-- A session whose files are those of its stage. -/
structure Session.Consistent (root : String) (place : Location) (s : Session) : Prop where
  home : Home s.world root place
  fits : s.stage.Fits s.world.tree place s.version

namespace Session

/-- The same session with another tree and at another stage. -/
def withTree (s : Session) (tree : Tree) (stage : Stage) : Session :=
  { s with world := { s.world with tree }, stage }

/-- The same session with these contents in the version file. -/
def stamp (s : Session) (place : Location) (written : List UInt8) : Session :=
  s.withTree (s.world.tree.set (place ++ ["VERSION"]) (.file written)) (.stamping written)

/-- What each step of an opening does to the files, and when it is taken. -/
inductive Moves (root : String) (place : Location) (s : Session) : Step → Session → Prop
  | remove {loc : Location} (stage : s.stage = .emptying)
    (there : s.world.tree.get? place = some .directory) (below : place <+: loc) (ne : loc ≠ place)
    (leaf : s.world.tree.isLeaf loc) :
    Moves root place s (.remove loc) (s.withTree (s.world.tree.erase loc) .emptying)
  | removeRoot (stage : s.stage = .emptying) (there : s.world.tree.get? place = some .directory)
    (leaf : s.world.tree.isLeaf place) :
    Moves root place s .removeRoot (s.withTree (s.world.tree.without place) .missing)
  | makeRoot {tree : Tree} (stage : s.stage = .missing)
    (make : (Host.makeDirectories root : ExceptT FileError (StateM World) Unit) s.world =
      (.ok (), { s.world with tree }))
    (home : Home { s.world with tree } root place) (bare : Bare tree place Option.none) :
    Moves root place s .makeRoot (s.withTree tree .made)
  | truncate (stage : s.stage = .made) (bare : Bare s.world.tree place Option.none) :
    Moves root place s .truncate (s.stamp place [])
  | write {written : List UInt8} {byte : UInt8} (stage : s.stage = .stamping written)
    (bare : Bare s.world.tree place (some written))
    (left : written ++ [byte] <+: Text.bytes s.version) :
    Moves root place s (.write byte) (s.stamp place (written ++ [byte]))
  | finish (stage : s.stage = .stamping (Text.bytes s.version))
    (bare : Bare s.world.tree place (some (Text.bytes s.version))) :
    Moves root place s .finish { s with stage := .opened }

variable {s s' : Session} {step : Step}

/-- An opening is begun where the files are. -/
theorem consistent_begin (h : Home s.world root place)
    (hstep : s.take? root (.begin version) = some s') : s'.Consistent root place := by
  cases hstep
  refine ⟨h, ?_⟩
  rw [h.run_storedVersion, h.run_pathExists]
  dsimp only
  split
  · next hsame => exact hsame
  · split
    · trivial
    · next habsent => exact Option.not_isSome_iff_eq_none.mp habsent

/-- The version file is emptied, or a byte is added to it. -/
theorem Consistent.eq_stamp (h : s.Consistent root place) {before : Option (List UInt8)}
    (hbare : Bare s.world.tree place before) {written : List UInt8}
    (hstep : s.perform (Host.writeFile (versionPath root) written) (.stamping written) = some s') :
    s' = s.stamp place written := by
  obtain ⟨hwrite, -⟩ := h.home.run_writeVersion hbare written
  rw [perform_of_ok hwrite, Option.some.injEq] at hstep
  exact hstep.symm

/-- A step of an opening that is taken does what it should. -/
theorem Consistent.moves (h : s.Consistent root place) (hinner : step.Inner)
    (hstep : s.take? root step = some s') : s.Moves root place step s' := by
  have hfits := h.fits
  cases step with
  | begin version => exact hinner.elim
  | put bucket key tag value => exact hinner.elim
  | get bucket key tag answer => exact hinner.elim
  | remove loc =>
    simp only [take?] at hstep
    split at hstep
    · next found hfound =>
      obtain ⟨rfl, hthere⟩ := h.home.locate_eq_ok hfound
      simp only [Option.ite_none_right_eq_some, Option.some.injEq] at hstep
      obtain ⟨⟨hstage, hloc, hne, -, hleaf⟩, rfl⟩ := hstep
      have hmoves : s.Moves root found (.remove loc) (s.withTree _ .emptying) :=
        .remove hstage hthere (List.isPrefixOf_iff_prefix.mp hloc) hne hleaf
      rwa [withTree, ← hstage] at hmoves
    · cases hstep
  | removeRoot =>
    simp only [take?] at hstep
    split at hstep
    · next found hfound =>
      obtain ⟨rfl, hthere⟩ := h.home.locate_eq_ok hfound
      rw [Option.ite_none_right_eq_some, perform_of_ok (h.home.run_removeTree hthere)] at hstep
      obtain ⟨⟨hstage, hleaf⟩, hstep⟩ := hstep
      cases hstep
      exact .removeRoot hstage hthere hleaf
    · cases hstep
  | makeRoot =>
    simp only [take?, Option.ite_none_right_eq_some] at hstep
    obtain ⟨hstage, hstep⟩ := hstep
    rw [hstage] at hfits
    obtain ⟨tree, hmake, hhome, hbare⟩ := h.home.run_makeRoot hfits
    rw [perform_of_ok hmake] at hstep
    cases hstep
    exact .makeRoot hstage hmake hhome hbare
  | truncate =>
    simp only [take?, Option.ite_none_right_eq_some] at hstep
    obtain ⟨hstage, hstep⟩ := hstep
    rw [hstage] at hfits
    rw [h.eq_stamp hfits hstep]
    exact .truncate hstage hfits
  | write byte =>
    simp only [take?] at hstep
    split at hstep
    · next written hstage =>
      rw [hstage] at hfits
      rw [Option.ite_none_right_eq_some] at hstep
      obtain ⟨hleft, hstep⟩ := hstep
      rw [h.eq_stamp hfits hstep]
      exact .write hstage hfits (List.isPrefixOf_iff_prefix.mp hleft)
    · cases hstep
  | finish =>
    simp only [take?, Option.ite_none_right_eq_some, Option.some.injEq] at hstep
    obtain ⟨hstage, rfl⟩ := hstep
    rw [hstage] at hfits
    exact .finish hstage hfits

namespace Moves

theorem version_eq (h : s.Moves root place step s') : s'.version = s.version := by
  cases h <;> rfl

theorem stage_ne_closed (h : s.Moves root place step s') : s.stage ≠ .closed := by
  intro hclosed
  cases h <;> simp_all

theorem begun?_eq_none (h : s.Moves root place step s') : step.begun? = Option.none := by
  cases h <;> rfl

/-- A step of an opening leads to files that fit the next stage. -/
theorem consistent (h : s.Moves root place step s') (hs : s.Consistent root place) :
    s'.Consistent root place := by
  cases h with
  | remove stage there below ne leaf =>
    exact ⟨hs.home.erase below (hs.home.ne_nil_of_below below) leaf, trivial⟩
  | removeRoot stage there leaf =>
    refine ⟨hs.home.without, ?_⟩
    exact (Tree.get?_without hs.home.below place).trans (if_pos (List.prefix_refl place))
  | makeRoot stage make home bare => exact ⟨home, bare⟩
  | truncate stage bare => exact ⟨(hs.home.run_writeVersion bare []).2, bare.set []⟩
  | write stage bare left => exact ⟨(hs.home.run_writeVersion bare _).2, bare.set _⟩
  | finish stage bare =>
    refine ⟨hs.home, ?_⟩
    change (Tree.contents? _ _).bind _ = _
    rw [bare.contents?_version]
    exact Text.ofBytes?_bytes s.version

end Moves

end Session

/-! ## What was put -/

/-- The contents are those of an entry that was put into a store of that version since the directory
was last removed. -/
def PutSince (past : List Step) (version bucket key : String) (contents : List UInt8) : Prop :=
  ∃ before tag value after, past = before ++ .put bucket key tag value :: after ∧
    '\n' ∉ tag.toList ∧ contents = Entry.encode tag value ∧ .removeRoot ∉ after ∧
    lastBegun? before = some version

theorem PutSince.concat {past : List Step} {contents : List UInt8}
    (h : PutSince past version bucket key contents) {step : Step} (hstep : step ≠ .removeRoot) :
    PutSince (past ++ [step]) version bucket key contents := by
  obtain ⟨before, tag, value, after, rfl, htag, hcontents, hafter, hversion⟩ := h
  refine ⟨before, tag, value, after ++ [step], by simp, htag, hcontents, ?_, hversion⟩
  rw [List.mem_append, List.mem_singleton, not_or]
  exact ⟨hafter, hstep.symm⟩

theorem lastBegun?_begin (past : List Step) (version : String) :
    lastBegun? (past ++ [.begin version]) = some version := by
  rw [lastBegun?, List.filterMap_append]
  exact List.getLast?_concat

theorem lastBegun?_concat (past : List Step) {step : Step} (h : step.begun? = Option.none) :
    lastBegun? (past ++ [step]) = lastBegun? past := by
  rw [lastBegun?, List.filterMap_append, List.filterMap_cons_none h, List.filterMap_nil,
    List.append_nil, lastBegun?]

/-! ## The invariant -/

/-- If a version can be read, then the entries were put under that version. -/
def Attested (t : Tree) (place : Location) (past : List Step) : Prop :=
  ∀ version, heldVersion? t place = some version → Home.Laid t place ∧
    ∀ bucket key contents, t.contents? (place ++ [bucket, key]) = some contents →
      PutSince past version bucket key contents

/-- What holds between any two steps. -/
structure Sound (root : String) (place : Location) (past : List Step) (s : Session) : Prop
    extends s.Consistent root place where
  attested : Attested s.world.tree place past
  version : s.stage ≠ .closed → lastBegun? past = some s.version

theorem Attested.concat {t : Tree} {past : List Step} (h : Attested t place past) {step : Step}
    (hstep : step ≠ .removeRoot) : Attested t place (past ++ [step]) := by
  intro version hversion
  obtain ⟨hlaid, hentries⟩ := h version hversion
  exact ⟨hlaid, fun bucket key contents hcontents => (hentries bucket key contents hcontents).concat hstep⟩

/-- Without a version there is nothing to attest. -/
theorem attested_of_none {t : Tree} (h : heldVersion? t place = Option.none) (past : List Step) :
    Attested t place past := by
  intro version hversion
  rw [h] at hversion
  cases hversion

/-- Without entries any version will do. -/
theorem Bare.attested {t : Tree} {written : Option (List UInt8)} (h : Bare t place written)
    (past : List Step) : Attested t place past := by
  intro version _
  refine ⟨h.laid, fun bucket key contents hcontents => ?_⟩
  rw [h.contents?_entry] at hcontents
  cases hcontents

/-- Removing one node leaves the version file as it is, or there is no version any more. -/
theorem Attested.erase {t : Tree} {past : List Step} (h : Attested t place past) {loc : Location}
    (hne : loc ≠ []) : Attested (t.erase loc) place past := by
  intro version hversion
  obtain ⟨contents, hfile, htext⟩ := Option.bind_eq_some_iff.mp hversion
  have hheld : heldVersion? t place = some version :=
    Option.bind_eq_some_iff.mpr ⟨contents, Tree.contents?_of_erase hne hfile, htext⟩
  obtain ⟨hlaid, hentries⟩ := h version hheld
  exact ⟨hlaid.erase hne, fun bucket key contents hcontents =>
    hentries bucket key contents (Tree.contents?_of_erase hne hcontents)⟩

theorem sound_start (h : Home w root place) (hnone : heldVersion? w.tree place = Option.none) :
    Sound root place [] (.start w) where
  home := h
  attested := attested_of_none hnone []
  version hstage := absurd rfl hstage
  fits := trivial

namespace Sound

variable {past : List Step} {s s' : Session}

/-! ### Steps -/

theorem begin (h : Sound root place past s) {version : String}
    (hstep : s.take? root (.begin version) = some s') :
    Sound root place (past ++ [.begin version]) s' := by
  refine ⟨Session.consistent_begin h.home hstep, ?_, fun _ => ?_⟩
  all_goals cases hstep
  · exact h.attested.concat nofun
  · exact lastBegun?_begin past version

/-- A step that does not begin an opening goes on with the version of the last one. -/
theorem version_concat (h : Sound root place past s) {step : Step} (hstep : step.begun? = Option.none)
    (hstage : s.stage ≠ .closed) : lastBegun? (past ++ [step]) = some s.version := by
  rw [lastBegun?_concat past hstep]
  exact h.version hstage

/-- A step of an opening leaves no entries, or attests those that it leaves. -/
theorem move (h : Sound root place past s) {step : Step} (hmoves : s.Moves root place step s') :
    Sound root place (past ++ [step]) s' := by
  have hversion : lastBegun? (past ++ [step]) = some s'.version := by
    rw [hmoves.version_eq]
    exact h.version_concat hmoves.begun?_eq_none hmoves.stage_ne_closed
  refine ⟨hmoves.consistent h.toConsistent, ?_, fun _ => hversion⟩
  cases hmoves with
  | remove stage there below ne leaf =>
    exact (h.attested.erase (h.home.ne_nil_of_below below)).concat (by simp)
  | removeRoot stage there leaf =>
    refine attested_of_none ?_ _
    change ((s.world.tree.without place).contents? _).bind _ = _
    rw [Tree.contents?, Tree.get?_without h.home.below, if_pos (List.prefix_append _ _)]
    rfl
  | makeRoot stage make home bare => exact bare.attested _
  | truncate stage bare => exact (bare.set []).attested _
  | write stage bare left => exact (bare.set _).attested _
  | finish stage bare => exact h.attested.concat (by simp)

theorem put (h : Sound root place past s) {bucket key tag : String} {value : List UInt8}
    (hplain : PlainEntry root bucket key)
    (hstep : s.take? root (.put bucket key tag value) = some s') :
    Sound root place (past ++ [.put bucket key tag value]) s' := by
  simp only [Session.take?] at hstep
  split at hstep
  · next hstage =>
    cases hstep
    have hheld := h.fits
    rw [hstage] at hheld
    have hversion := h.version (by simp [hstage])
    have hlast : lastBegun? (past ++ [.put bucket key tag value]) = some s.version :=
      h.version_concat rfl (by simp [hstage])
    by_cases htag : '\n' ∈ tag.toList
    · rw [run_put_refused htag]
      refine ⟨⟨h.home, ?_⟩, h.attested.concat nofun, fun _ => hlast⟩
      rw [hstage]
      exact hheld
    obtain ⟨hlaid, hentries⟩ := h.attested s.version hheld
    obtain ⟨tree, hput, hhome, hlaid', hcontents⟩ := h.home.run_put hlaid hplain htag value
    rw [hput]
    have hheld' : heldVersion? tree place = some s.version := by
      rw [heldVersion?, hcontents, if_neg (by simp)]
      exact hheld
    refine ⟨⟨hhome, ?_⟩, ?_, fun _ => hlast⟩
    · rw [hstage]
      exact hheld'
    · intro version hsame
      obtain rfl : s.version = version := Option.some.inj (hheld'.symm.trans hsame)
      refine ⟨hlaid', fun b k contents hfile => ?_⟩
      rw [hcontents] at hfile
      split at hfile
      · next hloc =>
        cases hfile
        obtain ⟨rfl, rfl⟩ : b = bucket ∧ k = key := by simpa using hloc
        exact ⟨past, tag, value, [], rfl, htag, rfl, List.not_mem_nil, hversion⟩
      · exact (hentries b k contents hfile).concat nofun
  · cases hstep

theorem get (h : Sound root place past s) {bucket key tag : String} {answer : Option (List UInt8)}
    (hstep : s.take? root (.get bucket key tag answer) = some s') :
    Sound root place (past ++ [.get bucket key tag answer]) s' := by
  simp only [Session.take?] at hstep
  split at hstep
  · next hguard =>
    cases hstep
    exact ⟨h.toConsistent, h.attested.concat nofun, fun hstage => h.version_concat rfl hstage⟩
  · cases hstep

/-- One step keeps the invariant. -/
theorem step (h : Sound root place past s) {step : Step} (hplain : step.Plain root)
    (hstep : s.take? root step = some s') : Sound root place (past ++ [step]) s' := by
  cases step with
  | begin version => exact h.begin hstep
  | put bucket key tag value => exact h.put hplain hstep
  | get bucket key tag answer => exact h.get hstep
  | _ => exact h.move (h.toConsistent.moves trivial hstep)

/-- So does every run. -/
theorem run {steps : List Step} (h : Sound root place past s)
    (hplain : ∀ step ∈ steps, step.Plain root) (hrun : s.run? root steps = some s') :
    Sound root place (past ++ steps) s' := by
  induction steps generalizing past s with
  | nil =>
    cases hrun
    rwa [List.append_nil]
  | cons step steps ih =>
    obtain ⟨hfirst, hrest⟩ := List.forall_mem_cons.mp hplain
    rw [Session.run?, List.foldlM_cons] at hrun
    obtain ⟨mid, hmid, hrun⟩ := Option.bind_eq_some_iff.mp hrun
    have hnext := ih (h.step hfirst hmid) hrest hrun
    rwa [List.append_assoc, List.singleton_append] at hnext

end Sound

/-! ## What is found -/

/-- Whatever opening is cut off where, a lookup that finds something finds what was put since the
directory was last removed, into a store of the version with which the one that looks it up was
opened. -/
theorem put_of_get {w : World} {root : String} {place : Location} (h : Home w root place)
    (hfirst : ((storedVersion root : StateM World _) w).1 = Option.none) {past rest : List Step}
    {bucket key tag : String} {value : List UInt8}
    (hplain : ∀ step ∈ past ++ .get bucket key tag (some value) :: rest, step.Plain root)
    (hrun : ((Session.start w).run? root
      (past ++ .get bucket key tag (some value) :: rest)).isSome) :
    ∃ before stored after version, past = before ++ .put bucket key stored value :: after ∧
      (tag = "" ∨ tag = stored) ∧ .removeRoot ∉ after ∧
      lastBegun? before = some version ∧ lastBegun? past = some version := by
  obtain ⟨last, hrun⟩ := Option.isSome_iff_exists.mp hrun
  rw [Session.run?, List.foldlM_append] at hrun
  obtain ⟨s, hpast, hrun⟩ := Option.bind_eq_some_iff.mp hrun
  rw [List.foldlM_cons] at hrun
  obtain ⟨s', hget, -⟩ := Option.bind_eq_some_iff.mp hrun
  rw [h.run_storedVersion] at hfirst
  have hsound := (sound_start h hfirst).run (fun step hmem => hplain step (List.mem_append_left _ hmem))
    hpast
  rw [List.nil_append] at hsound
  have hentry : PlainEntry root bucket key := hplain (.get bucket key tag (some value)) (by simp)
  simp only [Session.take?] at hget
  split at hget
  · next hguard =>
    obtain ⟨hstage, hanswer⟩ := hguard
    rw [hsound.home.run_get? hentry] at hanswer
    obtain ⟨contents, hfile, hdecode⟩ := Option.bind_eq_some_iff.mp hanswer
    have hheld := hsound.fits
    rw [hstage] at hheld
    obtain ⟨-, hentries⟩ := hsound.attested s.version hheld
    obtain ⟨before, stored, other, after, hsplit, htag, rfl, hafter, hversion⟩ :=
      hentries bucket key contents hfile
    rw [Entry.decode?_encode htag] at hdecode
    split at hdecode
    · next hasked =>
      cases hdecode
      exact ⟨before, stored, after, s.version, hsplit, hasked, hafter, hversion,
        hsound.version (by simp [hstage])⟩
    · cases hdecode
  · cases hget

/-- One opening is cut off when the first of the two characters of its version is written, which
are then read as a version of their own. Another is cut off when one of two entries is removed. -/
def interruptedSteps : List Step :=
  [.begin "12", .makeRoot, .truncate, .write 49, .begin "1", .put "a" "b" "t" [10],
    .put "a" "c" "" [], .begin "2", .remove ["cache", "a", "c"], .begin "1"]

theorem put_of_get_interrupted :
    ((Session.start ⟨.empty, [], [], []⟩).run? "cache"
        (interruptedSteps ++ .get "a" "b" "t" (some [10]) :: [])).isSome ∧
      ∃ before stored after version, interruptedSteps = before ++ .put "a" "b" stored [10] :: after ∧
        ("t" = "" ∨ "t" = stored) ∧ .removeRoot ∉ after ∧
        lastBegun? before = some version ∧ lastBegun? interruptedSteps = some version := by
  have hother : PlainEntry "cache" "a" "c" := by
    refine ⟨?_, by decide, ?_, by decide, by decide⟩
    · constructor <;> decide
    · constructor <;> decide
  have hplain : ∀ step ∈ interruptedSteps ++ .get "a" "b" "t" (some [10]) :: [],
      step.Plain "cache" := by
    simp [interruptedSteps, Step.Plain, plainEntry_cache, hother]
  have hrun : ((Session.start ⟨.empty, [], [], []⟩).run? "cache"
      (interruptedSteps ++ .get "a" "b" "t" (some [10]) :: [])).isSome := by
    decide +kernel
  exact ⟨hrun, put_of_get home_cache rfl hplain hrun⟩

end Store

end WikiMarkup
