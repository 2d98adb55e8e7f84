-- SUMMARY: What opening a store, storing an entry and looking one up do to the files below the store's directory.
import WikiMarkup.Proofs.Directories
import WikiMarkup.Proofs.TextBytes

/-!
# The files of a store

A store works where its directory can be made: the names of its path lead there over directories
that do not go with it when it is removed. `Home` says that, and every operation keeps it. What an
operation does is told by the contents of the files: opening with another version leaves the version
file alone, storing sets one entry, and looking up reads one.
-/

namespace WikiMarkup

/-! ## Files behind a path -/

namespace Tree

variable {t : Tree} {directory place : Location} {left right name : String}

theorem start_join_relative (h : Path.isAbsolute right = false) (directory : Location)
    (left : String) : start directory (Path.join left right) = start directory left := by
  rw [start, start, Path.isAbsolute_join_relative h]

theorem start_join (hname : Path.IsName name) (directory : Location) (left : String) :
    start directory (Path.join left name) = start directory left :=
  start_join_relative hname.isAbsolute directory left

theorem join_ne_empty (hname : Path.IsName name) (left : String) : Path.join left name ≠ "" := by
  intro hempty
  have hnames := Path.names_join hname left
  rw [hempty, Path.names_empty] at hnames
  simp at hnames

/-- Joining a name goes one step on. -/
theorem Leads.join (h : Leads t (start directory left) (Path.names left) place)
    (hname : Path.IsName name) :
    Leads t (start directory (Path.join left name)) (Path.names (Path.join left name))
      (place ++ [name]) := by
  rw [start_join hname, Path.names_join hname]
  exact h.behind hname

/-- What a path names is what is at the place to which its names lead, if no file is in the way of
what may stand behind them. -/
theorem Leads.find? {path : String} (h : Leads t (start directory path) (Path.names path) place)
    (hclosed : t.Closed) (hclear : t.Clear place) (hvalid : Path.Valid path) (hne : path ≠ "") :
    t.find? directory path = t.get? place := by
  rw [Tree.find?, locate_eq hvalid hne]
  rcases h.follow_cases hclear with ⟨hfollow, hplace⟩ | hmissing
  · rw [hfollow]
  · rw [hmissing]
    cases hnode : t.get? place with
    | none => rfl
    | some node =>
      rw [hclear.directory hnode] at hnode
      rw [follow_of_filter hnode (h.follow_eq_ok hclosed hnode)] at hmissing
      cases hmissing

/-- Nothing stands behind a joined name, so it may also be that of a file. -/
theorem Leads.find?_join (h : Leads t (start directory left) (Path.names left) place)
    (hclosed : t.Closed) (hname : Path.IsName name) (hvalid : Path.Valid (Path.join left name)) :
    t.find? directory (Path.join left name) = t.get? (place ++ [name]) := by
  obtain ⟨before, hpieces, hbefore⟩ := Path.pieces_join hname left
  rw [Tree.find?, locate_eq hvalid (join_ne_empty hname left), start_join hname, hpieces]
  cases hnode : t.get? (place ++ [name]) with
  | some node =>
    have hplace := hclosed.above hnode
    have hfollow : t.follow (start directory left) before = .ok place :=
      follow_of_filter hplace (hbefore ▸ h.follow_eq_ok hclosed hplace)
    rw [follow_append_of_ok hfollow, follow_singleton, step_name hplace hname, hnode]
    exact hnode
  | none =>
    cases hfollow : t.follow (start directory left) (before ++ [name]) with
    | error e => rfl
    | ok loc =>
      have hnames : (before ++ [name]).filter Path.leadsOn = Path.names left ++ [name] := by
        rw [List.filter_append, hbefore, List.filter_cons_of_pos hname.leadsOn]
        rfl
      have hloc := Leads.eq_of_follow_pieces (hnames ▸ h.behind hname) hfollow
      exact (congrArg t.get? hloc).trans hnode

theorem toOption_readFile (t : Tree) (directory : Location) (path : String) :
    (t.readFile directory path).toOption =
      match t.find? directory path with
      | some (.file contents) => some contents
      | _ => none := by
  rw [readFile, find?]
  cases t.locate directory path with
  | error e => rfl
  | ok place =>
    simp only [bind, Except.bind, Except.toOption]
    rcases t.get? place with _ | (_ | _) <;> rfl

/-- Reading behind a path gives the contents of the file that is there. -/
theorem Leads.readFile_join (h : Leads t (start directory left) (Path.names left) place)
    (hclosed : t.Closed) (hname : Path.IsName name) (hvalid : Path.Valid (Path.join left name)) :
    (t.readFile directory (Path.join left name)).toOption = t.contents? (place ++ [name]) := by
  rw [toOption_readFile, h.find?_join hclosed hname hvalid]
  rfl

/-- Writing behind a path that is found sets a file, unless a directory is there. -/
theorem writeFile_join (hfollow : t.follow (start directory left) (Path.names left) = .ok place)
    (hplace : t.get? place = some .directory) (hname : Path.IsName name)
    (hvalid : Path.Valid (Path.join left name)) (hfree : t.get? (place ++ [name]) ≠ some .directory)
    (contents : List UInt8) :
    t.writeFile directory (Path.join left name) contents =
      .ok (t.set (place ++ [name]) (.file contents)) := by
  obtain ⟨before, hpieces, hbefore⟩ := Path.pieces_join hname left
  have hdots : ¬ (Path.endsWithSlash (Path.join left name) ∨ name = "." ∨ name = "..") := by
    rw [Path.endsWithSlash_join hname]
    simp [hname.ne_here, hname.ne_up]
  have hstart : t.follow (start directory (Path.join left name)) before = .ok place := by
    rw [start_join hname]
    exact follow_of_filter hplace (hbefore ▸ hfollow)
  have htrimmed : trimmedPieces (Path.join left name) = before ++ [name] :=
    @Path.trimmedPieces_eq _ _ _ 0 hpieces hname.leadsOn
  rw [writeFile, htrimmed, locateNew_of_follow hvalid (join_ne_empty hname left) hstart hplace]
  change (if _ then _ else if _ then _ else _) = _
  rw [if_neg hdots, if_neg (Nat.not_lt.mpr hname.fits)]
  split
  · next hthere => exact absurd hthere hfree
  · rfl

end Tree

/-! ## Runs of the operations -/

namespace Store

section

variable {σ : Type} [Host (StateM σ)]

theorem run_storedVersion (root : String) (s : σ) :
    (storedVersion root : StateM σ (Option String)) s =
      match (Host.readFile (versionPath root) : ExceptT FileError (StateM σ) (List UInt8)) s with
      | (read, s') => (read.toOption.bind Text.ofBytes?, s') := by
  have hread : ExceptT.run (Host.readText (versionPath root) :
      ExceptT FileError (StateM σ) String) s = _ :=
    Host.run_bind (Host.readFile (versionPath root)) Host.asText s
  rw [storedVersion, Host.run_state_bind, hread]
  rcases (Host.readFile (versionPath root) : ExceptT FileError (StateM σ) (List UInt8)) s with
    ⟨e | contents, s'⟩
  · rfl
  · dsimp only [Host.asText, Except.toOption, Option.bind_some]
    cases Text.ofBytes? contents <;> rfl

theorem run_openAt (root version : String) (s : σ) :
    (openAt root version : StateM σ Store) s =
      (.files root, ((prepare root version : ExceptT FileError (StateM σ) Unit) s).2) := rfl

theorem run_get? (root bucket key tag : String) (s : σ) :
    (get? (.files root) bucket key tag : StateM σ (Option (List UInt8))) s =
      match (Host.readFile (entryPath root bucket key) :
        ExceptT FileError (StateM σ) (List UInt8)) s with
      | (read, s') => (read.toOption.bind (Entry.decode? tag), s') := by
  rw [get?, Host.run_state_bind, ExceptT.run]
  rcases (Host.readFile (entryPath root bucket key) : ExceptT FileError (StateM σ) (List UInt8)) s
    with ⟨e | contents, s'⟩ <;> rfl

theorem run_put {tag : String} (h : '\n' ∉ tag.toList) (root bucket key : String)
    (value : List UInt8) (s : σ) :
    (put (.files root) bucket key tag value : StateM σ Unit) s =
      ((), ((writeWithParents (entryPath root bucket key) (Entry.encode tag value) :
        ExceptT FileError (StateM σ) Unit) s).2) := by
  rw [put, if_neg (by simpa using h)]
  rfl

/-- Under a tag of several lines nothing is stored. -/
theorem run_put_refused {tag : String} (h : '\n' ∈ tag.toList) (store : Store)
    (bucket key : String) (value : List UInt8) (s : σ) :
    (put store bucket key tag value : StateM σ Unit) s = ((), s) := by
  cases store with
  | none => rfl
  | files root =>
    rw [put, if_pos (by simpa using h)]
    rfl

end

/-! ## Where a store works -/

/-- The names of the path lead to the place of the store, over directories that are not removed
with it, and no file is in the way. -/
structure Home (w : World) (root : String) (place : Location) : Prop where
  closed : w.tree.Closed
  below : place ≠ []
  leads : (w.tree.without place).Leads (Tree.start w.directory root) (Path.names root) place
  clear : w.tree.Clear place
  ends : Path.EndsInName root
  valid : Path.Valid (versionPath root)

/-- The names of an entry can stand in a path of which the file system accepts the length. The
bucket is not the version file. -/
structure PlainEntry (root bucket key : String) : Prop where
  isName_bucket : Path.IsName bucket
  ne_version : bucket ≠ "VERSION"
  isName_key : Path.IsName key
  valid : Path.Valid (entryPath root bucket key)

theorem isName_version : Path.IsName "VERSION" := by
  constructor <;> decide

namespace Home

variable {w : World} {root version : String} {place : Location}

/-- What happens at the place and below it does not matter, as long as no file is put there. -/
theorem of_outside (h : Home w root place) {tree : Tree} (hclosed : tree.Closed)
    (hclear : tree.Clear place)
    (houtside : ∀ loc node, ¬ place <+: loc → w.tree.get? loc = some node →
      tree.get? loc = some node) :
    Home { w with tree } root place := by
  refine ⟨hclosed, h.below, h.leads.extend ?_, hclear, h.ends, h.valid⟩
  intro loc node hnode
  rw [Tree.get?_without h.below] at hnode ⊢
  split at hnode
  · cases hnode
  · next hloc => rw [if_neg hloc, houtside loc node hloc hnode]

/-- A file that is made behind the place of a store, with the directories on the way, is nowhere else. -/
theorem set_file (h : Home w root place) {mid : Tree} {above : Location} {name : String}
    (hgrows : w.tree.GrowsTo mid above) (habove : mid.get? above = some .directory)
    (hplace : place <+: above) (hfree : mid.get? (above ++ [name]) ≠ some .directory)
    (contents : List UInt8) :
    Home { w with tree := mid.set (above ++ [name]) (.file contents) } root place := by
  refine h.of_outside ((hgrows.closed h.closed).set habove (.inr hfree)) ?_ ?_
  · intro loc hloc other
    have hne : loc ≠ above ++ [name] := by
      rintro rfl
      have hlength : above.length + 1 ≤ above.length := by simpa using (hloc.trans hplace).length_le
      omega
    rw [Tree.get?_set (by simp), if_neg hne]
    exact hgrows.clear h.clear loc hloc other
  · intro loc node hloc hnode
    have hne : loc ≠ above ++ [name] := by
      rintro rfl
      exact hloc (hplace.trans (List.prefix_append _ _))
    rw [Tree.get?_set (by simp), if_neg hne]
    exact hgrows.extends _ _ hnode

theorem leads_tree (h : Home w root place) :
    w.tree.Leads (Tree.start w.directory root) (Path.names root) place := by
  refine h.leads.extend fun loc node hnode => ?_
  rw [Tree.get?_without h.below] at hnode
  split at hnode
  · cases hnode
  · exact hnode

/-- The last name of the path is that of the directory that is removed and made again. -/
theorem trimmedPieces (h : Home w root place) :
    ∃ before name, Tree.trimmedPieces root = before ++ [name] ∧ Path.IsName name := by
  obtain ⟨before, name, count, hpieces, hname⟩ := h.ends
  refine ⟨before, name, Path.trimmedPieces_eq hpieces hname, ?_⟩
  have hleads := h.leads
  have hnames := Path.names_of_pieces hpieces hname
  generalize Path.names root = names at hleads hnames
  generalize hplace : place = removed at hleads
  cases hleads with
  | found hfollow hthere =>
    rw [← hplace, Tree.get?_without h.below, if_pos (List.prefix_refl _)] at hthere
    cases hthere
  | behind _ hlast =>
    obtain ⟨-, hsame⟩ := List.append_inj' hnames rfl
    exact List.singleton_inj.mp hsame ▸ hlast

theorem valid_root (h : Home w root place) : Path.Valid root := by
  have hvalid := h.valid
  rw [versionPath] at hvalid
  rcases Path.join_cases isName_version.isAbsolute root with ⟨rfl, -⟩ | ⟨-, before, hbefore | rfl, hjoin⟩
  · exact ⟨by decide, by decide⟩
  · rw [hjoin, ← hbefore] at hvalid
    exact hvalid.of_append
  · rw [hjoin, String.append_assoc] at hvalid
    exact hvalid.of_append

theorem root_ne_empty (h : Home w root place) : root ≠ "" := by
  rintro rfl
  obtain ⟨before, name, htrimmed, -⟩ := h.trimmedPieces
  cases before <;> cases htrimmed

/-- A name in the current directory is a place for a store, unless a file has it. -/
theorem of_isName (hclosed : w.tree.Closed) (hname : Path.IsName root)
    (hdirectory : w.tree.get? w.directory = some .directory)
    (hfree : ∀ contents, w.tree.get? (w.directory ++ [root]) ≠ some (.file contents)) :
    Home w root (w.directory ++ [root]) := by
  have hpieces := Path.pieces_of_no_slash hname.no_slash
  have hnames : Path.names root = [] ++ [root] := hname.names
  have hstart : Tree.start w.directory root = w.directory := by
    rw [Tree.start, Path.isAbsolute_of_no_slash hname.no_slash]
    rfl
  have hbelow : w.directory ++ [root] ≠ [] := by simp
  refine ⟨hclosed, hbelow, ?_, ?_, ⟨[], root, 0, hpieces, hname.leadsOn⟩, ?_, ?_⟩
  · rw [hstart, hnames]
    refine .behind (.found rfl ?_) hname
    have hnot : ¬ w.directory ++ [root] <+: w.directory := by
      intro hloc
      have hlength : w.directory.length + 1 ≤ w.directory.length := by simpa using hloc.length_le
      omega
    rw [Tree.get?_without hbelow, if_neg hnot, hdirectory]
  · intro loc hloc contents hfile
    rcases List.prefix_concat_iff.mp hloc with rfl | ⟨rest, hrest⟩
    · exact hfree contents hfile
    · rw [← hrest] at hdirectory
      cases rest with
      | nil =>
        rw [List.append_nil, hfile] at hdirectory
        cases hdirectory
      | cons next rest =>
        rw [hclosed.above hdirectory] at hfile
        cases hfile
  · exact Path.no_nul_join isName_version hname.no_nul
  · calc (versionPath root).utf8ByteSize
        ≤ root.utf8ByteSize + 1 + "VERSION".utf8ByteSize :=
          Path.utf8ByteSize_join_le isName_version root
      _ ≤ Tree.maxName + 1 + "VERSION".utf8ByteSize := by
          have hfits := hname.fits
          omega
      _ < Tree.maxPath := by decide

/-- In a tree without nodes every name is a place for a store. -/
theorem of_empty (hname : Path.IsName root) : Home ⟨.empty, [], [], []⟩ root [root] :=
  .of_isName Tree.closed_empty hname rfl fun _ => nofun

/-! ## Opening -/

/-- A store with a version and without entries. -/
def Fresh (t : Tree) (place : Location) (version : String) : Prop :=
  ∀ loc, place <+: loc → t.get? loc =
    if loc = place then some .directory
    else if loc = place ++ ["VERSION"] then some (.file (Text.bytes version))
    else Option.none

theorem run_storedVersion (h : Home w root place) :
    (storedVersion root : StateM World (Option String)) w =
      ((w.tree.contents? (place ++ ["VERSION"])).bind Text.ofBytes?, w) := by
  rw [Store.run_storedVersion, ← h.leads_tree.readFile_join h.closed isName_version h.valid]
  rfl

/-- In a tree without nodes no version is stored. -/
theorem storedVersion_empty (hname : Path.IsName root) (version : String) :
    ((storedVersion root : StateM World (Option String)) ⟨.empty, [], [], []⟩).1 ≠ some version := by
  rw [(of_empty hname).run_storedVersion]
  exact nofun

theorem run_pathExists (h : Home w root place) :
    (Host.pathExists root : StateM World Bool) w = ((w.tree.get? place).isSome, w) := by
  have hfind := h.leads_tree.find? h.closed h.clear h.valid_root h.root_ne_empty
  rw [← hfind]
  change ((Option.map _ (w.tree.find? w.directory root)).isSome, w) = _
  rw [Option.isSome_map]

theorem run_removeTree (h : Home w root place) (hplace : w.tree.get? place = some .directory) :
    (Host.removeTree root : ExceptT FileError (StateM World) Unit) w =
      (.ok (), { w with tree := w.tree.without place }) := by
  obtain ⟨before, name, htrimmed, hname⟩ := h.trimmedPieces
  have hlocate : w.tree.locate w.directory root = .ok place := by
    rw [Tree.locate_eq h.valid_root h.root_ne_empty]
    exact Tree.follow_of_filter hplace (h.leads_tree.follow_eq_ok h.closed hplace)
  have hremove : w.tree.removeTree w.directory root = (.ok (), w.tree.without place) := by
    rw [Tree.removeTree, hlocate]
    dsimp only
    rw [hplace]
    dsimp only
    rw [htrimmed, List.getLast?_concat]
    split
    · next heq => cases heq
    · next heq => exact absurd (Option.some.inj heq) hname.ne_here
    · next heq => exact absurd (Option.some.inj heq) hname.ne_up
    · rfl
  change ((w.tree.removeTree w.directory root).1,
    { w with tree := (w.tree.removeTree w.directory root).2 }) = _
  rw [hremove]

theorem without (h : Home w root place) :
    Home { w with tree := w.tree.without place } root place := by
  refine h.of_outside (h.closed.without h.below) ?_ ?_
  · intro loc hloc contents hfile
    rw [Tree.get?_without h.below] at hfile
    split at hfile
    · cases hfile
    · exact h.clear loc hloc contents hfile
  · intro loc node hloc hnode
    rw [Tree.get?_without h.below, if_neg hloc, hnode]

/-- The directory and the version file are made where there is nothing. -/
theorem run_make (h : Home w root place) (hnone : w.tree.get? place = Option.none) (version : String) :
    ∃ tree, (do
        Host.makeDirectories root
        Host.writeFile (versionPath root) (Text.bytes version) :
        ExceptT FileError (StateM World) Unit) w = (.ok (), { w with tree }) ∧
      Home { w with tree } root place ∧ Fresh tree place version := by
  obtain ⟨mid, hmake, hgrows, hplace, hfollow⟩ :=
    World.run_makeDirectories h.leads_tree h.clear h.valid_root (.inr h.ends)
  have hbelow : ∀ loc, place <+: loc → loc ≠ place → mid.get? loc = Option.none := by
    intro loc hloc hne
    rcases hgrows loc with hsame | ⟨habove, -⟩
    · rw [hsame]
      exact h.closed.none_below hnone hloc
    · exact absurd (habove.eq_of_length_le hloc.length_le) hne
  have hversion : mid.get? (place ++ ["VERSION"]) = Option.none :=
    hbelow _ (List.prefix_append _ _) (by simp)
  have hfree : mid.get? (place ++ ["VERSION"]) ≠ some .directory := by
    rw [hversion]
    exact nofun
  have hwrite := Tree.writeFile_join hfollow hplace isName_version h.valid hfree (Text.bytes version)
  refine ⟨mid.set (place ++ ["VERSION"]) (.file (Text.bytes version)), ?_, ?_, ?_⟩
  · rw [Host.run_bind, hmake]
    change World.update _ _ = _
    rw [World.update]
    dsimp only
    rw [versionPath, hwrite]
  · exact h.set_file hgrows hplace (List.prefix_refl _) hfree _
  · intro loc hloc
    rw [Tree.get?_set (by simp)]
    by_cases heq : loc = place
    · subst heq
      rw [if_neg (by simp), if_pos rfl, hplace]
    · rw [if_neg heq, hbelow loc hloc heq]

/-- Opening with the version that is stored changes nothing. -/
theorem run_openAt_same (h : Home w root place)
    (hversion : (w.tree.contents? (place ++ ["VERSION"])).bind Text.ofBytes? = some version) :
    (openAt root version : StateM World Store) w = (.files root, w) := by
  rw [run_openAt, prepare, Host.run_bind, Host.run_lift, h.run_storedVersion]
  dsimp only
  rw [if_pos hversion]
  rfl

/-- Opening with another version leaves a store without entries. -/
theorem run_openAt_other (h : Home w root place)
    (hversion : (w.tree.contents? (place ++ ["VERSION"])).bind Text.ofBytes? ≠ some version) :
    ∃ tree, (openAt root version : StateM World Store) w = (.files root, { w with tree }) ∧
      Home { w with tree } root place ∧ Fresh tree place version := by
  rw [run_openAt, prepare, Host.run_bind, Host.run_lift, h.run_storedVersion]
  dsimp only
  rw [if_neg hversion, Host.run_bind, Host.run_lift, h.run_pathExists]
  dsimp only
  cases hplace : w.tree.get? place with
  | none =>
    rw [if_neg (by simp)]
    obtain ⟨tree, hrun, hhome, hfresh⟩ := h.run_make hplace version
    exact ⟨tree, by rw [hrun], hhome, hfresh⟩
  | some node =>
    rw [h.clear.directory hplace] at hplace
    have hnone : (w.tree.without place).get? place = Option.none := by
      rw [Tree.get?_without h.below, if_pos (List.prefix_refl _)]
    obtain ⟨tree, hrun, hhome, hfresh⟩ := h.without.run_make hnone version
    refine ⟨tree, ?_, hhome, hfresh⟩
    rw [if_pos Option.isSome_some, Host.run_bind, h.run_removeTree hplace]
    dsimp only
    rw [hrun]

/-! ## Entries -/

variable {bucket key tag : String}

/-- Where directories of entries go there is no file, and where entries go no directory. -/
structure Laid (t : Tree) (place : Location) : Prop where
  bucket : ∀ name contents, name ≠ "VERSION" → t.get? (place ++ [name]) ≠ some (.file contents)
  entry : ∀ bucket key, t.get? (place ++ [bucket, key]) ≠ some .directory

theorem Fresh.laid {t : Tree} (h : Fresh t place version) : Laid t place := by
  constructor
  · intro name contents hname
    rw [h _ (List.prefix_append _ _), if_neg (by simp), if_neg (by simpa using hname)]
    exact nofun
  · intro bucket key
    rw [h _ (List.prefix_append _ _), if_neg (by simp), if_neg (by simp)]
    exact nofun

/-- Making the directory of an entry puts one neither above the others nor in place of an entry. -/
theorem Laid.grow {t t' : Tree} (h : Laid t place) (hgrows : t.GrowsTo t' (place ++ [bucket])) :
    Laid t' place := by
  constructor
  · intro name contents hname
    rcases hgrows (place ++ [name]) with hsame | ⟨-, -, hdirectory, -⟩
    · rw [hsame]
      exact h.bucket name contents hname
    · rw [hdirectory]
      exact nofun
  · intro other key
    rcases hgrows (place ++ [other, key]) with hsame | ⟨hloc, -⟩
    · rw [hsame]
      exact h.entry other key
    · have hlength : place.length + 2 ≤ place.length + 1 := by simpa using hloc.length_le
      omega

theorem Laid.set {t : Tree} (h : Laid t place) (contents : List UInt8) :
    Laid (t.set (place ++ [bucket, key]) (.file contents)) place := by
  constructor
  · intro name other hname
    rw [Tree.get?_set (by simp), if_neg (by simp)]
    exact h.bucket name other hname
  · intro other name
    rw [Tree.get?_set (by simp)]
    split
    · exact nofun
    · exact h.entry other name

/-- An entry is looked up in its file. -/
theorem run_get? (h : Home w root place) (hplain : PlainEntry root bucket key) (tag : String) :
    (get? (.files root) bucket key tag : StateM World (Option (List UInt8))) w =
      ((w.tree.contents? (place ++ [bucket, key])).bind (Entry.decode? tag), w) := by
  have hleads := h.leads_tree.join hplain.isName_bucket
  have hread := hleads.readFile_join h.closed hplain.isName_key hplain.valid
  rw [List.append_assoc, List.singleton_append] at hread
  rw [Store.run_get?, ← hread]
  rfl

/-- The directory of an entry is made as far as it is missing, and its file is written. -/
theorem run_writeWithParents (h : Home w root place) (hlaid : Laid w.tree place)
    (hplain : PlainEntry root bucket key) (contents : List UInt8) :
    ∃ mid, w.tree.GrowsTo mid (place ++ [bucket]) ∧
      mid.get? (place ++ [bucket]) = some .directory ∧
      (writeWithParents (entryPath root bucket key) contents :
          ExceptT FileError (StateM World) Unit) w =
        (.ok (), { w with tree := mid.set (place ++ [bucket, key]) (.file contents) }) := by
  have hkey := hplain.isName_key
  have hvalid := hplain.valid
  have hleads := h.leads_tree.join hplain.isName_bucket
  have hclear : w.tree.Clear (place ++ [bucket]) := by
    intro loc hloc contents
    rcases List.prefix_concat_iff.mp hloc with rfl | hloc
    · exact hlaid.bucket bucket contents hplain.ne_version
    · exact h.clear loc hloc contents
  obtain ⟨before, hpieces, hbefore⟩ := Path.pieces_join hkey (Path.join root bucket)
  obtain ⟨parent, rest, hparent, htext, habsolute, hnames, hend⟩ :=
    @Path.parent?_spec _ _ _ 0 hpieces hkey.leadsOn
  rw [hbefore] at hnames
  have hstart : Tree.start w.directory parent = Tree.start w.directory (Path.join root bucket) := by
    rw [Tree.start, Tree.start, habsolute, Path.isAbsolute_join hkey]
  have hparentValid : Path.Valid parent := by
    rw [entryPath, htext] at hvalid
    exact hvalid.of_append
  have hleadsParent : w.tree.Leads (Tree.start w.directory parent) (Path.names parent)
      (place ++ [bucket]) := by
    rw [hstart, hnames]
    exact hleads
  obtain ⟨mid, hmake, hgrows, hplace, hfollow⟩ :=
    World.run_makeDirectories hleadsParent hclear hparentValid hend
  rw [hstart, hnames] at hfollow
  have hentry : place ++ [bucket] ++ [key] = place ++ [bucket, key] := by simp
  have hfree : mid.get? (place ++ [bucket] ++ [key]) ≠ some .directory := by
    rw [hentry]
    exact (hlaid.grow hgrows).entry bucket key
  have hwrite := Tree.writeFile_join hfollow hplace hkey hvalid hfree contents
  rw [hentry] at hwrite
  refine ⟨mid, hgrows, hplace, ?_⟩
  rw [writeWithParents, entryPath, hparent]
  dsimp only
  rw [Host.run_bind, hmake]
  change World.update _ _ = _
  rw [World.update]
  dsimp only
  rw [hwrite]

/-- Storing sets the file of the entry and no other. -/
theorem run_put (h : Home w root place) (hlaid : Laid w.tree place)
    (hplain : PlainEntry root bucket key) (htag : '\n' ∉ tag.toList) (value : List UInt8) :
    ∃ tree, (put (.files root) bucket key tag value : StateM World Unit) w =
        ((), { w with tree }) ∧
      Home { w with tree } root place ∧ Laid tree place ∧
      ∀ loc, tree.contents? loc =
        if loc = place ++ [bucket, key] then some (Entry.encode tag value)
        else w.tree.contents? loc := by
  obtain ⟨mid, hgrows, hplace, hwrite⟩ :=
    h.run_writeWithParents hlaid hplain (Entry.encode tag value)
  have hlaidMid := hlaid.grow hgrows
  have hentry : place ++ [bucket] ++ [key] = place ++ [bucket, key] := by simp
  have hget : ∀ loc, (mid.set (place ++ [bucket, key]) (.file (Entry.encode tag value))).get? loc =
      if loc = place ++ [bucket, key] then some (.file (Entry.encode tag value))
      else mid.get? loc := Tree.get?_set (by simp) _
  have hfree : mid.get? (place ++ [bucket] ++ [key]) ≠ some .directory := by
    rw [hentry]
    exact hlaidMid.entry bucket key
  have hhome := h.set_file hgrows hplace (List.prefix_append _ _) hfree (Entry.encode tag value)
  rw [hentry] at hhome
  refine ⟨_, by rw [Store.run_put htag, hwrite], hhome, hlaidMid.set _, ?_⟩
  · intro loc
    rw [← hgrows.contents?_eq loc, Tree.contents?, hget]
    by_cases hloc : loc = place ++ [bucket, key]
    · rw [if_pos hloc, if_pos hloc]
    · rw [if_neg hloc, if_neg hloc, Tree.contents?]

end Home

end Store

end WikiMarkup
