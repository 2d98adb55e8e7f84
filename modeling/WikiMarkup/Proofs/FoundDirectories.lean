-- SUMMARY: Directories to which a path is followed, and that a file behind one is read only if it is found.
import WikiMarkup.Proofs.TreeChanges

/-!
# Directories that are found

`Found` says that a path leads to a directory that is there. Then all that is passed on the way are
directories, so the path is found in every tree that has them too. A file can be read behind a path
only if it is found; what is read then is what the tree has at that place.
-/

namespace WikiMarkup.Tree

variable {t t' : Tree} {here place directory : Location} {names : List String}
  {root name path : String}

/-! ## Directories on the way -/

/-- A step that is taken in one tree is taken in another one that has directories there. -/
theorem step_of_directory {piece : String} {next : Location} (h : t.step here piece = .ok next)
    (hhere : t'.get? here = some .directory) (hnext : t'.get? next = some .directory) :
    t'.step here piece = .ok next := by
  rw [step, directory_of_step h] at h
  rw [step, hhere]
  dsimp only at h ⊢
  split at h
  · next hsilent => rw [if_pos hsilent, h]
  next hsilent =>
  rw [if_neg hsilent]
  split at h
  · next hup => rw [if_pos hup, h]
  next hup =>
  rw [if_neg hup]
  split at h
  · cases h
  next hfits =>
  rw [if_neg hfits]
  split at h
  · rw [Except.ok.inj h, hnext]
    rfl
  · cases h

/-- Names are followed in another tree if they pass only directories there. -/
theorem follow_of_directories (h : t.follow here names = .ok place)
    (hleads : ∀ name ∈ names, Path.leadsOn name)
    (hpassed : ∀ first, first <+: names → t'.get? (resolve here first) = some .directory) :
    t'.follow here names = .ok place := by
  induction names generalizing here with
  | nil => exact h
  | cons name names ih =>
    obtain ⟨next, hstep, hrest⟩ := follow_cons_eq_ok h
    have hname := hleads name List.mem_cons_self
    have hnext : ∀ first, resolve here (name :: first) = resolve next first := fun first => by
      rw [resolve, ← step_leadsOn hname hstep]
    have hthere := hpassed [name] ((List.prefix_cons_inj name).mpr List.nil_prefix)
    rw [hnext, resolve] at hthere
    rw [follow_cons (step_of_directory hstep (hpassed [] List.nil_prefix) hthere)]
    refine ih hrest (fun other hother => hleads other (List.mem_cons_of_mem _ hother)) ?_
    intro first hfirst
    rw [← hnext]
    exact hpassed _ ((List.prefix_cons_inj name).mpr hfirst)

/-- The path leads to a directory that is there. -/
structure Found (t : Tree) (directory : Location) (path : String) : Prop where
  follow : t.follow (start directory path) (Path.names path) = .ok (destination directory path)
  directory : t.get? (destination directory path) = some .directory

theorem found_of_find? (h : t.find? directory path = some .directory) :
    Found t directory path := by
  rw [find?] at h
  cases hlocate : t.locate directory path with
  | error e => rw [hlocate] at h; cases h
  | ok place =>
    rw [hlocate] at h
    have hplace := locate_eq_ok hlocate
    subst hplace
    exact ⟨follow_filter_of_ok (follow_of_locate hlocate), h⟩

theorem leadsOn_of_mem_names (h : name ∈ Path.names path) : Path.leadsOn name :=
  (List.mem_filter.mp h).2

/-- Every place that is passed is a directory. -/
theorem Found.onWay (h : Found t directory path) {loc : Location} (hloc : OnWay directory path loc) :
    t.get? loc = some .directory := by
  obtain ⟨names, ⟨rest, hrest⟩, rfl⟩ := hloc
  have hfollow := h.follow
  rw [← hrest] at hfollow
  obtain ⟨next, hbefore, hafter⟩ := follow_append_eq_ok hfollow
  have hnext : next = resolve (start directory path) names := by
    rw [follow_eq_resolve hbefore, List.filter_eq_self.mpr]
    exact fun name hname => leadsOn_of_mem_names (hrest ▸ List.mem_append_left _ hname)
  cases rest with
  | nil =>
    have hplace := Except.ok.inj hafter
    rw [← hnext, hplace]
    exact h.directory
  | cons name rest =>
    obtain ⟨_, hstep, -⟩ := follow_cons_eq_ok hafter
    exact hnext ▸ directory_of_step hstep

/-- A directory is found in another tree if all that is passed are directories there. -/
theorem Found.of_onWay (h : Found t directory path)
    (hpassed : ∀ loc, OnWay directory path loc → t'.get? loc = some .directory) :
    Found t' directory path :=
  ⟨follow_of_directories h.follow (fun _ => leadsOn_of_mem_names)
    fun first hfirst => hpassed _ ⟨first, hfirst, rfl⟩,
    hpassed _ ⟨Path.names path, List.prefix_refl _, rfl⟩⟩

theorem Closed.directory_of_prefix (h : Closed t) (hplace : t.get? place = some .directory)
    {loc : Location} (hloc : loc <+: place) : t.get? loc = some .directory := by
  obtain ⟨rest, rfl⟩ := hloc
  cases rest with
  | nil => rwa [List.append_nil] at hplace
  | cons name rest => exact h.above hplace

/-! ## Reading -/

/-- Where a file is read behind a name in a directory, the directory is found and the name is
there. -/
theorem found_of_readFile {contents : List UInt8} {rest : List String}
    (h : (t.readFile directory path).toOption = some contents) (hname : Path.IsName name)
    (hstart : start directory path = start directory root)
    (hnames : Path.names path = Path.names root ++ name :: rest) :
    Found t directory root ∧ ∃ node, t.get? (destination directory root ++ [name]) = some node := by
  rw [toOption_readFile, find?] at h
  cases hlocate : t.locate directory path with
  | error e => rw [hlocate] at h; cases h
  | ok loc =>
    have hfollow := follow_filter_of_ok (follow_of_locate hlocate)
    rw [← Path.names, hnames, hstart] at hfollow
    obtain ⟨mid, hbefore, hafter⟩ := follow_append_eq_ok hfollow
    obtain ⟨next, hstep, -⟩ := follow_cons_eq_ok hafter
    have hmid : mid = destination directory root := by
      rw [follow_eq_resolve hbefore, List.filter_eq_self.mpr fun _ => leadsOn_of_mem_names]
      rfl
    subst hmid
    have hdirectory := directory_of_step hstep
    refine ⟨⟨hbefore, hdirectory⟩, ?_⟩
    rw [step_name hdirectory hname] at hstep
    split at hstep
    · next hthere => exact Option.isSome_iff_exists.mp hthere
    · cases hstep

/-- In a directory that is found a file is read. -/
theorem Found.toOption_readFile_join {contents : List UInt8} (h : Found t directory root)
    (hname : Path.IsName name) (hcheck : checkPath (Path.join root name) = .ok ())
    (hfile : t.contents? (destination directory root ++ [name]) = some contents) :
    (t.readFile directory (Path.join root name)).toOption = some contents := by
  obtain ⟨before, hpieces, hbefore⟩ := Path.pieces_join hname root
  have hfollow : t.follow (start directory root) before = .ok (destination directory root) :=
    follow_of_filter h.directory (hbefore ▸ h.follow)
  have hnode := contents?_eq_some.mp hfile
  have hlocate : t.locate directory (Path.join root name) =
      .ok (destination directory root ++ [name]) := by
    rw [locate, hcheck]
    change t.follow _ _ = _
    rw [start_join hname, hpieces, follow_append_of_ok hfollow, follow_singleton,
      step_name h.directory hname, hnode]
    rfl
  rw [toOption_readFile, find?, hlocate]
  dsimp only
  rw [hnode]

theorem checkPath_of_readFile {contents : List UInt8}
    (h : (t.readFile directory path).toOption = some contents) : checkPath path = .ok () := by
  rw [toOption_readFile, find?, locate] at h
  cases hcheck : checkPath path with
  | error e => rw [hcheck] at h; cases h
  | ok u => rfl

/-! ## Paths without `..` -/

/-- Names without `..` only lead on. -/
theorem resolve_of_not_mem (h : ".." ∉ names) : resolve here names = here ++ names := by
  induction names generalizing here with
  | nil => exact (List.append_nil here).symm
  | cons name names ih =>
    rw [List.mem_cons, not_or] at h
    rw [resolve, if_neg (Ne.symm h.1), ih h.2, List.append_assoc, List.singleton_append]

/-- A root without `..` in which there was something before is found if it is found now. -/
theorem found_of_found (hclosed : Closed t)
    (hroot : ".." ∉ Path.names root ∨ Found t directory root) (hfound : Found t' directory root)
    {node : Node} (hnode : t.get? (destination directory root ++ [name]) = some node) :
    Found t directory root := by
  rcases hroot with hplain | hroot
  · refine hfound.of_onWay ?_
    rintro loc ⟨first, hfirst, rfl⟩
    refine hclosed.directory_of_prefix (hclosed.above hnode) ?_
    rw [destination, resolve_of_not_mem hplain,
      resolve_of_not_mem fun hmem => hplain (hfirst.subset hmem)]
    exact (List.prefix_append_right_inj _).mpr hfirst
  · exact hroot

end WikiMarkup.Tree
