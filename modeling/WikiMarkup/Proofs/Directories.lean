-- SUMMARY: Making a directory with its parents: where names lead and no file is in the way it succeeds and adds nothing but the missing directories.
import WikiMarkup.Files.Host
import WikiMarkup.Proofs.TreePaths

/-!
# Making directories

A directory is made after its parents, each of them tried first and found missing. The recursion
goes up the path while `Leads` is built down it, so one induction on `Leads` covers both: the names
of the parent are those of the path without the last one. The result is told by what has grown.
-/

namespace WikiMarkup

/-! ## Runs of programs that may fail -/

namespace Host

section

variable {σ ε α β : Type}

theorem run_bind (x : ExceptT ε (StateM σ) α) (f : α → ExceptT ε (StateM σ) β) (s : σ) :
    (x >>= f) s = match x s with
      | (.ok a, s') => f a s'
      | (.error e, s') => (.error e, s') := by
  change (ExceptT.bind x f) s = _
  simp only [ExceptT.bind, ExceptT.mk, bind, StateT.bind, ExceptT.bindCont]
  rcases x s with ⟨_ | _, _⟩ <;> rfl

theorem run_tryCatch (x : ExceptT ε (StateM σ) α) (f : ε → ExceptT ε (StateM σ) α) (s : σ) :
    (tryCatch x f) s = match x s with
      | (.ok a, s') => (.ok a, s')
      | (.error e, s') => f e s' := by
  change (ExceptT.tryCatch x f : ExceptT ε (StateM σ) α) s = _
  simp only [ExceptT.tryCatch, ExceptT.mk, bind, StateT.bind]
  rcases x s with ⟨_ | _, _⟩ <;> rfl

theorem run_state_bind (x : StateM σ α) (f : α → StateM σ β) (s : σ) :
    (x >>= f) s = match x s with
      | (a, s') => f a s' := rfl

theorem run_lift (x : StateM σ α) (s : σ) :
    (liftM x : ExceptT ε (StateM σ) α) s = (.ok (x s).1, (x s).2) := rfl

end

variable {σ : Type} [Host (StateM σ)]

/-- What it comes to if a directory could not be made: nothing is wrong if it is there. -/
def unlessThere (path : String) (e : FileError) (s : σ) : Except FileError Unit × σ :=
  ((if ((kind? path : StateM σ _) s).1 = some .directory then .ok () else .error e),
    ((kind? path : StateM σ _) s).2)

theorem run_unlessThere (path : String) (e : FileError) (s : σ) :
    (do if ← (isDirectory path : StateM σ Bool) then pure () else throw e :
      ExceptT FileError (StateM σ) Unit) s = unlessThere path e s := by
  have hkind : (isDirectory path : StateM σ Bool) s =
    (decide (((kind? path : StateM σ _) s).1 = some .directory),
      ((kind? path : StateM σ _) s).2) := rfl
  rw [run_bind, run_lift, hkind, unlessThere]
  dsimp only
  by_cases hthere : ((kind? path : StateM σ _) s).1 = some .directory
  · rw [if_pos hthere, if_pos (decide_eq_true hthere)]
    rfl
  · rw [if_neg hthere, if_neg (by simpa using hthere)]
    rfl

theorem run_ensureDirectory (path : String) (s : σ) :
    (ensureDirectory path : ExceptT FileError (StateM σ) Unit) s =
      match (makeDirectory path : ExceptT FileError (StateM σ) Unit) s with
      | (.ok (), s') => (.ok (), s')
      | (.error e, s') => unlessThere path e s' := by
  rw [ensureDirectory, run_tryCatch]
  rcases (makeDirectory path : ExceptT FileError (StateM σ) Unit) s with ⟨e | u, s'⟩
  · exact run_unlessThere path e s'
  · rfl

/-- The parents are made first if the directory cannot be made without them. -/
theorem run_ensureFirst {path : String} (h : path ≠ "") (parents : List String) (s : σ) :
    (ensureFirst (path :: parents) : ExceptT FileError (StateM σ) Unit) s =
      match (makeDirectory path : ExceptT FileError (StateM σ) Unit) s with
      | (.error .notFound, s') =>
        match (ensureFirst parents : ExceptT FileError (StateM σ) Unit) s' with
        | (.ok (), s'') => (ensureDirectory path : ExceptT FileError (StateM σ) Unit) s''
        | (.error e, s'') => (.error e, s'')
      | _ => (ensureDirectory path : ExceptT FileError (StateM σ) Unit) s := by
  rw [ensureFirst, if_neg (by simpa using h), run_tryCatch, run_ensureDirectory]
  rcases (makeDirectory path : ExceptT FileError (StateM σ) Unit) s with ⟨e | u, s'⟩
  · by_cases hmissing : e = .notFound
    · subst hmissing
      dsimp only
      rw [if_pos rfl, run_bind]
      rcases (ensureFirst parents : ExceptT FileError (StateM σ) Unit) s' with ⟨_ | _, _⟩ <;> rfl
    · dsimp only
      rw [if_neg hmissing, run_unlessThere]
      cases e <;> first | rfl | exact absurd rfl hmissing
  · rfl

end Host

namespace Tree

variable {t t' t'' : Tree} {directory place loc : Location} {path name : String}
  {before : List String} {count : Nat}

/-! ## Placing the last piece of a path -/

theorem checkPath_bind {α : Type} (hvalid : Path.Valid path) (hne : path ≠ "")
    (f : Unit → Except FileError α) : (checkPath path >>= f) = f () := by
  rw [hvalid.checkPath hne]
  rfl

theorem locate_eq (hvalid : Path.Valid path) (hne : path ≠ "") (t : Tree) (directory : Location) :
    t.locate directory path = t.follow (start directory path) (Path.pieces path) := by
  rw [locate, checkPath_bind hvalid hne]

theorem locateNew_of_follow (hvalid : Path.Valid path) (hne : path ≠ "")
    (hfollow : t.follow (start directory path) before = .ok place)
    (hplace : t.get? place = some .directory) :
    t.locateNew directory path (before ++ [name]) = .ok (place, name) := by
  rw [locateNew, checkPath_bind hvalid hne]
  simp only [List.getLast?_concat, List.dropLast_concat, hfollow, bind, Except.bind, hplace]

theorem locateNew_of_error (hvalid : Path.Valid path) (hne : path ≠ "") {e : FileError}
    (hfollow : t.follow (start directory path) before = .error e) :
    t.locateNew directory path (before ++ [name]) = .error e := by
  rw [locateNew, checkPath_bind hvalid hne]
  simp only [List.getLast?_concat, List.dropLast_concat, hfollow]
  rfl

/-- A directory that is found cannot be made again. -/
theorem makeDirectory_found (hvalid : Path.Valid path) (hne : path ≠ "")
    (hfollow : t.follow (start directory path) (Path.pieces path) = .ok place) :
    t.makeDirectory directory path = .error .alreadyExists := by
  obtain ⟨count, hpieces⟩ := Path.pieces_eq_trimmedPieces path
  rcases List.eq_nil_or_concat (trimmedPieces path) with hnil | ⟨before, last, hlast⟩
  · rw [makeDirectory, hnil, locateNew, checkPath_bind hvalid hne]
    rfl
  rw [List.concat_eq_append] at hlast
  rw [hpieces, hlast, List.append_assoc] at hfollow
  obtain ⟨above, hbefore, hrest⟩ := follow_append_eq_ok hfollow
  obtain ⟨next, hstep, -⟩ := follow_cons_eq_ok hrest
  have habove := directory_of_step hstep
  have hempty := Path.ne_empty_of_trimmedPieces hlast
  rw [makeDirectory, hlast, locateNew_of_follow hvalid hne hbefore habove]
  change (if last = "." ∨ last = ".." then _ else _) = _
  split
  · rfl
  · next hdots =>
    obtain ⟨hhere, hup⟩ := not_or.mp hdots
    rw [step, habove] at hstep
    simp only [hempty, hhere, hup, or_self, if_false] at hstep
    split at hstep
    · cases hstep
    · next hfits =>
      rw [if_neg hfits]
      split at hstep
      · next hthere => rw [if_pos hthere]
      · cases hstep

/-- What making a directory does where the names before the last one are found. -/
theorem makeDirectory_of_follow
    (hpieces : Path.pieces path = before ++ name :: List.replicate count "")
    (hname : Path.IsName name) (hvalid : Path.Valid path) (hne : path ≠ "")
    (hfollow : t.follow (start directory path) before = .ok place)
    (hplace : t.get? place = some .directory) :
    t.makeDirectory directory path =
      if (t.get? (place ++ [name])).isSome then .error .alreadyExists
      else .ok (t.set (place ++ [name]) .directory) := by
  rw [makeDirectory, Path.trimmedPieces_eq hpieces hname.leadsOn,
    locateNew_of_follow hvalid hne hfollow hplace]
  change (if name = "." ∨ name = ".." then _ else _) = _
  rw [if_neg (not_or.mpr ⟨hname.ne_here, hname.ne_up⟩), if_neg (Nat.not_lt.mpr hname.fits)]

theorem makeDirectory_of_error
    (hpieces : Path.pieces path = before ++ name :: List.replicate count "")
    (hname : Path.IsName name) (hvalid : Path.Valid path) (hne : path ≠ "") {e : FileError}
    (hfollow : t.follow (start directory path) before = .error e) :
    t.makeDirectory directory path = .error e := by
  rw [makeDirectory, Path.trimmedPieces_eq hpieces hname.leadsOn,
    locateNew_of_error hvalid hne hfollow]
  rfl

/-! ## Growth -/

/-- The second tree has more directories, all of them where they may be and each in one that is
there. -/
def Grows (t t' : Tree) (may : Location → Prop) : Prop :=
  ∀ loc, t'.get? loc = t.get? loc ∨
    (may loc ∧ t.get? loc = none ∧ t'.get? loc = some .directory ∧
      t'.get? loc.dropLast = some .directory)

/-- The second tree has more directories on the way to a location. -/
def GrowsTo (t t' : Tree) (place : Location) : Prop := Grows t t' (· <+: place)

section

variable {may may' : Location → Prop}

theorem Grows.refl (t : Tree) (may : Location → Prop) : Grows t t may := fun _ => .inl rfl

theorem Grows.mono (h : Grows t t' may) (hmay : ∀ loc, may loc → may' loc) : Grows t t' may' := by
  intro loc
  rcases h loc with hsame | ⟨hloc, hrest⟩
  · exact .inl hsame
  · exact .inr ⟨hmay loc hloc, hrest⟩

theorem Grows.extends (h : Grows t t' may) : Extends t t' := by
  intro loc node hnode
  rcases h loc with hsame | ⟨-, hnone, -⟩
  · rw [hsame, hnode]
  · rw [hnone] at hnode
    cases hnode

theorem Grows.clear (h : Grows t t' may) (hclear : Clear t loc) : Clear t' loc := by
  intro above habove contents hfile
  rcases h above with hsame | ⟨-, -, hdirectory, -⟩
  · exact hclear above habove contents (hsame ▸ hfile)
  · rw [hdirectory] at hfile
    cases hfile

theorem Grows.closed (h : Grows t t' may) (hclosed : Closed t) : Closed t' := by
  intro loc node hnode
  rcases h loc with hsame | ⟨-, -, -, habove⟩
  · exact h.extends _ _ (hclosed loc node (hsame ▸ hnode))
  · exact habove

theorem Grows.contents?_eq (h : Grows t t' may) (loc : Location) : t'.contents? loc = t.contents? loc := by
  rcases h loc with hsame | ⟨-, hnone, hdirectory, -⟩
  · exact contents?_of_get?_eq hsame
  · rw [contents?, contents?, hnone, hdirectory]

theorem Grows.trans (h : Grows t t' may) (h' : Grows t' t'' may) : Grows t t'' may := by
  intro loc
  rcases h' loc with hsame | ⟨hloc, hnone, hdirectory, habove⟩
  · rw [hsame]
    rcases h loc with hsame | ⟨hloc, hnone, hdirectory, habove⟩
    · exact .inl hsame
    · exact .inr ⟨hloc, hnone, hdirectory, h'.extends _ _ habove⟩
  · have hbefore : t.get? loc = none := by
      rcases h loc with hsame | ⟨-, hnone, -⟩
      · rw [← hsame, hnone]
      · exact hnone
    exact .inr ⟨hloc, hbefore, hdirectory, habove⟩

end

theorem GrowsTo.behind (h : GrowsTo t t' place) : GrowsTo t t' (place ++ [name]) :=
  h.mono fun _ hloc => hloc.trans (List.prefix_append _ _)

theorem grows_set (hplace : t.get? place = some .directory)
    (hnone : t.get? (place ++ [name]) = none) :
    Grows t (t.set (place ++ [name]) .directory) (· = place ++ [name]) := by
  intro loc
  by_cases heq : loc = place ++ [name]
  · subst heq
    have habove : (t.set (place ++ [name]) .directory).get? place = some .directory := by
      rw [get?_set (by simp), if_neg (by simp), hplace]
    refine .inr ⟨rfl, hnone, ?_, ?_⟩
    · rw [get?_set (by simp), if_pos rfl]
    · rwa [List.dropLast_concat]
  · exact .inl (by rw [get?_set (by simp), if_neg heq])

theorem growsTo_set (hplace : t.get? place = some .directory)
    (hnone : t.get? (place ++ [name]) = none) :
    GrowsTo t (t.set (place ++ [name]) .directory) (place ++ [name]) :=
  (grows_set hplace hnone).mono fun _ hloc => hloc ▸ List.prefix_refl _

/-- A name behind a directory that is found is found if it is there. -/
theorem follow_behind {here : Location} {names : List String}
    (hfollow : t.follow here names = .ok place) (hplace : t.get? place = some .directory)
    (hname : Path.IsName name) {node : Node} (hnode : t.get? (place ++ [name]) = some node) :
    t.follow here (names ++ [name]) = .ok (place ++ [name]) := by
  rw [follow_append_of_ok hfollow, follow_singleton, step_name hplace hname, hnode]
  rfl

end Tree

/-! ## Making a directory with its parents -/

namespace World

variable {w : World} {path name : String} {place : Location}

theorem run_makeDirectory (path : String) (w : World) :
    (Host.makeDirectory path : ExceptT FileError (StateM World) Unit) w =
      match w.tree.makeDirectory w.directory path with
      | .ok tree => (.ok (), { w with tree })
      | .error e => (.error e, w) := rfl

theorem kind?_of_locate (hlocate : w.tree.locate w.directory path = .ok place)
    (hplace : w.tree.get? place = some .directory) :
    (Host.kind? path : StateM World _) w = (some .directory, w) := by
  have hfind : w.tree.find? w.directory path = some .directory := by
    rw [Tree.find?, hlocate]
    exact hplace
  change ((w.tree.find? w.directory path).map _, w) = _
  rw [hfind]
  rfl

theorem unlessThere_found (hvalid : Path.Valid path) (hne : path ≠ "")
    (hfollow : w.tree.follow (Tree.start w.directory path) (Path.pieces path) = .ok place)
    (hplace : w.tree.get? place = some .directory) (e : FileError) :
    Host.unlessThere path e w = (.ok (), w) := by
  have hlocate := (Tree.locate_eq hvalid hne w.tree w.directory).trans hfollow
  rw [Host.unlessThere, kind?_of_locate hlocate hplace, if_pos rfl]

theorem run_ensureDirectory_found (hvalid : Path.Valid path) (hne : path ≠ "")
    (hfollow : w.tree.follow (Tree.start w.directory path) (Path.pieces path) = .ok place)
    (hplace : w.tree.get? place = some .directory) :
    (Host.ensureDirectory path : ExceptT FileError (StateM World) Unit) w = (.ok (), w) := by
  rw [Host.run_ensureDirectory, run_makeDirectory, Tree.makeDirectory_found hvalid hne hfollow]
  exact unlessThere_found hvalid hne hfollow hplace _

/-- Behind a directory that is found, one is made if nothing is there. -/
theorem run_ensureDirectory_behind {before : List String} {count : Nat}
    (hpieces : Path.pieces path = before ++ name :: List.replicate count "")
    (hname : Path.IsName name) (hvalid : Path.Valid path) (hne : path ≠ "")
    (hfollow : w.tree.follow (Tree.start w.directory path) before = .ok place)
    (hplace : w.tree.get? place = some .directory) (hclear : w.tree.Clear (place ++ [name])) :
    ∃ tree, (Host.ensureDirectory path : ExceptT FileError (StateM World) Unit) w =
        (.ok (), { w with tree }) ∧
      w.tree.GrowsTo tree (place ++ [name]) ∧ tree.get? (place ++ [name]) = some .directory ∧
      tree.follow (Tree.start w.directory path) (before.filter Path.leadsOn ++ [name]) =
        .ok (place ++ [name]) := by
  have hfound := Tree.follow_filter_of_ok hfollow
  cases hthere : w.tree.get? (place ++ [name]) with
  | none =>
    have hmake := Tree.makeDirectory_of_follow hpieces hname hvalid hne hfollow hplace
    have hgrows := Tree.growsTo_set hplace hthere
    have hset : (w.tree.set (place ++ [name]) .directory).get? (place ++ [name]) =
        some .directory := by
      rw [Tree.get?_set (by simp), if_pos rfl]
    rw [hthere] at hmake
    refine ⟨_, ?_, hgrows, hset, Tree.follow_behind (hgrows.extends.follow hfound)
      (hgrows.extends _ _ hplace) hname hset⟩
    rw [Host.run_ensureDirectory, run_makeDirectory, hmake]
    rfl
  | some node =>
    obtain rfl := hclear.directory hthere
    refine ⟨w.tree, ?_, .refl _ _, hthere, Tree.follow_behind hfound hplace hname hthere⟩
    refine run_ensureDirectory_found hvalid hne ?_ hthere
    have hstep := Tree.step_name hplace hname
    rw [hthere] at hstep
    rw [hpieces, Tree.follow_append_of_ok hfollow, Tree.follow_cons hstep]
    exact Tree.follow_of_filter hthere (by simp [Path.leadsOn, Tree.follow])

/-- Where names lead and no file is in the way, a directory is made with all its parents. Nothing
else changes. -/
theorem run_ensureFirst_ancestors {names : List String}
    (hleads : w.tree.Leads (Tree.start w.directory path) names place)
    (hnames : Path.names path = names) (hclear : w.tree.Clear place) (hvalid : Path.Valid path)
    (hend : names = [] ∨ Path.EndsInName path) {fuel : Nat} (hfuel : names.length < fuel) :
    ∃ tree, (Host.ensureFirst (Path.ancestorsFrom fuel path) :
        ExceptT FileError (StateM World) Unit) w = (.ok (), { w with tree }) ∧
      w.tree.GrowsTo tree place ∧ tree.get? place = some .directory ∧
      tree.follow (Tree.start w.directory path) names = .ok place := by
  generalize hstart : Tree.start w.directory path = here at hleads
  induction hleads generalizing path fuel with
  | @found names place hfollow hplace =>
    refine ⟨w.tree, ?_, .refl _ _, hplace, hfollow⟩
    obtain ⟨fuel, rfl⟩ : ∃ n, fuel = n + 1 := ⟨fuel - 1, by omega⟩
    have hancestors : ∃ parents, Path.ancestorsFrom (fuel + 1) path = path :: parents := by
      rw [Path.ancestorsFrom]
      cases Path.parent? path with
      | none => exact ⟨[], rfl⟩
      | some parent => exact ⟨_, rfl⟩
    obtain ⟨parents, hparents⟩ := hancestors
    rw [hparents]
    by_cases hne : path = ""
    · subst hne
      rfl
    · have hpieces : w.tree.follow (Tree.start w.directory path) (Path.pieces path) = .ok place :=
        Tree.follow_of_filter hplace (by rw [hstart, ← Path.names, hnames, hfollow])
      rw [Host.run_ensureFirst hne, run_makeDirectory, Tree.makeDirectory_found hvalid hne hpieces]
      exact run_ensureDirectory_found hvalid hne hpieces hplace
  | @behind names place name hleads hname ih =>
    obtain ⟨before, last, count, hpieces, hlast⟩ := hend.resolve_left (by simp)
    obtain ⟨rfl, rfl⟩ : before.filter Path.leadsOn = names ∧ last = name := by
      rw [Path.names_of_pieces hpieces hlast] at hnames
      simpa using hnames
    obtain ⟨parent, rest, hparent, htext, habsolute, hnamesParent, hendParent⟩ :=
      Path.parent?_spec hpieces hlast
    have hne : path ≠ "" := by
      rintro rfl
      rw [Path.names_empty] at hnames
      simp at hnames
    obtain ⟨fuel, rfl⟩ : ∃ n, fuel = n + 1 := ⟨fuel - 1, by omega⟩
    have hancestors : Path.ancestorsFrom (fuel + 1) path = path :: Path.ancestorsFrom fuel parent := by
      rw [Path.ancestorsFrom, hparent]
    rw [hancestors, Host.run_ensureFirst hne, run_makeDirectory]
    subst hstart
    rcases hleads.follow_cases (hclear.of_prefix (List.prefix_append _ _)) with
      ⟨hfollow, hplace⟩ | hmissing
    · obtain ⟨tree, hrun, hmade⟩ :=
        run_ensureDirectory_behind hpieces hname hvalid hne hfollow hplace hclear
      refine ⟨tree, ?_, hmade⟩
      rw [Tree.makeDirectory_of_follow hpieces hname hvalid hne hfollow hplace]
      cases (w.tree.get? (place ++ [last])).isSome <;> exact hrun
    -- The parent is missing: it is made first, and then the directory behind it.
    · rw [Tree.makeDirectory_of_error hpieces hname hvalid hne hmissing]
      have hstartParent : Tree.start w.directory parent = Tree.start w.directory path := by
        rw [Tree.start, Tree.start, habsolute]
      have hlength : (before.filter Path.leadsOn).length < fuel := by
        simpa using hfuel
      obtain ⟨tree, hrun, hgrows, hplace, hfound⟩ := ih hnamesParent
        (hclear.of_prefix (List.prefix_append _ _)) (Path.Valid.of_append (htext ▸ hvalid))
        (hnamesParent ▸ hendParent) hlength hstartParent
      have hfollow := Tree.follow_of_filter hplace hfound
      obtain ⟨tree', hrun', hgrows', hmade⟩ := run_ensureDirectory_behind (w := { w with tree })
        hpieces hname hvalid hne hfollow hplace (hgrows.clear hclear)
      refine ⟨tree', ?_, hgrows.behind.trans hgrows', hmade⟩
      dsimp only
      rw [hrun]
      exact hrun'

/-- Where the names of a path lead and no file is in the way, its directory is made with all its
parents. Nothing else changes. -/
theorem run_makeDirectories
    (hleads : w.tree.Leads (Tree.start w.directory path) (Path.names path) place)
    (hclear : w.tree.Clear place) (hvalid : Path.Valid path)
    (hend : Path.names path = [] ∨ Path.EndsInName path) :
    ∃ tree, (Host.makeDirectories path : ExceptT FileError (StateM World) Unit) w =
        (.ok (), { w with tree }) ∧
      w.tree.GrowsTo tree place ∧ tree.get? place = some .directory ∧
      tree.follow (Tree.start w.directory path) (Path.names path) = .ok place := by
  have hlength := Path.length_names_le path
  exact run_ensureFirst_ancestors hleads rfl hclear hvalid hend (by omega)

end World

end WikiMarkup
