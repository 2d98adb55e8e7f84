-- SUMMARY: Buckets are isolated as long as keys stay inside them: what is stored in one changes no lookup in another one, nor the stored version.
import WikiMarkup.Proofs.FoundDirectories
import WikiMarkup.Proofs.RefusedChanges
import WikiMarkup.Proofs.VersionedStore

/-!
# Isolated buckets

A key is joined to the directory of its bucket as it is, so it may have several names, and `..` may
lead out of the bucket again. While the names of a key never lead above the directory of the bucket,
storing under it changes nothing outside of that directory but directories that are made on the way
to the root of the store. A lookup in another bucket follows its key in its own directory, where
both trees have the same nodes, and so it comes to the same end.
-/

namespace WikiMarkup

/-! ## Keys that stay inside -/

namespace Path

/-- Following the names never leads above where it started, from so many names below. -/
def staysInside : Nat → List String → Bool
  | _, [] => true
  | depth, name :: names =>
    if name = ".." then 0 < depth && staysInside (depth - 1) names
    else staysInside (depth + 1) names

/-- A key that is looked up inside the directory of its bucket. -/
structure IsInner (key : String) : Prop where
  relative : isAbsolute key = false
  inside : staysInside 0 (names key) = true

theorem staysInside_of_prefix {depth : Nat} {names more : List String}
    (h : staysInside depth more) (hfirst : names <+: more) : staysInside depth names := by
  obtain ⟨rest, rfl⟩ := hfirst
  induction names generalizing depth with
  | nil => rfl
  | cons name names ih =>
    rw [List.cons_append, staysInside] at h
    rw [staysInside]
    split
    · next hup =>
      rw [if_pos hup, Bool.and_eq_true] at h
      rw [h.1, ih h.2]
      rfl
    · next hup =>
      rw [if_neg hup] at h
      exact ih h

end Path

namespace Tree

variable {t t' : Tree} {here place base directory : Location} {pieces names : List String}
  {root bucket other name path : String}

/-- What stays inside leads below where it started. -/
theorem prefix_resolve_append (base : Location) {more : Location}
    (h : Path.staysInside more.length names) : base <+: resolve (base ++ more) names := by
  induction names generalizing more with
  | nil => exact List.prefix_append _ _
  | cons name names ih =>
    rw [Path.staysInside] at h
    rw [resolve]
    split
    · next hup =>
      rw [if_pos hup, Bool.and_eq_true] at h
      have hne : more ≠ [] := List.length_pos_iff.mp (of_decide_eq_true h.1)
      rw [List.dropLast_append_of_ne_nil hne]
      exact ih (by rw [List.length_dropLast]; exact h.2)
    · next hup =>
      rw [if_neg hup] at h
      rw [List.append_assoc]
      exact ih (by rwa [List.length_append])

theorem prefix_resolve (base : Location) (h : Path.staysInside 0 names) :
    base <+: resolve base names := by
  have hbelow : base <+: resolve (base ++ []) names := prefix_resolve_append base h
  rwa [List.append_nil] at hbelow

/-! ## Following names outside of a bucket -/

theorem step_congr {piece : String} (hhere : t'.get? here = t.get? here)
    (hnext : t'.get? (here ++ [piece]) = t.get? (here ++ [piece])) :
    t'.step here piece = t.step here piece := by
  rw [step, step, hhere, hnext]

/-- Where two trees have the same nodes below a place, names that stay inside are followed to the
same end. -/
theorem follow_inside {more : Location} (hagree : ∀ loc, base <+: loc → t'.get? loc = t.get? loc)
    (hinside : Path.staysInside more.length (pieces.filter Path.leadsOn)) :
    t'.follow (base ++ more) pieces = t.follow (base ++ more) pieces := by
  induction pieces generalizing more with
  | nil => rfl
  | cons piece pieces ih =>
    have hstep : t'.step (base ++ more) piece = t.step (base ++ more) piece :=
      step_congr (hagree _ (List.prefix_append _ _))
        (hagree _ (by rw [List.append_assoc]; exact List.prefix_append _ _))
    rw [follow, follow, hstep]
    cases hnext : t.step (base ++ more) piece with
    | error e => rfl
    | ok next =>
      change t'.follow next pieces = t.follow next pieces
      cases hleads : Path.leadsOn piece with
      | false =>
        rw [List.filter_cons_of_neg (by simp [hleads])] at hinside
        rw [step_silent hleads hnext]
        exact ih hinside
      | true =>
        rw [List.filter_cons_of_pos hleads, Path.staysInside] at hinside
        rw [step_leadsOn hleads hnext]
        split
        · next hup =>
          rw [if_pos hup, Bool.and_eq_true] at hinside
          have hne : more ≠ [] := List.length_pos_iff.mp (of_decide_eq_true hinside.1)
          rw [List.dropLast_append_of_ne_nil hne]
          exact ih (by rw [List.length_dropLast]; exact hinside.2)
        · next hup =>
          rw [if_neg hup] at hinside
          rw [List.append_assoc]
          exact ih (by rwa [List.length_append])

theorem not_prefix_append (hne : name ≠ other) (place rest : Location) :
    ¬ place ++ [name] <+: place ++ [other] ++ rest := by
  rw [List.append_assoc, List.prefix_append_right_inj, List.singleton_append, List.cons_prefix_cons]
  exact fun h => hne h.1

theorem not_prefix_concat (hne : name ≠ other) (place : Location) :
    ¬ place ++ [name] <+: place ++ [other] := by
  have hbelow := not_prefix_append hne place []
  rwa [List.append_nil] at hbelow

theorem not_concat_below (place : Location) (name : String) : ¬ place ++ [name] <+: place := by
  intro h
  have hlength : place.length + 1 ≤ place.length := by simpa using h.length_le
  omega

/-- Where two trees have the same nodes outside of one bucket, what stays inside another one is
followed to the same end. -/
theorem follow_into (hagree : ∀ loc, ¬ place ++ [bucket] <+: loc → t'.get? loc = t.get? loc)
    (hbucket : Path.leadsOn bucket) (hname : Path.IsName name) (hne : bucket ≠ name)
    (hpieces : pieces.filter Path.leadsOn = name :: names) (hinside : Path.staysInside 0 names) :
    t'.follow place pieces = t.follow place pieces := by
  induction pieces with
  | nil => cases hpieces
  | cons piece pieces ih =>
    have hstep : piece ≠ bucket → t'.step place piece = t.step place piece := fun hpiece =>
      step_congr (hagree _ (not_concat_below place bucket))
        (hagree _ (not_prefix_concat (Ne.symm hpiece) place))
    cases hleads : Path.leadsOn piece with
    | false =>
      rw [List.filter_cons_of_neg (by simp [hleads])] at hpieces
      rw [follow, follow, hstep (by rintro rfl; rw [hleads] at hbucket; cases hbucket)]
      cases hnext : t.step place piece with
      | error e => rfl
      | ok next =>
        rw [step_silent hleads hnext]
        exact ih hpieces
    | true =>
      rw [List.filter_cons_of_pos hleads] at hpieces
      obtain ⟨rfl, rfl⟩ := List.cons.inj hpieces
      rw [follow, follow, hstep (Ne.symm hne)]
      cases hnext : t.step place piece with
      | error e => rfl
      | ok next =>
        rw [step_leadsOn hleads hnext, if_neg hname.ne_up]
        change t'.follow (place ++ [piece]) pieces = t.follow (place ++ [piece]) pieces
        have hbelow : ∀ loc, place ++ [piece] <+: loc → t'.get? loc = t.get? loc := by
          rintro loc ⟨rest, rfl⟩
          exact hagree _ (not_prefix_append hne place rest)
        have hinto : t'.follow (place ++ [piece] ++ []) pieces =
            t.follow (place ++ [piece] ++ []) pieces := follow_inside hbelow hinside
        rwa [List.append_nil] at hinto

/-! ## Changes in one bucket -/

/-- All that changed is in the directory of a bucket, but for missing directories that were made on
the way to the root of the store. In place of the bucket itself no file came or went. -/
structure Confined (t t' : Tree) (directory : Location) (root bucket : String) : Prop where
  outside : ∀ loc, ¬ destination directory root ++ [bucket] <+: loc → t'.get? loc = t.get? loc ∨
    (t.get? loc = none ∧ t'.get? loc = some .directory ∧ OnWay directory root loc)
  bucket : t'.contents? (destination directory root ++ [bucket]) =
    t.contents? (destination directory root ++ [bucket])
  kept : ∀ loc, t.get? loc = some .directory → t'.get? loc = some .directory

namespace Confined

theorem refl (t : Tree) (directory : Location) (root bucket : String) :
    Confined t t directory root bucket :=
  ⟨fun _ _ => .inl rfl, rfl, fun _ h => h⟩

theorem found (h : Confined t t' directory root bucket) (hfound : Found t directory root) :
    Found t' directory root :=
  hfound.of_onWay fun loc hloc => h.kept loc (hfound.onWay hloc)

/-- Below a root that is found nothing changed outside of the bucket. -/
theorem agree (h : Confined t t' directory root bucket) (hfound : Found t directory root)
    {loc : Location} (hloc : ¬ destination directory root ++ [bucket] <+: loc) :
    t'.get? loc = t.get? loc := by
  rcases h.outside loc hloc with hsame | ⟨hnone, -, hway⟩
  · exact hsame
  · rw [hfound.onWay hway] at hnone
    cases hnone

theorem contents?_eq (h : Confined t t' directory root bucket) (name : String) :
    t'.contents? (destination directory root ++ [name]) =
      t.contents? (destination directory root ++ [name]) := by
  by_cases hname : bucket = name
  · exact hname ▸ h.bucket
  rcases h.outside (destination directory root ++ [name])
    (not_prefix_concat hname _) with
    hsame | ⟨hnone, hdirectory, -⟩
  · exact contents?_of_get?_eq hsame
  · rw [contents?, contents?, hnone, hdirectory]

/-- What is in place of another name of the root was there before. -/
theorem get?_name (h : Confined t t' directory root bucket) (hne : bucket ≠ name)
    (hroot : ".." ∉ Path.names root ∨ Found t directory root) :
    t'.get? (destination directory root ++ [name]) =
      t.get? (destination directory root ++ [name]) := by
  have houtside := not_prefix_concat hne (destination directory root)
  rcases hroot with hplain | hfound
  · rcases h.outside _ houtside with hsame | ⟨-, -, first, hfirst, hway⟩
    · exact hsame
    · rw [destination, resolve_of_not_mem hplain,
        resolve_of_not_mem fun hmem => hplain (hfirst.subset hmem), List.append_assoc,
        List.append_cancel_left_eq] at hway
      exact absurd (hway ▸ hfirst) (not_concat_below _ name)
  · exact h.agree hfound houtside

/-- Below a root that is found, a path inside another bucket leads to the same node. -/
theorem find?_eq (h : Confined t t' directory root bucket) (hfound : Found t directory root)
    (hbucket : Path.IsName bucket) (hname : Path.IsName name) (hne : bucket ≠ name)
    (hstart : start directory path = start directory root)
    (hnames : Path.names path = Path.names root ++ name :: names)
    (hinside : Path.staysInside 0 names) : t'.find? directory path = t.find? directory path := by
  obtain ⟨before, behind, hpieces, hbefore, hbehind⟩ := List.filter_eq_append_iff.mp hnames
  have hfound' := h.found hfound
  have hfollow := follow_of_filter hfound.directory (hbefore ▸ hfound.follow)
  have hfollow' := follow_of_filter hfound'.directory (hbefore ▸ hfound'.follow)
  have hlocate : t'.locate directory path = t.locate directory path := by
    rw [locate, locate, hstart, hpieces, follow_append_of_ok hfollow, follow_append_of_ok hfollow',
      follow_into (fun loc => h.agree hfound) hbucket.leadsOn hname hne hbehind hinside]
  have hplace : t'.get? (destination directory path) = t.get? (destination directory path) := by
    have hbelow :
        destination directory path = resolve (destination directory root ++ [name]) names := by
      rw [destination, hstart, hnames, resolve_append, resolve, if_neg hname.ne_up, destination]
    obtain ⟨rest, hrest⟩ := prefix_resolve (destination directory root ++ [name]) hinside
    rw [hbelow, ← hrest]
    exact h.agree hfound (not_prefix_append hne _ rest)
  rw [find?, find?, hlocate]
  cases hfind : t.locate directory path with
  | error e => rfl
  | ok place =>
    rw [locate_eq_ok hfind]
    exact hplace

/-- Reading inside another bucket comes to the same. -/
theorem toOption_readFile (h : Confined t t' directory root bucket) (hclosed : Closed t)
    (hroot : ".." ∉ Path.names root ∨ Found t directory root) (hbucket : Path.IsName bucket)
    (hname : Path.IsName name) (hne : bucket ≠ name)
    (hstart : start directory path = start directory root)
    (hnames : Path.names path = Path.names root ++ name :: names)
    (hinside : Path.staysInside 0 names) :
    (t'.readFile directory path).toOption = (t.readFile directory path).toOption := by
  by_cases hfound : Found t directory root
  · rw [Tree.toOption_readFile, Tree.toOption_readFile,
      h.find?_eq hfound hbucket hname hne hstart hnames hinside]
  -- Where the root is not found nothing is read, and nothing has come into it.
  have hnone : (t.readFile directory path).toOption = none := by
    rw [Option.eq_none_iff_forall_ne_some]
    intro contents hread
    exact hfound (found_of_readFile hread hname hstart hnames).1
  rw [hnone, Option.eq_none_iff_forall_ne_some]
  intro contents hread
  obtain ⟨hfound', node, hnode⟩ := found_of_readFile hread hname hstart hnames
  rw [h.get?_name hne hroot] at hnode
  exact hfound (found_of_found hclosed hroot hfound' hnode)

/-- Reading a file in the root comes to the same. -/
theorem toOption_readFile_join (h : Confined t t' directory root bucket) (hclosed : Closed t)
    (hroot : ".." ∉ Path.names root ∨ Found t directory root) (hname : Path.IsName name) :
    (t'.readFile directory (Path.join root name)).toOption =
      (t.readFile directory (Path.join root name)).toOption := by
  have hstart := start_join hname directory root
  have hnames := Path.names_join hname root
  have hcontents := h.contents?_eq name
  refine Option.ext fun contents => ⟨fun hread => ?_, fun hread => ?_⟩
  · have hfile := contents?_of_readFile hread
    rw [destination_join hname, hcontents] at hfile
    obtain ⟨hfound', -⟩ := found_of_readFile hread hname hstart hnames
    have hfound := found_of_found hclosed hroot hfound' (contents?_eq_some.mp hfile)
    exact hfound.toOption_readFile_join hname (checkPath_of_readFile hread) hfile
  · have hfile := contents?_of_readFile hread
    rw [destination_join hname, ← hcontents] at hfile
    obtain ⟨hfound, -⟩ := found_of_readFile hread hname hstart hnames
    exact (h.found hfound).toOption_readFile_join hname (checkPath_of_readFile hread) hfile

end Confined

/-! ## Storing under a key that stays inside -/

/-- What an entry's path passes is on the way to the root of the store, or in the bucket. -/
theorem onWay_entryPath {key : String} (hkey : Path.IsInner key) (hbucket : Path.IsName bucket)
    {loc : Location} (hloc : OnWay directory (Store.entryPath root bucket key) loc) :
    OnWay directory root loc ∨ destination directory root ++ [bucket] <+: loc := by
  obtain ⟨first, hfirst, rfl⟩ := hloc
  rw [Store.entryPath, Path.names_join_relative hkey.relative, Path.names_join hbucket,
    List.append_assoc, List.singleton_append] at hfirst
  rw [Store.entryPath, start_join_relative hkey.relative, start_join hbucket]
  rcases List.prefix_or_prefix_of_prefix hfirst (List.prefix_append _ _) with hshort | ⟨rest, rfl⟩
  · exact .inl ⟨first, hshort, rfl⟩
  · rw [List.prefix_append_right_inj] at hfirst
    cases rest with
    | nil => exact .inl ⟨Path.names root, List.prefix_refl _, by rw [List.append_nil]⟩
    | cons name rest =>
      obtain ⟨rfl, hrest⟩ := List.cons_prefix_cons.mp hfirst
      right
      rw [resolve_append, resolve, if_neg hbucket.ne_up]
      exact prefix_resolve _ (Path.staysInside_of_prefix hkey.inside hrest)

/-- The file of an entry is written below the directory of its bucket. -/
theorem writeFile_entryPath {key : String} {contents : List UInt8} (hkey : Path.IsInner key)
    (hbucket : Path.IsName bucket)
    (h : t.writeFile directory (Store.entryPath root bucket key) contents = .ok t') :
    ∃ rest name, t.get? (destination directory root ++ [bucket] ++ rest ++ [name]) ≠
        some .directory ∧
      t' = t.set (destination directory root ++ [bucket] ++ rest ++ [name]) (.file contents) := by
  obtain ⟨above, before, name, hplace, hpieces, hleads, hup, -, hfree, rfl⟩ := writeFile_eq_ok h
  obtain ⟨front, hfront, -⟩ := Path.pieces_join_relative hkey.relative (Path.join root bucket)
  rw [Store.entryPath, hfront] at hpieces
  -- The last piece of the path is that of the key.
  obtain ⟨init, last, hlast⟩ : ∃ init last, Path.pieces key = init ++ [last] := by
    obtain hnil | ⟨init, last, hconcat⟩ := List.eq_nil_or_concat (Path.pieces key)
    · exact absurd hnil (Path.pieces_ne_nil key)
    · exact ⟨init, last, hconcat.trans List.concat_eq_append⟩
  rw [hlast, ← List.append_assoc] at hpieces
  obtain rfl := List.singleton_inj.mp (List.append_inj' hpieces rfl).2
  have hnames : Path.names key = init.filter Path.leadsOn ++ [last] := by
    rw [Path.names, hlast, List.filter_append, List.filter_cons_of_pos hleads, List.filter_nil]
  obtain ⟨rest, hrest⟩ := prefix_resolve (destination directory root ++ [bucket])
    (Path.staysInside_of_prefix hkey.inside (hnames ▸ List.prefix_append _ _))
  have habove : above = destination directory root ++ [bucket] ++ rest := by
    rw [Store.entryPath, destination_join_relative hkey.relative, destination_join hbucket, hnames,
      resolve_concat _ _ hup] at hplace
    rw [hrest]
    exact (List.append_inj' hplace rfl).1.symm
  exact ⟨rest, last, habove ▸ hfree, by rw [habove]⟩

/-- Directories that are made for an entry, and its file, change nothing outside of the bucket. -/
theorem confined_entryPath {mid : Tree} {key : String} {contents : List UInt8}
    (hkey : Path.IsInner key) (hbucket : Path.IsName bucket)
    (hgrows : Grows t mid (OnWay directory (Store.entryPath root bucket key)))
    (hwrite : t' = mid ∨
      mid.writeFile directory (Store.entryPath root bucket key) contents = .ok t') :
    Confined t t' directory root bucket := by
  have hmid : Confined t mid directory root bucket := by
    refine ⟨fun loc hloc => ?_, hgrows.contents?_eq _, fun loc => hgrows.extends loc _⟩
    rcases hgrows loc with hsame | ⟨hway, hnone, hdirectory, -⟩
    · exact .inl hsame
    · exact .inr ⟨hnone, hdirectory,
        (onWay_entryPath hkey hbucket hway).resolve_right hloc⟩
  rcases hwrite with rfl | hwrite
  · exact hmid
  obtain ⟨rest, name, hfree, rfl⟩ := writeFile_entryPath hkey hbucket hwrite
  have hplace : destination directory root ++ [bucket] ++ rest ++ [name] ≠ [] := by simp
  refine ⟨fun loc hloc => ?_, ?_, fun loc hdirectory => ?_⟩
  · have hne : loc ≠ destination directory root ++ [bucket] ++ rest ++ [name] := by
      rintro rfl
      rw [List.append_assoc] at hloc
      exact hloc (List.prefix_append _ _)
    rw [get?_set hplace, if_neg hne]
    exact hmid.outside loc hloc
  · rw [contents?_set_file hplace, if_neg (by simp), hmid.bucket]
  · have hthere := hmid.kept loc hdirectory
    rw [get?_set hplace, if_neg, hthere]
    rintro rfl
    exact hfree hthere

end Tree

/-! ## Runs of a store -/

namespace FaultyWorld

variable {root bucket other key tag : String} {s : FaultyWorld}

/-- Every node stands in a directory, whatever was done with a store. -/
theorem closed_perform (root : String) (store : Store) (operations : List Store.Operation)
    (hclosed : s.world.tree.Closed) :
    ((Store.perform root store operations : StateM FaultyWorld _) s).2.world.tree.Closed := by
  induction operations generalizing store s with
  | nil => exact hclosed
  | cons operation operations ih =>
    cases operation with
    | openAt version =>
      rw [Store.run_perform_openAt, Store.run_openAt]
      exact ih _ ((spares_prepare root version s).closed hclosed)
    | put bucket key tag value =>
      rw [Store.run_perform_put]
      cases store with
      | none => exact ih _ hclosed
      | files root' => exact ih _ ((spares_put root' bucket key tag value s).closed hclosed)
    | get bucket key tag =>
      rw [Store.run_perform_get]
      cases store with
      | none => exact ih .none hclosed
      | files root' =>
        rw [run_get?_eq]
        exact ih (.files root') hclosed

/-- Storing under a key that stays inside changes nothing outside of the bucket. -/
theorem confined_put (hbucket : Path.IsName bucket) (hkey : Path.IsInner key) (root tag : String)
    (value : List UInt8) (s : FaultyWorld) :
    let s' := ((Store.put (.files root) bucket key tag value : StateM FaultyWorld Unit) s).2
    s'.world.directory = s.world.directory ∧
      s.world.tree.Confined s'.world.tree s.world.directory root bucket := by
  intro s'
  dsimp only [s']
  by_cases htag : '\n' ∈ tag.toList
  · rw [Store.run_put_refused htag]
    exact ⟨rfl, .refl _ _ _ _⟩
  rw [Store.run_put htag]
  dsimp only
  obtain ⟨hdirectory, mid, hgrows, hwrite⟩ :=
    run_writeWithParents (Store.entryPath root bucket key) (Entry.encode tag value) s
  exact ⟨hdirectory, Tree.confined_entryPath hkey hbucket hgrows hwrite⟩

end FaultyWorld

namespace Store

/-- Whatever was done before, storing in one bucket changes neither what is looked up in another one
nor the stored version, as long as both keys stay inside their buckets. It does not matter which
changes are refused. The path of the store may lead back only if its directory is there. -/
theorem put_other_bucket {root bucket other key otherKey : String} {s : FaultyWorld}
    (hclosed : s.world.tree.Closed) (store : Store) (operations : List Operation)
    (hbucket : Path.IsName bucket) (hother : Path.IsName other) (hne : bucket ≠ other)
    (hkey : Path.IsInner key) (hotherKey : Path.IsInner otherKey) (tag otherTag : String)
    (value : List UInt8) :
    let before := ((perform root store operations : StateM FaultyWorld _) s).2
    let after := ((put (.files root) bucket key tag value : StateM FaultyWorld Unit) before).2
    (".." ∉ Path.names root ∨
      before.world.tree.find? before.world.directory root = some .directory) →
    ((get? (.files root) other otherKey otherTag : StateM FaultyWorld _) after).1 =
      ((get? (.files root) other otherKey otherTag : StateM FaultyWorld _) before).1 ∧
    ((storedVersion root : StateM FaultyWorld _) after).1 =
      ((storedVersion root : StateM FaultyWorld _) before).1 := by
  intro before after hroot
  have hbefore : before.world.tree.Closed :=
    FaultyWorld.closed_perform root store operations hclosed
  obtain ⟨hdirectory, hconfined⟩ := FaultyWorld.confined_put hbucket hkey root tag value before
  have hfound := hroot.imp_right Tree.found_of_find?
  constructor
  · rw [FaultyWorld.run_get?_eq, FaultyWorld.run_get?_eq, hdirectory]
    have hnames : Path.names (entryPath root other otherKey) =
        Path.names root ++ other :: Path.names otherKey := by
      rw [entryPath, Path.names_join_relative hotherKey.relative, Path.names_join hother,
        List.append_assoc, List.singleton_append]
    have hstart : Tree.start before.world.directory (entryPath root other otherKey) =
        Tree.start before.world.directory root := by
      rw [entryPath, Tree.start_join_relative hotherKey.relative, Tree.start_join hother]
    exact congrArg (Option.bind · _) (hconfined.toOption_readFile hbefore hfound hbucket hother hne
      hstart hnames hotherKey.inside)
  · rw [FaultyWorld.run_storedVersion, FaultyWorld.run_storedVersion, hdirectory]
    exact congrArg (Option.bind · _)
      (hconfined.toOption_readFile_join hbefore hfound isName_version)

/-- A key of several names that leads back inside its bucket, in a tree that is empty at first. The
third change is refused. -/
theorem put_other_bucket_back :
    let s : FaultyWorld := ⟨⟨.empty, [], [], []⟩,
      [Option.none, Option.none, some (.other "no space left")]⟩
    let before := ((perform "cache" .none [.openAt "1", .get "b" "k" ""] :
      StateM FaultyWorld _) s).2
    let after := ((put (.files "cache") "a" "x/../b/k" "e" [10] : StateM FaultyWorld Unit) before).2
    ((get? (.files "cache") "b" "k" "e" : StateM FaultyWorld _) after).1 =
      ((get? (.files "cache") "b" "k" "e" : StateM FaultyWorld _) before).1 ∧
    ((storedVersion "cache" : StateM FaultyWorld _) after).1 =
      ((storedVersion "cache" : StateM FaultyWorld _) before).1 := by
  have hbucket : Path.IsName "a" := by constructor <;> decide
  have hother : Path.IsName "b" := by constructor <;> decide
  have hkey : Path.IsInner "x/../b/k" := ⟨by decide, by decide⟩
  have hotherKey : Path.IsInner "k" := ⟨by decide, by decide⟩
  intro s before after
  have hclosed : s.world.tree.Closed := Tree.closed_empty
  have hroot : ".." ∉ Path.names "cache" := by decide
  have hsame := put_other_bucket hclosed .none [.openAt "1", .get "b" "k" ""] hbucket hother
    (by decide) hkey hotherKey "e" "e" [10] (.inl hroot)
  exact hsame

/-- A key that leads out of its bucket reaches the entries of another one, and the version. -/
theorem put_out_of_bucket :
    let s : FaultyWorld := ⟨⟨⟨[(["cache"], .directory), (["cache", "VERSION"], .file [49]),
      (["cache", "a"], .directory), (["cache", "b"], .directory)]⟩, [], [], []⟩, []⟩
    let put key := ((put (.files "cache") "a" key "e" [10] : StateM FaultyWorld Unit) s).2
    ((get? (.files "cache") "b" "k" "e" : StateM FaultyWorld _) s).1 = Option.none ∧
    ((get? (.files "cache") "b" "k" "e" : StateM FaultyWorld _) (put "../b/k")).1 = some [10] ∧
    ((storedVersion "cache" : StateM FaultyWorld _) s).1 = some "1" ∧
    ((storedVersion "cache" : StateM FaultyWorld _) (put "../VERSION")).1 = some "e\n\n" := by
  decide +kernel

end Store

end WikiMarkup
