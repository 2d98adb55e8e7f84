-- SUMMARY: Where a path leads if it leads anywhere, and that making, writing, removing and reading have to do with that place only.
import WikiMarkup.Proofs.StoreFiles

/-!
# Changes of trees

Whatever a path looks like, following it ends at one place if at all: `destination` gives it from
the names alone. So what an operation does is known without following the path. A directory is made
there, a file is written there, and a tree is removed there and below; everything else stays.
-/

namespace WikiMarkup

namespace Path

/-- The last piece that is not trimmed off is the last name, unless it is a point. -/
theorem names_of_trimmedPieces {path name : String} {before : List String}
    (h : Tree.trimmedPieces path = before ++ [name]) (hname : name ≠ ".") :
    leadsOn name ∧ names path = before.filter leadsOn ++ [name] := by
  have hleads : leadsOn name = true := by
    cases hleads : leadsOn name with
    | true => rfl
    | false =>
      rcases leadsOn_eq_false_iff.mp hleads with hempty | hhere
      · exact absurd hempty (ne_empty_of_trimmedPieces h)
      · exact absurd hhere hname
  obtain ⟨count, hpieces⟩ := pieces_eq_trimmedPieces path
  rw [h, List.append_assoc] at hpieces
  exact ⟨hleads, names_of_pieces hpieces hleads⟩

theorem endsWithSlash_of_pieces {path : String} {before : List String}
    (h : pieces path = before ++ [""]) (hne : before ≠ []) : endsWithSlash path = true := by
  have htext : path = "/".intercalate before ++ "/" := by
    rw [← intercalate_pieces path, h,
      String.intercalate_append_of_ne_nil hne (List.cons_ne_nil _ _)]
    simp
  rw [endsWithSlash, decide_eq_true_iff, htext, String.toList_append]
  exact List.getLast?_concat

/-- Without a slash at the end nothing is trimmed off. -/
theorem pieces_of_trimmedPieces {path name : String} {before : List String}
    (h : Tree.trimmedPieces path = before ++ [name]) (hslash : endsWithSlash path = false) :
    pieces path = before ++ [name] := by
  obtain ⟨count, hpieces⟩ := pieces_eq_trimmedPieces path
  cases count with
  | zero => rwa [List.replicate_zero, List.append_nil, h] at hpieces
  | succ count =>
    rw [List.replicate_succ', ← List.append_assoc] at hpieces
    rw [endsWithSlash_of_pieces hpieces (by simp [h])] at hslash
    cases hslash

end Path

namespace Tree

variable {t t' : Tree} {here place loc directory : Location} {left right name path : String}
  {contents : List UInt8}

/-! ## Where a path can lead -/

/-- Where names lead if they lead anywhere. -/
def resolve : Location → List String → Location
  | here, [] => here
  | here, name :: names => resolve (if name = ".." then here.dropLast else here ++ [name]) names

theorem resolve_append (here : Location) (names more : List String) :
    resolve here (names ++ more) = resolve (resolve here names) more := by
  induction names generalizing here with
  | nil => rfl
  | cons name names ih => exact ih _

theorem resolve_concat (here : Location) (names : List String) (hname : name ≠ "..") :
    resolve here (names ++ [name]) = resolve here names ++ [name] := by
  rw [resolve_append, resolve, if_neg hname, resolve]

/-- A step over a name is taken back to the directory above or on to the name. -/
theorem step_leadsOn {piece : String} {next : Location} (hleads : Path.leadsOn piece)
    (h : t.step here piece = .ok next) :
    next = if piece = ".." then here.dropLast else here ++ [piece] := by
  have hsilent : ¬ (piece = "" ∨ piece = ".") := fun hsilent => by
    rw [Path.leadsOn_eq_false_iff.mpr hsilent] at hleads
    cases hleads
  rw [step, directory_of_step h] at h
  simp only [hsilent, if_false] at h
  split at h
  · next hup => rw [if_pos hup, ← Except.ok.inj h]
  · next hup =>
    split at h
    · cases h
    · split at h
      · rw [if_neg hup, ← Except.ok.inj h]
      · cases h

theorem follow_eq_resolve {pieces : List String} (h : t.follow here pieces = .ok place) :
    place = resolve here (pieces.filter Path.leadsOn) := by
  induction pieces generalizing here with
  | nil => exact (Except.ok.inj h).symm
  | cons piece pieces ih =>
    obtain ⟨next, hstep, hrest⟩ := follow_cons_eq_ok h
    cases hleads : Path.leadsOn piece with
    | false =>
      rw [List.filter_cons_of_neg (by simp [hleads]), ih hrest, step_silent hleads hstep]
    | true =>
      rw [List.filter_cons_of_pos hleads, resolve, ← step_leadsOn hleads hstep]
      exact ih hrest

/-- Where a path leads from a directory if it leads anywhere. -/
def destination (directory : Location) (path : String) : Location :=
  resolve (start directory path) (Path.names path)

/-- The places where the first names of a path lead. -/
def OnWay (directory : Location) (path : String) (loc : Location) : Prop :=
  ∃ names, names <+: Path.names path ∧ loc = resolve (start directory path) names

theorem destination_join_relative (h : Path.isAbsolute right = false) (directory : Location)
    (left : String) :
    destination directory (Path.join left right) =
      resolve (destination directory left) (Path.names right) := by
  rw [destination, start_join_relative h, Path.names_join_relative h, resolve_append, destination]

theorem destination_join (hname : Path.IsName name) (directory : Location) (left : String) :
    destination directory (Path.join left name) = destination directory left ++ [name] := by
  rw [destination_join_relative hname.isAbsolute, hname.names, resolve, if_neg hname.ne_up, resolve]

theorem follow_of_locate (h : t.locate directory path = .ok place) :
    t.follow (start directory path) (Path.pieces path) = .ok place := by
  rw [locate] at h
  cases hcheck : checkPath path with
  | error e => rw [hcheck] at h; cases h
  | ok u => rwa [hcheck] at h

theorem locate_eq_ok (h : t.locate directory path = .ok place) :
    place = destination directory path :=
  follow_eq_resolve (follow_of_locate h)

/-- What is read is in the file to which the path leads. -/
theorem contents?_of_readFile (h : (t.readFile directory path).toOption = some contents) :
    t.contents? (destination directory path) = some contents := by
  rw [toOption_readFile, find?] at h
  cases hlocate : t.locate directory path with
  | error e => rw [hlocate] at h; cases h
  | ok found =>
    rw [hlocate, locate_eq_ok hlocate] at h
    exact h

/-! ## What an operation changes -/

/-- Where the last piece of a path is placed is known from its text. -/
theorem locateNew_eq_ok (h : t.locateNew directory path (trimmedPieces path) = .ok (place, name)) :
    t.get? place = some .directory ∧ ∃ before, trimmedPieces path = before ++ [name] ∧
      place = resolve (start directory path) (before.filter Path.leadsOn) := by
  rw [locateNew] at h
  cases hcheck : checkPath path with
  | error e => rw [hcheck] at h; cases h
  | ok u =>
    rcases List.eq_nil_or_concat (trimmedPieces path) with hnil | ⟨before, last, hlast⟩
    · rw [hcheck, hnil] at h
      cases h
    · rw [List.concat_eq_append] at hlast
      simp only [hcheck, hlast, List.getLast?_concat, List.dropLast_concat, bind, Except.bind] at h
      cases hfollow : t.follow (start directory path) before with
      | error e => rw [hfollow] at h; cases h
      | ok above =>
        rw [hfollow] at h
        dsimp only at h
        split at h
        · next habove =>
          cases h
          exact ⟨habove, before, hlast, follow_eq_resolve hfollow⟩
        · cases h
        · cases h

/-- The last piece, if it is a name of its own, is placed where the path leads. -/
theorem destination_of_trimmedPieces {before : List String}
    (h : trimmedPieces path = before ++ [name]) (hhere : name ≠ ".") (hup : name ≠ "..")
    (directory : Location) :
    destination directory path =
      resolve (start directory path) (before.filter Path.leadsOn) ++ [name] := by
  rw [destination, (Path.names_of_trimmedPieces h hhere).2, resolve_concat _ _ hup]

/-- A directory is made where the path leads. -/
theorem grows_of_makeDirectory (h : t.makeDirectory directory path = .ok t') :
    Grows t t' (· = destination directory path) := by
  rw [makeDirectory] at h
  cases hlocate : t.locateNew directory path (trimmedPieces path) with
  | error e => rw [hlocate] at h; cases h
  | ok found =>
    obtain ⟨place, name⟩ := found
    obtain ⟨habove, before, htrimmed, hplace⟩ := locateNew_eq_ok hlocate
    rw [hlocate] at h
    change (if name = "." ∨ name = ".." then _ else _) = _ at h
    split at h
    · cases h
    next hdots =>
    obtain ⟨hhere, hup⟩ := not_or.mp hdots
    split at h
    · cases h
    split at h
    · cases h
    next hnone =>
    rw [destination_of_trimmedPieces htrimmed hhere hup, ← hplace, ← Except.ok.inj h]
    exact grows_set habove (by simpa using hnone)

/-- A file is written in a directory, where the path leads, and not in place of a directory. Its
name is the last piece of the path. -/
theorem writeFile_eq_ok (h : t.writeFile directory path contents = .ok t') :
    ∃ above before name, destination directory path = above ++ [name] ∧
      Path.pieces path = before ++ [name] ∧ Path.leadsOn name ∧ name ≠ ".." ∧
      t.get? above = some .directory ∧ t.get? (above ++ [name]) ≠ some .directory ∧
      t' = t.set (above ++ [name]) (.file contents) := by
  rw [writeFile] at h
  cases hlocate : t.locateNew directory path (trimmedPieces path) with
  | error e => rw [hlocate] at h; cases h
  | ok found =>
    obtain ⟨above, name⟩ := found
    obtain ⟨habove, before, htrimmed, hplace⟩ := locateNew_eq_ok hlocate
    rw [hlocate] at h
    change (if Path.endsWithSlash path ∨ name = "." ∨ name = ".." then _ else if _ then _ else _) =
      _ at h
    split at h
    · cases h
    next hend =>
    obtain ⟨hslash, hdots⟩ := not_or.mp hend
    obtain ⟨hhere, hup⟩ := not_or.mp hdots
    split at h
    · cases h
    split at h
    · cases h
    next hfree =>
    refine ⟨above, before, name, ?_, ?_, (Path.names_of_trimmedPieces htrimmed hhere).1, hup, habove,
      hfree, (Except.ok.inj h).symm⟩
    · rw [destination_of_trimmedPieces htrimmed hhere hup, ← hplace]
    · exact Path.pieces_of_trimmedPieces htrimmed (by simpa using hslash)

theorem get?_clear (place loc : Location) :
    (t.clear place).get? loc = if place <+: loc ∧ loc ≠ place then none else t.get? loc := by
  by_cases hloc : loc = []
  · have hbelow : ¬ (place <+: loc ∧ loc ≠ place) := fun ⟨habove, hne⟩ =>
      hne (hloc.trans (List.prefix_nil.mp (hloc ▸ habove)).symm)
    rw [if_neg hbelow, hloc, get?_nil, get?_nil]
  rw [get?_of_ne_nil _ hloc, get?_of_ne_nil _ hloc, clear, List.find?_filter]
  by_cases hbelow : place <+: loc ∧ loc ≠ place
  · rw [if_pos hbelow, List.find?_eq_none.mpr, Option.map_none]
    intro entry _
    by_cases hentry : entry.1 = loc
    · simp [hentry, hbelow]
    · simp [hentry]
  · rw [if_neg hbelow]
    congr 2
    funext entry
    by_cases hentry : entry.1 = loc
    · simpa [hentry] using Classical.not_and_iff_not_or_not.mp hbelow
    · simp [hentry]

theorem Closed.clear (h : Closed t) (place : Location) : Closed (t.clear place) := by
  intro loc node hnode
  rw [get?_clear] at hnode ⊢
  split at hnode
  · cases hnode
  · next hloc =>
    rw [if_neg, h loc node hnode]
    rintro ⟨hbelow, hne⟩
    refine hloc ⟨hbelow.trans (List.dropLast_prefix loc), ?_⟩
    rintro rfl
    exact hne (hbelow.eq_of_length_le (List.dropLast_prefix loc).length_le).symm

/-- What is removed is where the path leads and below. -/
theorem removeTree_cases (t : Tree) (directory : Location) (path : String) :
    (t.removeTree directory path).2 = t ∨
      (t.removeTree directory path).2 = t.clear (destination directory path) ∨
      (destination directory path ≠ [] ∧
        (t.removeTree directory path).2 = t.without (destination directory path)) := by
  rw [removeTree]
  cases hlocate : t.locate directory path with
  | error e => exact .inl rfl
  | ok place =>
    rw [← locate_eq_ok hlocate]
    dsimp only
    split
    · split
      · exact .inr (.inl rfl)
      · exact .inr (.inl rfl)
      · exact .inr (.inl rfl)
      · next last hhere hup hlast =>
        obtain ⟨before, htrimmed⟩ := List.getLast?_eq_some_iff.mp hlast
        refine .inr (.inr ⟨?_, rfl⟩)
        rw [locate_eq_ok hlocate, destination_of_trimmedPieces htrimmed hhere hup]
        exact List.append_ne_nil_of_right_ne_nil _ (List.cons_ne_nil _ _)
    · exact .inl rfl
    · exact .inl rfl

theorem get?_removeTree (h : ¬ destination directory path <+: loc) :
    (t.removeTree directory path).2.get? loc = t.get? loc := by
  rcases removeTree_cases t directory path with heq | heq | ⟨hne, heq⟩
  · rw [heq]
  · rw [heq, get?_clear, if_neg fun hbelow => h hbelow.1]
  · rw [heq, get?_without hne, if_neg h]

theorem Closed.removeTree (h : Closed t) (directory : Location) (path : String) :
    Closed (t.removeTree directory path).2 := by
  rcases removeTree_cases t directory path with heq | heq | ⟨hne, heq⟩
  · rwa [heq]
  · rw [heq]
    exact h.clear _
  · rw [heq]
    exact h.without hne

theorem contents?_set_file (hplace : place ≠ []) (contents : List UInt8) (loc : Location) :
    (t.set place (.file contents)).contents? loc =
      if loc = place then some contents else t.contents? loc := by
  rw [contents?, contents?, get?_set hplace]
  by_cases hloc : loc = place
  · rw [if_pos hloc, if_pos hloc]
  · rw [if_neg hloc, if_neg hloc]

/-- A file that is written changes what is at its place. -/
theorem contents?_of_writeFile (h : t.writeFile directory path contents = .ok t') (loc : Location) :
    t'.contents? loc =
      if loc = destination directory path then some contents else t.contents? loc := by
  obtain ⟨above, -, name, hplace, -, -, -, -, -, rfl⟩ := writeFile_eq_ok h
  rw [hplace]
  exact contents?_set_file (by simp) contents loc

theorem Closed.writeFile (hclosed : Closed t) (h : t.writeFile directory path contents = .ok t') :
    Closed t' := by
  obtain ⟨above, -, name, -, -, -, -, habove, hfree, rfl⟩ := writeFile_eq_ok h
  exact hclosed.set habove (.inr hfree)

end Tree

end WikiMarkup
