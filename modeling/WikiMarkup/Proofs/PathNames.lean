-- SUMMARY: What joining and taking the parent do to the names in a path: a name is put behind the others, and the last one is taken away.
import WikiMarkup.Files.Tree

/-!
# Names in paths

Of the pieces of a path the empty ones and single points lead nowhere; the others are its names.
Joining puts a name behind those of a path and taking the parent takes the last one away, whatever
slashes and points stand between them. The parent of a path is also a beginning of its text, so it
is no longer than the path and holds no other characters.
-/

namespace WikiMarkup.Path

/-- Whether a piece of a path leads on. -/
def leadsOn (piece : String) : Bool := piece ≠ "" && piece ≠ "."

/-- The pieces of a path that lead on. -/
def names (path : String) : List String := (pieces path).filter leadsOn

/-- A piece that names something in the directory before it. -/
structure IsName (name : String) : Prop where
  ne_empty : name ≠ ""
  ne_here : name ≠ "."
  ne_up : name ≠ ".."
  no_slash : '/' ∉ name.toList
  no_nul : Char.ofNat 0 ∉ name.toList
  fits : name.utf8ByteSize ≤ Tree.maxName

theorem IsName.leadsOn {name : String} (h : IsName name) : leadsOn name = true := by
  simp [Path.leadsOn, h.ne_empty, h.ne_here]

theorem leadsOn_eq_false_iff {piece : String} : leadsOn piece = false ↔ piece = "" ∨ piece = "." := by
  simp only [leadsOn, Bool.and_eq_false_iff, decide_eq_false_iff_not,
    Decidable.not_not, ne_eq]

theorem names_empty : names "" = [] := rfl

/-! ## Pieces -/

theorem splitChars_eq (s : List Char) : splitChars s = s.splitOn '/' := by
  induction s with
  | nil => rfl
  | cons c s ih =>
    by_cases hc : c = '/'
    · subst hc
      rw [splitChars, if_pos rfl, ih]
      exact (List.splitOn_append_cons_self (a := '/') [] s).symm
    · have hsplit : (c :: s).splitOn '/' = (s.splitOn '/').modifyHead (List.cons c) := by
        simp [List.splitOn, List.splitOnP_cons_eq_if_modifyHead, hc]
      rw [splitChars, if_neg hc, ih, hsplit]
      cases hs : s.splitOn '/' with
      | nil => exact absurd hs (List.splitOn_ne_nil _ _)
      | cons part parts => rfl

theorem not_mem_of_mem_splitChars {s part : List Char} (h : part ∈ splitChars s) : '/' ∉ part := by
  induction s generalizing part with
  | nil =>
    rw [splitChars, List.mem_singleton] at h
    simp [h]
  | cons c s ih =>
    rw [splitChars] at h
    split at h
    · rcases List.mem_cons.mp h with rfl | h
      · exact List.not_mem_nil
      · exact ih h
    · next hc =>
      split at h
      · simp only [List.mem_singleton] at h
        simp [h, Ne.symm hc]
      · next first parts hparts =>
        rcases List.mem_cons.mp h with rfl | h
        · have hfirst := ih (hparts ▸ List.mem_cons_self)
          simp [Ne.symm hc, hfirst]
        · exact ih (hparts ▸ List.mem_cons_of_mem _ h)

theorem no_slash_of_mem_pieces (path : String) {piece : String} (h : piece ∈ pieces path) :
    '/' ∉ piece.toList := by
  obtain ⟨part, hpart, rfl⟩ := List.mem_map.mp h
  rw [String.toList_ofList]
  exact not_mem_of_mem_splitChars hpart

theorem pieces_eq (path : String) :
    pieces path = (path.toList.splitOn '/').map String.ofList := by
  rw [pieces, splitChars_eq]

theorem pieces_ne_nil (path : String) : pieces path ≠ [] := by
  rw [pieces_eq]
  simp

theorem intercalate_pieces (path : String) : "/".intercalate (pieces path) = path := by
  have htexts : (pieces path).map String.toList = path.toList.splitOn '/' := by
    rw [pieces_eq, List.map_map]
    simp [Function.comp_def]
  apply String.toList_injective
  rw [String.toList_intercalate, htexts]
  exact List.intercalate_splitOn '/'

theorem pieces_intercalate {ps : List String} (hslash : ∀ p ∈ ps, '/' ∉ p.toList)
    (hne : ps ≠ []) : pieces ("/".intercalate ps) = ps := by
  have hsplit : ("/".intercalate ps).toList.splitOn '/' = ps.map String.toList := by
    rw [String.toList_intercalate]
    apply List.splitOn_intercalate '/'
    · intro part hpart
      obtain ⟨p, hp, rfl⟩ := List.mem_map.mp hpart
      exact hslash p hp
    · simpa using hne
  rw [pieces_eq, hsplit, List.map_map]
  simp [Function.comp_def]

theorem pieces_append_slash (left right : String) :
    pieces (left ++ "/" ++ right) = pieces left ++ pieces right := by
  have htext : (left ++ "/" ++ right).toList = left.toList ++ '/' :: right.toList := by simp
  rw [pieces_eq, htext, List.splitOn_append_cons_self, List.map_append, ← pieces_eq, ← pieces_eq]

theorem pieces_of_no_slash {name : String} (h : '/' ∉ name.toList) : pieces name = [name] := by
  rw [pieces_eq, List.splitOn_eq_singleton h, List.map_singleton, String.ofList_toList]

/-! ## Absolute paths -/

theorem isAbsolute_of_no_slash {name : String} (h : '/' ∉ name.toList) :
    isAbsolute name = false := by
  rw [isAbsolute, decide_eq_false_iff_not]
  intro hhead
  exact h (List.mem_of_mem_head? hhead)

/-- With a slash in it, a path is absolute if nothing stands before the first one. -/
theorem isAbsolute_of_pieces {path first second : String} {rest : List String}
    (h : pieces path = first :: second :: rest) : isAbsolute path = decide (first = "") := by
  have htext : path = first ++ "/" ++ "/".intercalate (second :: rest) := by
    rw [← intercalate_pieces path, h, String.intercalate_cons_cons]
  have hslash := no_slash_of_mem_pieces path (h ▸ List.mem_cons_self)
  rw [isAbsolute, decide_eq_decide, htext]
  cases hfirst : first.toList with
  | nil =>
    have hempty : first = "" := String.toList_injective hfirst
    simp [hempty]
  | cons c cs =>
    have hc : c ≠ '/' := by
      rintro rfl
      exact hslash (hfirst ▸ List.mem_cons_self)
    have hne : first ≠ "" := by
      rintro rfl
      cases hfirst
    simp [hfirst, hc, hne]

/-! ## Joining -/

variable {left right name : String}

theorem IsName.isAbsolute (h : IsName name) : Path.isAbsolute name = false :=
  isAbsolute_of_no_slash h.no_slash

theorem IsName.names (h : IsName name) : Path.names name = [name] := by
  rw [Path.names, pieces_of_no_slash h.no_slash, List.filter_cons_of_pos h.leadsOn,
    List.filter_nil]

/-- What is not absolute stands behind a slash, its own or that of the path. -/
theorem join_cases (h : isAbsolute right = false) (left : String) :
    (left = "" ∧ join left right = right) ∨
      (left ≠ "" ∧ ∃ before, (left = before ++ "/" ∨ left = before) ∧
        join left right = before ++ "/" ++ right) := by
  rw [join, h, if_neg Bool.false_ne_true]
  by_cases hempty : left = ""
  · left
    subst hempty
    exact ⟨rfl, by simp⟩
  right
  refine ⟨hempty, ?_⟩
  cases hslash : endsWithSlash left with
  | true =>
    have hlast : left.toList.getLast? = some '/' := by simpa [endsWithSlash] using hslash
    obtain ⟨before, hbefore⟩ := List.getLast?_eq_some_iff.mp hlast
    have htext : left = String.ofList before ++ "/" := by
      apply String.toList_injective
      simpa using hbefore
    refine ⟨String.ofList before, .inl htext, ?_⟩
    rw [if_pos (by simp), ← htext]
  | false => exact ⟨left, .inr rfl, by rw [if_neg (by simpa using hempty)]⟩

/-- The pieces of what is joined to a path are the last ones, and the names before them are those of
the path. -/
theorem pieces_join_relative (h : isAbsolute right = false) (left : String) :
    ∃ before, pieces (join left right) = before ++ pieces right ∧
      before.filter leadsOn = names left := by
  rcases join_cases h left with ⟨rfl, hjoin⟩ | ⟨-, before, rfl | rfl, hjoin⟩
  · exact ⟨[], by rw [hjoin]; rfl, rfl⟩
  · refine ⟨pieces before, by rw [hjoin, pieces_append_slash], ?_⟩
    have hpieces : pieces (before ++ "/") = pieces before ++ pieces "" := by
      rw [← pieces_append_slash, String.append_empty]
    rw [Path.names, hpieces, List.filter_append]
    exact (List.append_nil _).symm
  · exact ⟨pieces left, by rw [hjoin, pieces_append_slash], rfl⟩

theorem names_join_relative (h : isAbsolute right = false) (left : String) :
    names (join left right) = names left ++ names right := by
  obtain ⟨before, hpieces, hnames⟩ := pieces_join_relative h left
  rw [Path.names, hpieces, List.filter_append, hnames]
  rfl

/-- A name that is joined to a path is its last piece, and the names before it are those of the
path. -/
theorem pieces_join (h : IsName name) (left : String) :
    ∃ before, pieces (join left name) = before ++ [name] ∧ before.filter leadsOn = names left := by
  rw [← pieces_of_no_slash h.no_slash]
  exact pieces_join_relative h.isAbsolute left

theorem names_join (h : IsName name) (left : String) :
    names (join left name) = names left ++ [name] := by
  rw [names_join_relative h.isAbsolute, h.names]

theorem isAbsolute_append {left : String} (h : left ≠ "") (right : String) :
    isAbsolute (left ++ right) = isAbsolute left := by
  cases hleft : left.toList with
  | nil => exact absurd (String.toList_injective hleft) h
  | cons c cs => simp [isAbsolute, hleft]

theorem isAbsolute_join_relative (h : isAbsolute right = false) (left : String) :
    isAbsolute (join left right) = isAbsolute left := by
  rcases join_cases h left with ⟨rfl, hjoin⟩ | ⟨hne, before, rfl | rfl, hjoin⟩
  · rw [hjoin, h]
    rfl
  · rw [hjoin, isAbsolute_append hne]
  · rw [hjoin, String.append_assoc, isAbsolute_append hne]

theorem isAbsolute_join (h : IsName name) (left : String) :
    isAbsolute (join left name) = isAbsolute left :=
  isAbsolute_join_relative h.isAbsolute left

theorem endsWithSlash_join (h : IsName name) (left : String) :
    endsWithSlash (join left name) = false := by
  have hlast : ∀ before : String, (before ++ name).toList.getLast? ≠ some '/' := by
    intro before hslash
    obtain ⟨chars, c, hchars⟩ : ∃ chars c, name.toList = chars ++ [c] := by
      have hne : name.toList ≠ [] := fun hnil => h.ne_empty (String.toList_injective hnil)
      exact ⟨_, _, (List.dropLast_concat_getLast hne).symm⟩
    rw [String.toList_append, hchars, ← List.append_assoc, List.getLast?_concat,
      Option.some.injEq] at hslash
    exact h.no_slash (by rw [hchars, hslash]; exact List.mem_append_right _ List.mem_cons_self)
  rw [endsWithSlash, decide_eq_false_iff_not]
  rcases join_cases h.isAbsolute left with ⟨-, hjoin⟩ | ⟨-, before, -, hjoin⟩
  · rw [hjoin, ← String.empty_append (s := name)]
    exact hlast ""
  · rw [hjoin]
    exact hlast _

/-! ## Paths that are not refused as texts -/

/-- A path without a zero character that is not too long. -/
structure Valid (path : String) : Prop where
  no_nul : Char.ofNat 0 ∉ path.toList
  fits : path.utf8ByteSize < Tree.maxPath

theorem Valid.checkPath {path : String} (h : Valid path) (hne : path ≠ "") :
    Tree.checkPath path = .ok () := by
  rw [Tree.checkPath, if_neg (by simpa using h.no_nul), if_neg (by simpa using hne),
    if_neg (Nat.not_le.mpr h.fits)]

/-- A path that goes on from a valid one is no reason to refuse the valid one. -/
theorem Valid.of_append {path rest : String} (h : Valid (path ++ rest)) : Valid path := by
  refine ⟨fun hmem => h.no_nul (by simp [hmem]), ?_⟩
  have hfits := h.fits
  rw [String.utf8ByteSize_append] at hfits
  omega

/-- A joined name takes as many bytes as it has, and a slash. -/
theorem utf8ByteSize_join_le (h : IsName name) (left : String) :
    (join left name).utf8ByteSize ≤ left.utf8ByteSize + 1 + name.utf8ByteSize := by
  have hslash : "/".utf8ByteSize = 1 := rfl
  rcases join_cases h.isAbsolute left with ⟨rfl, hjoin⟩ | ⟨-, before, rfl | rfl, hjoin⟩
  · rw [hjoin]
    omega
  · rw [hjoin]
    simp only [String.utf8ByteSize_append]
    omega
  · rw [hjoin]
    simp only [String.utf8ByteSize_append]
    omega

theorem no_nul_join (h : IsName name) {left : String} (hleft : Char.ofNat 0 ∉ left.toList) :
    Char.ofNat 0 ∉ (join left name).toList := by
  have hname := h.no_nul
  have hslash : Char.ofNat 0 ≠ '/' := by decide
  rcases join_cases h.isAbsolute left with ⟨rfl, hjoin⟩ | ⟨-, before, rfl | rfl, hjoin⟩
  · rwa [hjoin]
  · rw [hjoin]
    simp_all
  · rw [hjoin]
    simp_all

/-! ## Parents -/

theorem names_of_pieces {path name : String} {before : List String} {count : Nat}
    (hpieces : pieces path = before ++ name :: List.replicate count "") (hname : leadsOn name) :
    names path = before.filter leadsOn ++ [name] := by
  rw [names, hpieces, List.filter_append, List.filter_cons_of_pos hname, List.filter_replicate]
  rfl

/-- Behind the last name of the path there are at most slashes. -/
def EndsInName (path : String) : Prop :=
  ∃ before name count, pieces path = before ++ name :: List.replicate count "" ∧ leadsOn name

/-- Only empty pieces are trimmed off. -/
theorem pieces_eq_trimmedPieces (path : String) :
    ∃ count, pieces path = Tree.trimmedPieces path ++ List.replicate count "" := by
  have hempty : ∀ piece ∈ (pieces path).reverse.takeWhile (· = ""), piece = "" := fun piece hmem =>
    of_decide_eq_true (List.all_eq_true.mp List.all_takeWhile piece hmem)
  refine ⟨((pieces path).reverse.takeWhile (· = "")).length, ?_⟩
  have hsplit := List.takeWhile_append_dropWhile (p := (· = "")) (l := (pieces path).reverse)
  rw [List.eq_replicate_iff.mpr ⟨rfl, hempty⟩] at hsplit
  rw [Tree.trimmedPieces, ← List.reverse_replicate, ← List.reverse_append, hsplit,
    List.reverse_reverse]

/-- The last piece that is not trimmed off is not empty. -/
theorem ne_empty_of_trimmedPieces {path last : String} {before : List String}
    (h : Tree.trimmedPieces path = before ++ [last]) : last ≠ "" := by
  rintro rfl
  have hdrop : (pieces path).reverse.dropWhile (· = "") = "" :: before.reverse := by
    rw [← List.reverse_reverse ((pieces path).reverse.dropWhile (· = ""))]
    exact (congrArg List.reverse h).trans (by simp)
  have hkept := List.head?_dropWhile_not (· = "") (pieces path).reverse
  rw [hdrop] at hkept
  simp at hkept

theorem trimmedPieces_eq {path name : String} {before : List String} {count : Nat}
    (hpieces : pieces path = before ++ name :: List.replicate count "") (hname : leadsOn name) :
    Tree.trimmedPieces path = before ++ [name] := by
  have hne : name ≠ "" := by
    rintro rfl
    cases hname
  rw [Tree.trimmedPieces, hpieces, List.reverse_append, List.reverse_cons, List.append_assoc,
    List.reverse_replicate, List.dropWhile_append_of_pos, List.singleton_append,
    List.dropWhile_cons_of_neg (by simpa using hne), List.reverse_cons, List.reverse_reverse]
  intro piece hmem
  simp [List.eq_of_mem_replicate hmem]

theorem length_names_le (path : String) : (names path).length ≤ path.length + 1 := by
  have hsplit : ∀ s, (splitChars s).length ≤ s.length + 1 := by
    intro s
    induction s with
    | nil => exact Nat.le_refl 1
    | cons c s ih =>
      rw [splitChars]
      split
      · rw [List.length_cons, List.length_cons]
        omega
      · split
        · simp
        · next hparts =>
          rw [hparts, List.length_cons] at ih
          rw [List.length_cons, List.length_cons]
          omega
  calc (names path).length
      ≤ (pieces path).length := List.length_filter_le _ _
    _ = (splitChars path.toList).length := List.length_map ..
    _ ≤ path.length + 1 := hsplit path.toList

/-- Dropping pieces that lead nowhere ends at one that does, or at the first one. -/
theorem dropSilent_spec (ps : List String) (hne : ps ≠ []) :
    ∃ dropped, ps = dropped ++ dropSilent ps ∧ (∀ piece ∈ dropped, leadsOn piece = false) ∧
      ((∃ first, dropSilent ps = [first]) ∨
        ∃ name rest, dropSilent ps = name :: rest ∧ leadsOn name) := by
  induction ps with
  | nil => exact absurd rfl hne
  | cons piece rest ih =>
    cases rest with
    | nil => exact ⟨[], rfl, by simp, .inl ⟨piece, rfl⟩⟩
    | cons next rest =>
      by_cases hsilent : piece = "" ∨ piece = "."
      · obtain ⟨dropped, hsplit, hdropped, hend⟩ := ih (List.cons_ne_nil _ _)
        rw [dropSilent, if_pos hsilent]
        · refine ⟨piece :: dropped, by rw [List.cons_append, ← hsplit], ?_, hend⟩
          intro p hp
          rcases List.mem_cons.mp hp with rfl | hp
          · exact leadsOn_eq_false_iff.mpr hsilent
          · exact hdropped p hp
        · simp
      · rw [dropSilent, if_neg hsilent]
        · refine ⟨[], rfl, by simp, .inr ⟨piece, next :: rest, rfl, ?_⟩⟩
          cases hleads : leadsOn piece with
          | true => rfl
          | false => exact absurd (leadsOn_eq_false_iff.mp hleads) hsilent
        · simp

theorem dropSilent_append {silent rest : List String} {name : String}
    (hsilent : ∀ piece ∈ silent, leadsOn piece = false) (hname : leadsOn name) :
    dropSilent (silent ++ name :: rest) = name :: rest := by
  induction silent with
  | nil =>
    cases rest with
    | nil => rfl
    | cons next rest =>
      have hkeep : ¬ (name = "" ∨ name = ".") := by
        intro hdrop
        rw [leadsOn_eq_false_iff.mpr hdrop] at hname
        cases hname
      rw [List.nil_append, dropSilent, if_neg hkeep]
      simp
  | cons piece silent ih =>
    have hpiece := leadsOn_eq_false_iff.mp (hsilent piece List.mem_cons_self)
    rw [List.cons_append, dropSilent, if_pos hpiece]
    · exact ih fun p hp => hsilent p (List.mem_cons_of_mem _ hp)
    · simp

/-- The path of the first pieces of a path is a beginning of it. -/
theorem intercalate_spec {path : String} {kept behind : List String}
    (hpieces : pieces path = kept ++ behind) (hkept : kept ≠ []) (hbehind : behind ≠ [])
    (hroot : kept ≠ [""]) :
    pieces ("/".intercalate kept) = kept ∧
      (∃ rest, path = "/".intercalate kept ++ rest) ∧
      isAbsolute ("/".intercalate kept) = isAbsolute path := by
  have hslash : ∀ p ∈ kept, '/' ∉ p.toList := fun p hp =>
    no_slash_of_mem_pieces path (hpieces ▸ List.mem_append_left _ hp)
  have hself := pieces_intercalate hslash hkept
  refine ⟨hself, ⟨"/" ++ "/".intercalate behind, ?_⟩, ?_⟩
  · rw [← intercalate_pieces path, hpieces,
      String.intercalate_append_of_ne_nil hkept hbehind, String.append_assoc]
  obtain ⟨first, more, rfl⟩ := List.exists_cons_of_ne_nil hkept
  obtain ⟨next, rest, rfl⟩ := List.exists_cons_of_ne_nil hbehind
  cases more with
  | nil =>
    have hfirst : first ≠ "" := fun hfirst => hroot (by rw [hfirst])
    rw [isAbsolute_of_pieces hpieces, String.intercalate_singleton,
      isAbsolute_of_no_slash (hslash first List.mem_cons_self), decide_eq_false hfirst]
  | cons second more =>
    rw [isAbsolute_of_pieces hpieces, isAbsolute_of_pieces hself]

theorem parent?_eq {path name : String} {behind : List String}
    (h : dropSilent (pieces path).reverse = name :: behind) (hne : behind ≠ []) :
    parent? path = some (if dropSilent behind = [""] then "/"
      else "/".intercalate (dropSilent behind).reverse) := by
  obtain ⟨next, rest, rfl⟩ := List.exists_cons_of_ne_nil hne
  rw [parent?, h]
  split
  · next heq => cases heq
  · next heq => cases heq
  · next heq => cases heq
  · next heq =>
    cases heq
    split
    · next hroot => rw [if_pos hroot]
    · next hroot => rw [if_neg hroot]

/-- The parent of a path of one piece is the empty path. -/
theorem parent?_eq_empty {path name : String} (h : dropSilent (pieces path).reverse = [name])
    (hname : name ≠ "") : parent? path = some "" ∧ isAbsolute path = false := by
  refine ⟨?_, ?_⟩
  · rw [parent?, h]
    split
    · next heq => cases heq
    · next heq => exact absurd (List.singleton_inj.mp heq) hname
    · rfl
    · next hother heq => exact absurd (List.cons.inj heq).2.symm hother
  obtain ⟨dropped, hsplit, -, -⟩ := dropSilent_spec (pieces path).reverse (by simp [pieces_ne_nil])
  rw [h, List.reverse_eq_iff, List.reverse_append, List.reverse_singleton] at hsplit
  cases hdropped : dropped.reverse with
  | nil =>
    rw [hdropped, List.append_nil] at hsplit
    have hslash := no_slash_of_mem_pieces path (hsplit ▸ List.mem_cons_self)
    have htext : path = name := by
      rw [← intercalate_pieces path, hsplit]
      exact String.intercalate_singleton
    rw [htext, isAbsolute_of_no_slash hslash]
  | cons next rest =>
    rw [hdropped] at hsplit
    rw [isAbsolute_of_pieces hsplit, decide_eq_false hname]

/-- The parent of a path of several pieces: its names are those before the last one that was not
dropped, and the path goes on from it. -/
theorem parent?_of_dropSilent {path name : String} {behind : List String}
    (h : dropSilent (pieces path).reverse = name :: behind) (hne : behind ≠ []) :
    ∃ parent rest, parent? path = some parent ∧ path = parent ++ rest ∧
      isAbsolute parent = isAbsolute path ∧ names parent = behind.reverse.filter leadsOn ∧
      (names parent = [] ∨ EndsInName parent) := by
  obtain ⟨silent, hpieces, -, -⟩ := dropSilent_spec (pieces path).reverse (by simp [pieces_ne_nil])
  obtain ⟨dropped, hsplit, hdropped, hend⟩ := dropSilent_spec behind hne
  have hparent := parent?_eq h hne
  rw [h, List.reverse_eq_iff, List.reverse_append, List.reverse_cons, List.append_assoc] at hpieces
  generalize dropSilent behind = kept at hsplit hend hparent
  have hparts : behind.reverse = kept.reverse ++ dropped.reverse := by
    rw [← List.reverse_append, ← hsplit]
  have hfilter : kept.reverse.filter leadsOn = behind.reverse.filter leadsOn := by
    have hnone : dropped.reverse.filter leadsOn = [] := by simpa using hdropped
    rw [hparts, List.filter_append, hnone, List.append_nil]
  have hkept : kept.reverse ≠ [] := by
    rcases hend with ⟨first, rfl⟩ | ⟨last, more, rfl, -⟩ <;> simp
  rw [hparts, List.append_assoc] at hpieces
  by_cases hroot : kept = [""]
  · subst hroot
    obtain ⟨next, more, hmore⟩ := List.exists_cons_of_ne_nil
      (show dropped.reverse ++ ([name] ++ silent.reverse) ≠ [] by simp)
    have htext : path = "/" ++ "/".intercalate (next :: more) := by
      rw [← intercalate_pieces path, hpieces, hmore]
      simp [String.intercalate_cons_cons]
    refine ⟨"/", _, by rw [hparent, if_pos rfl], htext, ?_, hfilter, .inl rfl⟩
    rw [htext, isAbsolute_append (by decide)]
  · obtain ⟨hself, ⟨rest, hrest⟩, habsolute⟩ :=
      intercalate_spec hpieces hkept (by simp) (by simpa using hroot)
    refine ⟨"/".intercalate kept.reverse, rest, by rw [hparent, if_neg hroot], hrest, habsolute,
      ?_, ?_⟩
    · rw [names, hself, hfilter]
    · rcases hend with ⟨first, rfl⟩ | ⟨last, more, rfl, hlast⟩
      · cases hleads : leadsOn first with
        | true => exact .inr ⟨[], first, 0, hself, hleads⟩
        | false => exact .inl (by rw [names, hself]; simp [hleads])
      · exact .inr ⟨more.reverse, last, 0, by rw [hself]; simp, hlast⟩

/-- The parent of a path that ends in a name: its names are those before, and the path goes on from
it. -/
theorem parent?_spec {path name : String} {before : List String} {count : Nat}
    (hpieces : pieces path = before ++ name :: List.replicate count "") (hname : leadsOn name) :
    ∃ parent rest, parent? path = some parent ∧ path = parent ++ rest ∧
      isAbsolute parent = isAbsolute path ∧ names parent = before.filter leadsOn ∧
      (names parent = [] ∨ EndsInName parent) := by
  have hne : name ≠ "" := by
    rintro rfl
    cases hname
  have hsilent : ∀ piece ∈ List.replicate count "", leadsOn piece = false := by
    intro piece hmem
    rw [List.eq_of_mem_replicate hmem]
    rfl
  have hdrop : dropSilent (pieces path).reverse = name :: before.reverse := by
    rw [hpieces, List.reverse_append, List.reverse_cons, List.append_assoc, List.reverse_replicate]
    exact dropSilent_append hsilent hname
  by_cases hbefore : before = []
  · subst hbefore
    obtain ⟨hparent, habsolute⟩ := parent?_eq_empty hdrop hne
    exact ⟨"", path, hparent, (String.empty_append).symm, habsolute.symm, rfl, .inl rfl⟩
  · have hparent := parent?_of_dropSilent hdrop (by simpa using hbefore)
    rwa [List.reverse_reverse] at hparent

/-- Whatever the path, its parent starts where it starts and has its first names. -/
theorem parent?_eq_some {path parent : String} (h : parent? path = some parent) :
    isAbsolute parent = isAbsolute path ∧ names parent <+: names path := by
  obtain ⟨silent, hpieces, -, hend⟩ :=
    dropSilent_spec (pieces path).reverse (by simp [pieces_ne_nil])
  obtain ⟨name, behind, hdrop⟩ :
      ∃ name behind, dropSilent (pieces path).reverse = name :: behind := by
    rcases hend with ⟨first, hfirst⟩ | ⟨name, rest, hrest, -⟩
    · exact ⟨first, [], hfirst⟩
    · exact ⟨name, rest, hrest⟩
  by_cases hbehind : behind = []
  · subst hbehind
    by_cases hname : name = ""
    · rw [parent?, hdrop, hname] at h
      cases h
    · obtain ⟨hparent, habsolute⟩ := parent?_eq_empty hdrop hname
      obtain rfl := Option.some.inj (h.symm.trans hparent)
      exact ⟨habsolute.symm, List.nil_prefix⟩
  · obtain ⟨_, -, hparent, -, habsolute, hnames, -⟩ := parent?_of_dropSilent hdrop hbehind
    obtain rfl := Option.some.inj (h.symm.trans hparent)
    refine ⟨habsolute, ?_⟩
    rw [hdrop, List.reverse_eq_iff, List.reverse_append, List.reverse_cons, List.append_assoc]
      at hpieces
    rw [hnames, names, hpieces, List.filter_append]
    exact List.prefix_append _ _

/-- Every path above a path starts where it starts and has its first names. -/
theorem of_mem_ancestorsFrom {fuel : Nat} {path above : String}
    (h : above ∈ ancestorsFrom fuel path) :
    isAbsolute above = isAbsolute path ∧ names above <+: names path := by
  induction fuel generalizing path with
  | zero => cases h
  | succ fuel ih =>
    rw [ancestorsFrom] at h
    cases hparent : parent? path with
    | none =>
      rw [hparent] at h
      obtain rfl := List.mem_singleton.mp h
      exact ⟨rfl, List.prefix_refl _⟩
    | some parent =>
      rw [hparent] at h
      rcases List.mem_cons.mp h with rfl | h
      · exact ⟨rfl, List.prefix_refl _⟩
      · obtain ⟨habsolute, hnames⟩ := ih h
        obtain ⟨habsolute', hnames'⟩ := parent?_eq_some hparent
        exact ⟨habsolute.trans habsolute', hnames.trans hnames'⟩

end WikiMarkup.Path
