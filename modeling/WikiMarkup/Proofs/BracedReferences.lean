-- SUMMARY: Expansion replaces references between braces and copies the rest exactly where no other sign stands in front of a name or of another sign.
import Mathlib.Data.List.Infix
import Mathlib.Data.List.TakeWhile
import WikiMarkup.Settings.Load

/-!
# References between braces

`Braced` says what a setting is documented to hold: references between braces, with or without a
default, and characters that stand for themselves. `outcome` says what such pieces come to. A text
is really taken apart with more rules: as soon as a sign stands before an opening brace anywhere, a
sign before a name is a reference too, and two signs stand for one. So the two agree unless the text
has a loose sign, one outside of the references that stands before a name or another sign. That is
shown on texts taken apart into single characters and references, and a text with a loose sign is
told apart by setting every variable to the same text.
-/

namespace WikiMarkup.Expansion

/-! ## What stands between braces -/

/-- The text between the braces of a reference: a name, or a name and a default behind the first
`:-`. A text that starts with `:-` is a name as a whole. -/
inductive Body : List Char → Piece → Prop
  | name {name : List Char} (h : [':', '-'] <+: name ∨ ¬ [':', '-'] <:+: name) :
    Body name (.reference (String.ofList name) none)
  | withDefault {name fallback : List Char} (hne : name ≠ []) (h : ¬ [':', '-'] <:+: name) :
    Body (name ++ ':' :: '-' :: fallback)
      (.reference (String.ofList name) (some (String.ofList fallback)))

theorem splitDefault?_eq_none_iff {s : List Char} :
    splitDefault? s = none ↔ ¬ [':', '-'] <:+: s := by
  fun_induction splitDefault? s with
  | case1 => simp
  | case2 c => simp [List.infix_cons_iff]
  | case3 c d s h =>
    obtain ⟨rfl, rfl⟩ := h
    have hstarts : [':', '-'] <:+: ':' :: '-' :: s := ⟨[], s, rfl⟩
    simp [hstarts]
  | case4 c d s h ih =>
    have hstart : ¬ [':', '-'] <+: c :: d :: s := by
      rw [List.cons_prefix_cons, List.cons_prefix_cons]
      exact fun hstarts => h ⟨hstarts.1.symm, hstarts.2.1.symm⟩
    rw [Option.map_eq_none_iff, ih, List.infix_cons_iff (a := c)]
    exact ⟨fun hrest hor => hor.elim hstart hrest, fun hnone hrest => hnone (.inr hrest)⟩

/-- A text is split at the first `:-`. -/
theorem splitDefault?_append {name : List Char} (h : ¬ [':', '-'] <:+: name)
    (fallback : List Char) :
    splitDefault? (name ++ ':' :: '-' :: fallback) = some (name, fallback) := by
  induction name with
  | nil => simp [splitDefault?]
  | cons c name ih =>
    have hname := ih fun hinfix => h (List.infix_cons hinfix)
    cases name with
    | nil => simp [splitDefault?]
    | cons d name =>
      have hstart : ¬ (c = ':' ∧ d = '-') := by
        rintro ⟨rfl, rfl⟩
        exact h ⟨[], name, rfl⟩
      rw [List.cons_append, List.cons_append, splitDefault?, if_neg hstart, ← List.cons_append,
        hname]
      rfl

theorem splitDefault?_eq_some {s before after : List Char}
    (h : splitDefault? s = some (before, after)) :
    s = before ++ ':' :: '-' :: after ∧ ¬ [':', '-'] <:+: before := by
  fun_induction splitDefault? s generalizing before with
  | case1 => cases h
  | case2 c => cases h
  | case3 c d s hcd =>
    obtain ⟨rfl, rfl⟩ := hcd
    cases h
    exact ⟨rfl, by simp⟩
  | case4 c d s hcd ih =>
    obtain ⟨⟨mid, after'⟩, hmid, heq⟩ := Option.map_eq_some_iff.mp h
    cases heq
    obtain ⟨hs, hmid'⟩ := ih hmid
    refine ⟨by rw [hs]; rfl, fun hinfix => ?_⟩
    rcases List.infix_cons_iff.mp hinfix with hstarts | hinfix
    · obtain ⟨hc, hstarts⟩ := List.cons_prefix_cons.mp hstarts
      cases mid with
      | nil => exact absurd hstarts (by simp)
      | cons e mid =>
        have hd := (List.cons_prefix_cons.mp hstarts).1
        exact hcd ⟨hc.symm, (List.cons.inj hs).1.trans hd.symm⟩
    · exact hmid' hinfix

/-- What stands between braces is read as the reference that it writes. -/
theorem body_iff {body : List Char} {piece : Piece} : Body body piece ↔ piece = ofBody body := by
  constructor
  · rintro (⟨⟨t, rfl⟩ | hplain⟩ | ⟨hne, hplain⟩)
    · simp [ofBody, splitDefault?]
    · simp [ofBody, splitDefault?_eq_none_iff.mpr hplain]
    · next name fallback =>
      obtain ⟨c, name, rfl⟩ := List.exists_cons_of_ne_nil hne
      simp only [ofBody, splitDefault?_append hplain]
  · rintro rfl
    unfold ofBody
    split
    · next c name fallback hsplit =>
      obtain ⟨rfl, hplain⟩ := splitDefault?_eq_some hsplit
      exact .withDefault (List.cons_ne_nil _ _) hplain
    · next hsplit =>
      refine .name ?_
      cases hfound : splitDefault? body with
      | none => exact .inr (splitDefault?_eq_none_iff.mp hfound)
      | some found =>
        obtain ⟨before, after⟩ := found
        cases before with
        | nil => exact .inl ⟨after, (splitDefault?_eq_some hfound).1.symm⟩
        | cons c name => exact absurd hfound (hsplit c name after)

/-! ## The documented reading -/

/-- A sign, an opening brace, and a closing one somewhere behind it. -/
def StartsReference (s : List Char) : Prop := ∃ t, s = sign :: opening :: t ∧ closing ∈ t

/-- A character that stands for itself. -/
def copyOf (c : Char) : Piece := .copy (String.singleton c)

/-- How a text falls into references between braces and characters that stand for themselves. -/
inductive Braced : List Char → List Piece → Prop
  | nil : Braced [] []
  | reference {body rest : List Char} {piece : Piece} {pieces : List Piece} (hbody : closing ∉ body)
      (hpiece : Body body piece) (hrest : Braced rest pieces) :
    Braced (sign :: opening :: (body ++ closing :: rest)) (piece :: pieces)
  | copy {c : Char} {rest : List Char} {pieces : List Piece} (h : ¬ StartsReference (c :: rest))
      (hrest : Braced rest pieces) : Braced (c :: rest) (copyOf c :: pieces)

/-- A sign outside of the references stands in front of another one or of a character of names. -/
inductive HasLooseSign : List Char → Prop
  | here {c : Char} {rest : List Char} (h : c = sign ∨ isNameCharacter c = true) :
    HasLooseSign (sign :: c :: rest)
  | behindReference {body rest : List Char} (hbody : closing ∉ body) (h : HasLooseSign rest) :
    HasLooseSign (sign :: opening :: (body ++ closing :: rest))
  | behind {c : Char} {rest : List Char} (hc : ¬ StartsReference (c :: rest))
      (h : HasLooseSign rest) : HasLooseSign (c :: rest)

theorem startsReference_append (body rest : List Char) :
    StartsReference (sign :: opening :: (body ++ closing :: rest)) :=
  ⟨_, rfl, List.mem_append_right _ List.mem_cons_self⟩

theorem not_startsReference {c d : Char} (h : d ≠ opening) (rest : List Char) :
    ¬ StartsReference (c :: d :: rest) := by
  rintro ⟨t, ht, -⟩
  exact h (List.cons.inj (List.cons.inj ht).2).1

theorem not_startsReference_of_ne {c : Char} (h : c ≠ sign) (rest : List Char) :
    ¬ StartsReference (c :: rest) := by
  rintro ⟨t, ht, -⟩
  exact h (List.cons.inj ht).1

/-- The text up to the first closing brace, and what follows it. -/
theorem StartsReference.exists_body {s : List Char} (h : StartsReference s) :
    ∃ body rest, closing ∉ body ∧ s = sign :: opening :: (body ++ closing :: rest) := by
  obtain ⟨t, rfl, ht⟩ := h
  obtain ⟨body, rest, rfl, hbody⟩ := List.eq_append_cons_of_mem ht
  exact ⟨body, rest, hbody, rfl⟩

theorem takeWhile_body {body : List Char} (h : closing ∉ body) (rest : List Char) :
    (body ++ closing :: rest).takeWhile (· ≠ closing) = body := by
  have hbody : ∀ c ∈ body, decide (c ≠ closing) = true := by
    rintro c hc
    exact decide_eq_true fun heq => h (heq ▸ hc)
  rw [List.takeWhile_append_of_pos hbody, List.takeWhile_cons_of_neg (by simp), List.append_nil]

theorem dropWhile_body {body : List Char} (h : closing ∉ body) (rest : List Char) :
    (body ++ closing :: rest).dropWhile (· ≠ closing) = closing :: rest := by
  have hbody : ∀ c ∈ body, decide (c ≠ closing) = true := by
    rintro c hc
    exact decide_eq_true fun heq => h (heq ▸ hc)
  rw [List.dropWhile_append_of_pos hbody, List.dropWhile_cons_of_neg (by simp)]

theorem body_append_inj {body body' rest rest' : List Char} (h : closing ∉ body)
    (h' : closing ∉ body') (heq : body ++ closing :: rest = body' ++ closing :: rest') :
    body = body' ∧ rest = rest' := by
  have htake := takeWhile_body h rest
  have hdrop := dropWhile_body h rest
  rw [heq, takeWhile_body h'] at htake
  rw [heq, dropWhile_body h'] at hdrop
  exact ⟨htake.symm, (List.cons.inj hdrop).2.symm⟩

/-- At a reference nothing else is read. -/
theorem Braced.of_reference {body rest : List Char} {pieces : List Piece} (hbody : closing ∉ body)
    (h : Braced (sign :: opening :: (body ++ closing :: rest)) pieces) :
    ∃ behind, pieces = ofBody body :: behind ∧ Braced rest behind := by
  generalize hs : sign :: opening :: (body ++ closing :: rest) = s at h
  cases h with
  | nil => cases hs
  | reference hbody' hpiece hrest =>
    obtain ⟨rfl, rfl⟩ := body_append_inj hbody hbody' (List.cons.inj (List.cons.inj hs).2).2
    exact ⟨_, by rw [body_iff.mp hpiece], hrest⟩
  | copy hc hrest => exact absurd (hs ▸ startsReference_append body rest) hc

/-- Anywhere else a character stands for itself. -/
theorem Braced.of_copy {c : Char} {rest : List Char} {pieces : List Piece}
    (hc : ¬ StartsReference (c :: rest)) (h : Braced (c :: rest) pieces) :
    ∃ behind, pieces = copyOf c :: behind ∧ Braced rest behind := by
  generalize hs : c :: rest = s at h hc
  cases h with
  | nil => cases hs
  | reference hbody hpiece hrest => exact absurd (startsReference_append _ _) hc
  | copy hc hrest =>
    cases hs
    exact ⟨_, rfl, hrest⟩

/-- Every text can be read, and in one way. -/
theorem exists_braced (s : List Char) :
    ∃ pieces, ∀ pieces', Braced s pieces' ↔ pieces' = pieces := by
  induction hlength : s.length using Nat.strongRecOn generalizing s with
  | ind n ih =>
    subst hlength
    by_cases hs : StartsReference s
    · obtain ⟨body, rest, hbody, rfl⟩ := hs.exists_body
      obtain ⟨pieces, hpieces⟩ := ih rest.length (by simp; omega) rest rfl
      refine ⟨ofBody body :: pieces, fun pieces' => ⟨fun h => ?_, ?_⟩⟩
      · obtain ⟨behind, rfl, hbehind⟩ := h.of_reference hbody
        rw [(hpieces behind).mp hbehind]
      · rintro rfl
        exact .reference hbody (body_iff.mpr rfl) ((hpieces pieces).mpr rfl)
    · cases s with
      | nil => exact ⟨[], fun pieces' => ⟨fun h => by cases h; rfl, fun h => h ▸ .nil⟩⟩
      | cons c rest =>
        obtain ⟨pieces, hpieces⟩ := ih rest.length (Nat.lt_succ_self _) rest rfl
        refine ⟨copyOf c :: pieces, fun pieces' => ⟨fun h => ?_, ?_⟩⟩
        · obtain ⟨behind, rfl, hbehind⟩ := h.of_copy hs
          rw [(hpieces behind).mp hbehind]
        · rintro rfl
          exact .copy hs ((hpieces pieces).mpr rfl)

/-! ## What pieces come to -/

/-- The variable that is missing for a piece: it is not set, and there is no default. -/
def Piece.missing? (lookup : String → Option String) : Piece → Option String
  | .reference name none => if lookup name = none then some name else none
  | _ => none

/-- What a piece stands for if nothing is missing. Values and defaults are taken as they are. -/
def Piece.value (lookup : String → Option String) : Piece → String
  | .copy text => text
  | .reference name fallback => ((lookup name).or fallback).getD ""

/-- The values of all pieces, or the first variable that is missing. -/
def outcome (lookup : String → Option String) (pieces : List Piece) : Except String String :=
  match pieces.findSome? (Piece.missing? lookup) with
  | some name => .error name
  | none => .ok (String.join (pieces.map (Piece.value lookup)))

theorem expand_piece_eq (lookup : String → Option String) (piece : Piece) :
    piece.expand lookup = match piece.missing? lookup with
      | some name => .error name
      | none => .ok (piece.value lookup) := by
  rcases piece with text | ⟨name, _ | fallback⟩
  · rfl
  · cases h : lookup name with
    | some value => simp only [Piece.expand, Piece.missing?, Piece.value, h]; rfl
    | none => simp only [Piece.expand, Piece.missing?, h]; rfl
  · cases h : lookup name with
    | some value => simp only [Piece.expand, Piece.missing?, Piece.value, h]; rfl
    | none => simp only [Piece.expand, Piece.missing?, Piece.value, h]; rfl

/-- A text is expanded to what its pieces come to. -/
theorem expand_eq_outcome (lookup : String → Option String) (text : String) :
    expand lookup text = outcome lookup (pieces text) := by
  have hparts : ∀ ps : List Piece, ps.mapM (Piece.expand lookup) =
      match ps.findSome? (Piece.missing? lookup) with
      | some name => .error name
      | none => .ok (ps.map (Piece.value lookup)) := by
    intro ps
    induction ps with
    | nil => rfl
    | cons piece ps ih =>
      rw [List.mapM_cons, expand_piece_eq, ih, List.findSome?_cons]
      cases piece.missing? lookup with
      | some name => rfl
      | none =>
        cases ps.findSome? (Piece.missing? lookup) with
        | some name => rfl
        | none => rfl
  rw [expand, hparts, outcome]
  cases (pieces text).findSome? (Piece.missing? lookup) <;> rfl

/-- Only the variables that are referred to count. -/
theorem expand_congr {lookup lookup' : String → Option String} {text : String}
    (h : ∀ name ∈ names text, lookup name = lookup' name) :
    expand lookup text = expand lookup' text := by
  have hpiece : ∀ piece ∈ pieces text, piece.missing? lookup = piece.missing? lookup' ∧
      piece.value lookup = piece.value lookup' := by
    intro piece hpiece
    cases piece with
    | copy text => exact ⟨rfl, rfl⟩
    | reference name fallback =>
      have hname := h name (List.mem_filterMap.mpr ⟨_, hpiece, rfl⟩)
      cases fallback <;> simp only [Piece.missing?, Piece.value, hname, and_self]
  have hvalues := List.map_congr_left fun piece hmem => (hpiece piece hmem).2
  have hmissing : ∀ ps : List Piece, (∀ piece ∈ ps, piece ∈ pieces text) →
      ps.findSome? (Piece.missing? lookup) = ps.findSome? (Piece.missing? lookup') := by
    intro ps hps
    induction ps with
    | nil => rfl
    | cons piece ps ih =>
      rw [List.findSome?_cons, List.findSome?_cons, (hpiece piece (hps _ List.mem_cons_self)).1,
        ih fun other hother => hps other (List.mem_cons_of_mem _ hother)]
  rw [expand_eq_outcome, expand_eq_outcome, outcome, outcome, hvalues, hmissing _ fun _ => id]

/-! ## Pieces of single characters -/

/-- A piece with its copied characters apart. -/
def Piece.units : Piece → List Piece
  | .copy text => text.toList.map copyOf
  | .reference name fallback => [.reference name fallback]

@[simp]
theorem value_copyOf (lookup : String → Option String) (c : Char) :
    (copyOf c).value lookup = String.singleton c := rfl

theorem isNameCharacter_sign : isNameCharacter sign = false := by decide +kernel

theorem isNameCharacter_opening : isNameCharacter opening = false := by decide +kernel

theorem units_ofBody (body : List Char) : (ofBody body).units = [ofBody body] := by
  unfold ofBody
  split <;> rfl

theorem findSome?_units (lookup : String → Option String) (piece : Piece) :
    piece.units.findSome? (Piece.missing? lookup) = piece.missing? lookup := by
  rcases piece with text | ⟨name, fallback⟩
  · rw [Piece.units, List.findSome?_eq_none_iff.mpr fun piece hpiece => ?_]
    · rfl
    · obtain ⟨c, -, rfl⟩ := List.mem_map.mp hpiece
      rfl
  · simp [Piece.units]

theorem join_units (lookup : String → Option String) (piece : Piece) :
    String.join (piece.units.map (Piece.value lookup)) = piece.value lookup := by
  rcases piece with text | ⟨name, fallback⟩
  · rw [← String.toList_inj, String.toList_join, Piece.units, List.map_map, List.flatMap_map]
    simp only [Function.comp_apply, value_copyOf, String.toList_singleton]
    exact List.flatMap_singleton' text.toList
  · simp [Piece.units]

/-- A text comes to the same if its copied characters are taken one by one. -/
theorem outcome_units (lookup : String → Option String) (ps : List Piece) :
    outcome lookup (ps.flatMap Piece.units) = outcome lookup ps := by
  have hmissing : (ps.flatMap Piece.units).findSome? (Piece.missing? lookup) =
      ps.findSome? (Piece.missing? lookup) := by
    induction ps with
    | nil => rfl
    | cons piece ps ih =>
      rw [List.flatMap_cons, List.findSome?_append, findSome?_units, ih, List.findSome?_cons]
      cases piece.missing? lookup <;> rfl
  have hvalues : String.join ((ps.flatMap Piece.units).map (Piece.value lookup)) =
      String.join (ps.map (Piece.value lookup)) := by
    clear hmissing
    induction ps with
    | nil => rfl
    | cons piece ps ih =>
      rw [List.flatMap_cons, List.map_append, String.join_append, join_units, List.map_cons,
        String.join_cons, ih]
  rw [outcome, outcome, hmissing, hvalues]

theorem length_readAfterSign_le (s : List Char) : (readAfterSign s).2.length ≤ s.length := by
  fun_cases readAfterSign s with
  | case1 => exact Nat.le_refl _
  | case2 s hdrop => exact Nat.le_succ _
  | case3 s c rest hdrop =>
    have hlength := (List.dropWhile_suffix (l := s) (· ≠ closing)).length_le
    rw [hdrop, List.length_cons] at hlength
    exact (Nat.le_of_succ_le hlength).trans (Nat.le_succ _)
  | case4 c s hc hname => exact (List.dropWhile_suffix _).length_le
  | case5 s => exact Nat.le_succ _
  | case6 => exact Nat.le_refl _

theorem length_dropWhile_sign_lt {c : Char} (hc : c ≠ sign) (s : List Char) :
    ((c :: s).dropWhile (· ≠ sign)).length < (c :: s).length := by
  rw [List.dropWhile_cons_of_pos (by simpa using hc), List.length_cons]
  exact Nat.lt_succ_of_le (List.dropWhile_suffix _).length_le

/-- A text is taken apart before its fuel is used up. -/
theorem piecesWith_eq {fuel : Nat} {s : List Char} (h : s.length < fuel) :
    piecesWith fuel s = piecesWith (s.length + 1) s := by
  induction fuel using Nat.strongRecOn generalizing s with
  | ind fuel ih =>
    obtain ⟨fuel, rfl⟩ : ∃ n, fuel = n + 1 := ⟨fuel - 1, by omega⟩
    cases s with
    | nil => rfl
    | cons c s =>
      have hrest : ∀ rest : List Char, rest.length < (c :: s).length →
          piecesWith fuel rest = piecesWith (c :: s).length rest := by
        intro rest hlt
        rw [ih fuel (Nat.lt_succ_self _) (by omega)]
        by_cases hfuel : (c :: s).length = fuel
        · rw [hfuel, ih fuel (Nat.lt_succ_self _) (by omega)]
        · rw [ih (c :: s).length (by omega) hlt]
      rw [piecesWith, piecesWith]
      split
      · simp only [hrest _ (Nat.lt_succ_of_le (length_readAfterSign_le s))]
      · next hc => rw [hrest _ (length_dropWhile_sign_lt hc s)]

/-- The pieces of a text with the copied characters apart. -/
def scan (s : List Char) : List Piece := (piecesWith (s.length + 1) s).flatMap Piece.units

theorem scan_sign (s : List Char) :
    scan (sign :: s) = (readAfterSign s).1.units ++ scan (readAfterSign s).2 := by
  rw [scan, piecesWith, if_pos rfl]
  have hlength := length_readAfterSign_le s
  rw [List.flatMap_cons, piecesWith_eq (by rw [List.length_cons]; omega), scan]

theorem scan_run {c : Char} (hc : c ≠ sign) (s : List Char) :
    scan (c :: s) =
      ((c :: s).takeWhile (· ≠ sign)).map copyOf ++ scan ((c :: s).dropWhile (· ≠ sign)) := by
  rw [scan, piecesWith, if_neg hc, List.flatMap_cons,
    piecesWith_eq (length_dropWhile_sign_lt hc s), Piece.units, String.toList_ofList, scan]

/-- Characters but the sign stand for themselves. -/
theorem scan_cons {c : Char} (hc : c ≠ sign) (s : List Char) :
    scan (c :: s) = copyOf c :: scan s := by
  have hs : scan s = (s.takeWhile (· ≠ sign)).map copyOf ++ scan (s.dropWhile (· ≠ sign)) := by
    cases s with
    | nil => rfl
    | cons d s =>
      by_cases hd : d = sign
      · rw [List.takeWhile_cons_of_neg (by simpa using hd),
          List.dropWhile_cons_of_neg (by simpa using hd)]
        rfl
      · exact scan_run hd s
  rw [scan_run hc, List.takeWhile_cons_of_pos (by simpa using hc),
    List.dropWhile_cons_of_pos (by simpa using hc), hs]
  rfl

theorem scan_reference {body : List Char} (hbody : closing ∉ body) (rest : List Char) :
    scan (sign :: opening :: (body ++ closing :: rest)) = ofBody body :: scan rest := by
  have hread : readAfterSign (opening :: (body ++ closing :: rest)) = (ofBody body, rest) := by
    rw [readAfterSign, if_pos rfl, dropWhile_body hbody, takeWhile_body hbody]
  rw [scan_sign, hread, units_ofBody]
  rfl

theorem scan_name {c : Char} (hc : isNameCharacter c = true) (s : List Char) :
    scan (sign :: c :: s) =
      .reference (String.ofList ((c :: s).takeWhile isNameCharacter)) none ::
        scan ((c :: s).dropWhile isNameCharacter) := by
  have hopening : c ≠ opening := by
    rintro rfl
    rw [isNameCharacter_opening] at hc
    cases hc
  rw [scan_sign, readAfterSign, if_neg hopening, if_pos hc]
  rfl

/-- Two signs stand for one. -/
theorem scan_two_signs (s : List Char) : scan (sign :: sign :: s) = copyOf sign :: scan s := by
  rw [scan_sign, readAfterSign, if_neg (by decide), if_neg (by rw [isNameCharacter_sign]; decide),
    if_pos rfl]
  rfl

/-- A sign before neither a reference nor a name nor another sign stands for itself. -/
theorem scan_bare {s : List Char} (hreference : ¬ StartsReference (sign :: s))
    (hloose : ∀ c rest, s = c :: rest → ¬ (c = sign ∨ isNameCharacter c = true)) :
    scan (sign :: s) = copyOf sign :: scan s := by
  cases s with
  | nil => rfl
  | cons c rest =>
    obtain ⟨hsign, hname⟩ := not_or.mp (hloose c rest rfl)
    by_cases hopening : c = opening
    · subst hopening
      have hclosing : rest.dropWhile (· ≠ closing) = [] := by
        rw [List.dropWhile_eq_nil_iff]
        exact fun d hd => decide_eq_true fun heq => hreference ⟨rest, rfl, heq ▸ hd⟩
      rw [scan_sign, readAfterSign, if_pos rfl, hclosing, scan_cons (by decide)]
      rfl
    · rw [scan_sign, readAfterSign, if_neg hopening, if_neg hname, if_neg hsign]
      rfl

/-- A character at which neither a reference nor a loose sign stands is copied. -/
theorem scan_copy {c : Char} {rest : List Char} (hc : ¬ StartsReference (c :: rest))
    (hloose : ∀ d t, c = sign → rest = d :: t → ¬ (d = sign ∨ isNameCharacter d = true)) :
    scan (c :: rest) = copyOf c :: scan rest := by
  by_cases hsign : c = sign
  · subst hsign
    exact scan_bare hc fun d t ht => hloose d t rfl ht
  · exact scan_cons hsign rest

/-! ## Where the readings agree -/

/-- Without a loose sign the documented reading is the actual one. -/
theorem Braced.scan_eq {s : List Char} {ps : List Piece} (h : Braced s ps)
    (hloose : ¬ HasLooseSign s) : scan s = ps := by
  induction h with
  | nil => rfl
  | reference hbody hpiece hrest ih =>
    rw [scan_reference hbody, ih fun h => hloose (.behindReference hbody h), body_iff.mp hpiece]
  | @copy c rest ps hc hrest ih =>
    have hscan : scan (c :: rest) = copyOf c :: scan rest := by
      refine scan_copy hc ?_
      rintro d t rfl rfl hd
      exact hloose (.here hd)
    rw [hscan, ih fun h => hloose (.behind hc h)]

theorem hasReference_iff {s : List Char} : hasReference s = true ↔ [sign, opening] <:+: s := by
  fun_induction hasReference s with
  | case1 => simp
  | case2 c => simp [List.infix_cons_iff]
  | case3 c d s ih =>
    rw [List.infix_cons_iff, List.cons_prefix_cons, List.cons_prefix_cons, Bool.or_eq_true, ih,
      Bool.and_eq_true, decide_eq_true_eq, decide_eq_true_eq, @eq_comm _ c, @eq_comm _ d]
    simp only [List.nil_prefix, and_true]

/-- A text without a sign before an opening brace stands for itself. -/
theorem Braced.eq_map_copyOf {s : List Char} {ps : List Piece} (h : Braced s ps)
    (hplain : ¬ [sign, opening] <:+: s) : ps = s.map copyOf := by
  induction h with
  | nil => rfl
  | reference hbody hpiece hrest ih => exact absurd ⟨[], _, rfl⟩ hplain
  | copy hc hrest ih =>
    rw [ih fun hinfix => hplain (List.infix_cons hinfix)]
    rfl

/-- A text with a sign before an opening brace is expanded to what the scan of it comes to. -/
theorem expand_eq_outcome_scan {text : String} (h : [sign, opening] <:+: text.toList)
    (lookup : String → Option String) : expand lookup text = outcome lookup (scan text.toList) := by
  rw [expand_eq_outcome, pieces, if_pos (hasReference_iff.mpr h), scan, outcome_units,
    String.length_toList]

/-- Any other text is expanded to its characters. -/
theorem expand_eq_outcome_map_copyOf {text : String} (h : ¬ [sign, opening] <:+: text.toList)
    (lookup : String → Option String) :
    expand lookup text = outcome lookup (text.toList.map copyOf) := by
  have hunits : [Piece.copy text].flatMap Piece.units = text.toList.map copyOf := List.append_nil _
  rw [expand_eq_outcome, pieces, if_neg (mt hasReference_iff.mp h), ← hunits, outcome_units]

/-! ## Texts with loose signs -/

/-- Every variable has the same value, which is neither a sign nor a brace. -/
def allSet : String → Option String := fun _ => some (String.singleton 'x')

/-- What pieces come to if every variable is set. -/
def shown (ps : List Piece) : List Char := ps.flatMap fun piece => (piece.value allSet).toList

theorem shown_copyOf_cons (c : Char) (ps : List Piece) :
    shown (copyOf c :: ps) = c :: shown ps := by
  simp [shown]

theorem shown_reference_cons (name : String) (fallback : Option String) (ps : List Piece) :
    shown (.reference name fallback :: ps) = 'x' :: shown ps := by
  simp [shown, Piece.value, allSet]

theorem shown_ofBody_cons (body : List Char) (ps : List Piece) :
    shown (ofBody body :: ps) = 'x' :: shown ps := by
  unfold ofBody
  split <;> exact shown_reference_cons _ _ ps

theorem outcome_allSet (ps : List Piece) : outcome allSet ps = .ok (String.ofList (shown ps)) := by
  have hmissing : ps.findSome? (Piece.missing? allSet) = none := by
    refine List.findSome?_eq_none_iff.mpr fun piece _ => ?_
    rcases piece with text | ⟨name, _ | fallback⟩ <;> rfl
  have hvalues : String.join (ps.map (Piece.value allSet)) = String.ofList (shown ps) := by
    rw [← String.toList_inj, String.toList_join, String.toList_ofList, List.flatMap_map]
    rfl
  rw [outcome, hmissing, hvalues]

/-- If a sign was read together with the one before it, it is missing in what follows, however many
were read so. -/
theorem shown_scan_ne (r : List Char) (count : Nat) {ps : List Piece} (h : Braced (sign :: r) ps) :
    shown (scan r) ≠ List.replicate count sign ++ shown ps := by
  -- The documented reading starts at the sign, the scan behind it. Where one of them finds a
  -- reference or a name the first characters differ. Where both copy a sign the rest is shorter,
  -- and wherever the scan takes two signs for one it falls behind by one more.
  induction hlength : r.length using Nat.strongRecOn generalizing r count ps with
  | ind n ih =>
    subst hlength
    by_cases hr : StartsReference (sign :: r)
    · obtain ⟨body, rest, hbody, heq⟩ := hr.exists_body
      obtain rfl := (List.cons.inj heq).2
      obtain ⟨behind, rfl, -⟩ := h.of_reference hbody
      rw [scan_cons (by decide), shown_copyOf_cons, shown_ofBody_cons]
      cases count with
      | zero => exact fun heq => absurd (List.cons.inj heq).1 (by decide)
      | succ count => exact fun heq => absurd (List.cons.inj heq).1 (by decide)
    obtain ⟨behind, rfl, hbehind⟩ := h.of_copy hr
    have hcount : List.replicate count sign ++ shown (copyOf sign :: behind) =
        sign :: (List.replicate count sign ++ shown behind) := by
      rw [shown_copyOf_cons, ← List.cons_append, ← List.replicate_succ, List.replicate_succ',
        List.append_assoc]
      rfl
    rw [hcount]
    cases r with
    | nil => exact fun heq => by cases heq
    | cons c t =>
      by_cases hc : c = sign
      · subst hc
        by_cases ht : StartsReference (sign :: t)
        · obtain ⟨body, rest, hbody, heq⟩ := ht.exists_body
          rw [heq, scan_reference hbody, shown_ofBody_cons]
          exact fun heq => absurd (List.cons.inj heq).1 (by decide)
        by_cases hloose : ∀ d u, t = d :: u → ¬ (d = sign ∨ isNameCharacter d = true)
        · rw [scan_bare ht hloose, shown_copyOf_cons]
          exact fun heq => ih t.length (by simp) t count hbehind rfl (List.cons.inj heq).2
        push Not at hloose
        obtain ⟨d, u, rfl, rfl | hd⟩ := hloose
        · obtain ⟨last, rfl, hlast⟩ := hbehind.of_copy ht
          rw [scan_two_signs, shown_copyOf_cons]
          intro heq
          have hlength : u.length < (sign :: sign :: u).length :=
            (Nat.lt_succ_self _).trans (Nat.lt_succ_self _)
          refine ih u.length hlength u (count + 1) hlast rfl ?_
          rw [(List.cons.inj heq).2, List.replicate_succ', List.append_assoc]
          exact congrArg (List.replicate count sign ++ ·) (shown_copyOf_cons sign last)
        · rw [scan_name hd, shown_reference_cons]
          exact fun heq => absurd (List.cons.inj heq).1 (by decide)
      · rw [scan_cons hc, shown_copyOf_cons]
        exact fun heq => hc (List.cons.inj heq).1

/-- A sign before a name or another sign shows. -/
theorem shown_scan_sign_ne {c : Char} {rest : List Char} {ps : List Piece}
    (hc : c = sign ∨ isNameCharacter c = true) (h : Braced (sign :: c :: rest) ps) :
    shown (scan (sign :: c :: rest)) ≠ shown ps := by
  have hopening : c ≠ opening := by
    rintro rfl
    rw [isNameCharacter_opening] at hc
    exact absurd hc (by decide)
  obtain ⟨behind, rfl, hbehind⟩ := h.of_copy (not_startsReference hopening rest)
  rw [shown_copyOf_cons]
  rcases hc with rfl | hname
  · rw [scan_two_signs, shown_copyOf_cons]
    exact fun heq => shown_scan_ne rest 0 hbehind (List.cons.inj heq).2
  · rw [scan_name hname, shown_reference_cons]
    exact fun heq => absurd (List.cons.inj heq).1 (by decide)

/-- A loose sign shows, wherever it is. -/
theorem HasLooseSign.shown_ne {s : List Char} {ps : List Piece} (hloose : HasLooseSign s)
    (h : Braced s ps) : shown (scan s) ≠ shown ps := by
  induction hloose generalizing ps with
  | here hc => exact shown_scan_sign_ne hc h
  | behindReference hbody hloose ih =>
    obtain ⟨behind, rfl, hbehind⟩ := h.of_reference hbody
    rw [scan_reference hbody, shown_ofBody_cons, shown_ofBody_cons]
    exact fun heq => ih hbehind (List.cons.inj heq).2
  | @behind c rest hc hloose ih =>
    by_cases hhere : ∃ d t, c = sign ∧ rest = d :: t ∧ (d = sign ∨ isNameCharacter d = true)
    · obtain ⟨d, t, rfl, rfl, hd⟩ := hhere
      exact shown_scan_sign_ne hd h
    have hscan : scan (c :: rest) = copyOf c :: scan rest :=
      scan_copy hc fun d t hsign ht hd => hhere ⟨d, t, hsign, ht, hd⟩
    obtain ⟨behind, rfl, hbehind⟩ := h.of_copy hc
    rw [hscan, shown_copyOf_cons, shown_copyOf_cons]
    exact fun heq => ih hbehind (List.cons.inj heq).2

/-! ## The variables of a host -/

/-- Among the variables that were looked up, each has the value that it has in the world. -/
theorem lookedUp_lookUp (names : List String) (w : World) (name : String) :
    Settings.lookedUp ((Settings.lookUp names : StateM World _) w).1 name =
      if name ∈ names then w.lookupVariable name else none := by
  induction names with
  | nil => rfl
  | cons first names ih =>
    have hrun : ((Settings.lookUp (first :: names) : StateM World _) w).1 =
        match w.lookupVariable first with
        | some value => (first, value) :: ((Settings.lookUp names : StateM World _) w).1
        | none => ((Settings.lookUp names : StateM World _) w).1 := rfl
    rw [hrun]
    by_cases hname : name = first
    · subst hname
      cases hvalue : w.lookupVariable name with
      | some value => simp [Settings.lookedUp]
      | none => simp only [ih, hvalue, ite_self]
    · cases hvalue : w.lookupVariable first with
      | some value => simpa [Settings.lookedUp, hname, Ne.symm hname] using ih
      | none => simpa [hname] using ih

end WikiMarkup.Expansion

namespace WikiMarkup.WrittenSettings

open Expansion Settings

/-- Every text is made of references between braces and characters that stand for themselves, in one
way. Expanding a setting gives what these pieces come to, whatever the variables are, exactly if the
text has no sign before an opening brace or else no loose sign. The variables are those of the
world, once all that the text refers to have been looked up. -/
theorem expandSetting_eq_iff (text : String) :
    ∃ pieces, (∀ pieces', Braced text.toList pieces' ↔ pieces' = pieces) ∧
      ((∀ lookup setting, expandSetting lookup setting text =
          (outcome lookup pieces).mapError (.unsetVariable setting)) ↔
        ([sign, opening] <:+: text.toList → ¬ HasLooseSign text.toList)) ∧
      ∀ (w : World) (names : List String) (setting : String),
        (∀ name ∈ Expansion.names text, name ∈ names) →
          expandSetting (lookedUp ((lookUp names : StateM World _) w).1) setting text =
            expandSetting w.lookupVariable setting text := by
  obtain ⟨ps, hps⟩ := exists_braced text.toList
  have hbraced : Braced text.toList ps := (hps ps).mpr rfl
  refine ⟨ps, hps, ⟨fun hagree hinfix hloose => ?_, fun h lookup setting => ?_⟩, ?_⟩
  · have hshown := hagree allSet ""
    rw [expandSetting, expand_eq_outcome_scan hinfix, outcome_allSet, outcome_allSet] at hshown
    exact hloose.shown_ne hbraced (String.ofList_injective (Except.ok.inj hshown))
  · by_cases hinfix : [sign, opening] <:+: text.toList
    · rw [expandSetting, expand_eq_outcome_scan hinfix, hbraced.scan_eq (h hinfix)]
    · rw [expandSetting, expand_eq_outcome_map_copyOf hinfix, hbraced.eq_map_copyOf hinfix]
  · intro w names setting hnames
    rw [expandSetting, expandSetting, expand_congr fun name hname => ?_]
    rw [lookedUp_lookUp, if_pos (hnames name hname)]

/-- With a reference further on, a sign before a name is not left as it is. -/
theorem expandSetting_ne_braced :
    ¬ ∀ (lookup : String → Option String) (setting text : String) (pieces : List Expansion.Piece),
      Braced text.toList pieces → expandSetting lookup setting text =
        (outcome lookup pieces).mapError (.unsetVariable setting) := by
  intro h
  have hreference : Braced ['$', '\x7b', 'A', ':', '-', 'b', '\x7d'] [.reference "A" (some "b")] :=
    .reference (show closing ∉ ['A', ':', '-', 'b'] by decide) (body_iff.mpr rfl) .nil
  have hbraced : Braced "$H/$\x7bA:-b\x7d".toList
      [copyOf '$', copyOf 'H', copyOf '/', .reference "A" (some "b")] :=
    .copy (not_startsReference (by decide) _) (.copy (not_startsReference_of_ne (by decide) _)
      (.copy (not_startsReference_of_ne (by decide) _) hreference))
  exact absurd (h (fun _ => none) "cache.dir" _ _ hbraced) (by decide +kernel)

end WikiMarkup.WrittenSettings
