-- SUMMARY: A scan of JSON text that counts open arrays and objects: what a reader takes closes all that it opens, and no beginning of a printed object does.
import WikiMarkup.Proofs.StoredText

/-!
# Open brackets

Most of JSON does not matter for where a value ends: only quotes, backslashes in strings, and
brackets do. `Scan` follows just those. A reader that comes through has taken a text that is back
where the scan started, while a printed object leaves its first brace open up to its last character.
So nothing can be read from a beginning of the text, whatever numbers, escapes or depths are in it.
-/

namespace WikiMarkup.Json

/-! ## Scanning -/

/-- Whether a scan is outside strings, in one, or behind a backslash in one. -/
inductive ScanMode where
  | plain
  | quoted
  | escaped
  deriving DecidableEq

/-- How many arrays and objects are open, and whether the scan is in a string. -/
structure Scan where
  depth : Nat
  mode : ScanMode
  deriving DecidableEq

namespace Scan

/-- One character on. A bracket that closes nothing ends the scan. -/
def step (s : Scan) (c : Char) : Option Scan :=
  match s.mode with
  | .plain =>
    if c = '"' then some ⟨s.depth, .quoted⟩
    else if c = '[' ∨ c = '\x7b' then some ⟨s.depth + 1, .plain⟩
    else if c = ']' ∨ c = '\x7d' then
      match s.depth with
      | 0 => none
      | depth + 1 => some ⟨depth, .plain⟩
    else some s
  | .quoted =>
    if c = '"' then some ⟨s.depth, .plain⟩
    else if c = '\\' then some ⟨s.depth, .escaped⟩
    else some s
  | .escaped => some ⟨s.depth, .quoted⟩

/-- Any characters on. -/
def run (s : Scan) (cs : List Char) : Option Scan := cs.foldlM step s

theorem run_cons (s : Scan) (c : Char) (cs : List Char) :
    s.run (c :: cs) = (s.step c).bind (·.run cs) := List.foldlM_cons

theorem run_append (s : Scan) (cs ds : List Char) :
    s.run (cs ++ ds) = (s.run cs).bind (·.run ds) := List.foldlM_append

/-- The scan with one more bracket open around it. -/
def within (s : Scan) : Scan := ⟨s.depth + 1, s.mode⟩

theorem step_within {s s' : Scan} {c : Char} (h : s.step c = some s') :
    s.within.step c = some s'.within := by
  obtain ⟨depth, mode⟩ := s
  cases mode with
  | plain => cases depth <;> grind [step, within]
  | quoted => grind [step, within]
  | escaped => grind [step, within]

/-- What does not close a bracket around it does not see how many there are. -/
theorem run_within {s s' : Scan} {cs : List Char} (h : s.run cs = some s') :
    s.within.run cs = some s'.within := by
  induction cs generalizing s with
  | nil => cases h; rfl
  | cons c cs ih =>
    rw [run_cons] at h ⊢
    cases hstep : s.step c with
    | none => rw [hstep] at h; cases h
    | some next =>
      rw [hstep] at h
      rw [step_within hstep]
      exact ih h

end Scan

/-- The text leads from one mode to another, and from `before` brackets that are open to `after`,
whatever others are open around it. -/
def Moves (m : ScanMode) (before : Nat) (cs : List Char) (n : ScanMode) (after : Nat) : Prop :=
  ∀ depth, Scan.run ⟨depth + before, m⟩ cs = some ⟨depth + after, n⟩

/-- The text closes all that it opens. -/
abbrev Balanced (cs : List Char) : Prop := Moves .plain 0 cs .plain 0

/-- The text is the rest of a string with its closing quote. -/
abbrev Unquoting (cs : List Char) : Prop := Moves .quoted 0 cs .plain 0

/-- The text closes one bracket more than it opens. -/
abbrev Closing (cs : List Char) : Prop := Moves .plain 1 cs .plain 0

section

variable {m n p : ScanMode} {i j k : Nat} {cs ds : List Char}

theorem Moves.nil (m : ScanMode) (i : Nat) : Moves m i [] m i := fun _ => rfl

theorem Moves.append (h : Moves m i cs n j) (h' : Moves n j ds p k) : Moves m i (cs ++ ds) p k := by
  intro depth
  rw [Scan.run_append, h, Option.bind_some, h']

/-- More brackets may be open around the text. -/
theorem Moves.deeper (h : Moves m i cs n j) : Moves m (i + k) cs n (j + k) := by
  intro depth
  have hdepth := h (depth + k)
  rwa [Nat.add_assoc, Nat.add_comm k, Nat.add_assoc, Nat.add_comm k] at hdepth

theorem balanced_colon : Balanced [':'] := fun _ => rfl

theorem balanced_comma : Balanced [','] := fun _ => rfl

theorem moves_quote : Moves .plain 0 ['"'] .quoted 0 := fun _ => rfl

theorem moves_open {c : Char} (h : c = '[' ∨ c = '\x7b') : Moves .plain 0 [c] .plain 1 := by
  rcases h with rfl | rfl <;> exact fun _ => rfl

theorem closing_close {c : Char} (h : c = ']' ∨ c = '\x7d') : Closing [c] := by
  rcases h with rfl | rfl <;> exact fun _ => rfl

theorem balanced_string (h : Unquoting cs) : Balanced ('"' :: cs) := moves_quote.append h

/-- Characters that are neither quotes nor brackets. -/
def isNeutral (c : Char) : Bool :=
  c ≠ '"' && c ≠ '[' && c ≠ '\x7b' && c ≠ ']' && c ≠ '\x7d'

theorem balanced_of_neutral (h : ∀ c ∈ cs, isNeutral c = true) : Balanced cs := by
  induction cs with
  | nil => exact .nil _ _
  | cons c cs ih =>
    have hc : Balanced [c] := by
      have hneutral := h c List.mem_cons_self
      simp only [isNeutral, Bool.and_eq_true, decide_eq_true_eq] at hneutral
      obtain ⟨⟨⟨⟨hquote, hbracket⟩, hbrace⟩, hbracket'⟩, hbrace'⟩ := hneutral
      intro depth
      simp [Scan.run, Scan.step, hquote, hbracket, hbrace, hbracket', hbrace']
    exact Moves.append hc (ih fun d hd => h d (List.mem_cons_of_mem _ hd))

theorem isNeutral_of_isBlank {c : Char} (h : isBlank c = true) : isNeutral c = true := by
  simp only [isBlank, Bool.or_eq_true, decide_eq_true_eq] at h
  rcases h with ((rfl | rfl) | rfl) | rfl <;> rfl

theorem isNeutral_of_isDigit {c : Char} (h : c.isDigit = true) : isNeutral c = true := by
  have hne : ∀ d : Char, d.isDigit = false → c ≠ d := fun d hd => ne_of_isDigit h hd
  simp [isNeutral, hne]

end

/-! ## What readers take -/

/-- A text in two parts, the first of which was taken. -/
def Taken (P : List Char → Prop) (s rest : List Char) : Prop := ∃ used, s = used ++ rest ∧ P used

theorem Taken.mono {P Q : List Char → Prop} {s rest : List Char} (h : Taken P s rest)
    (himp : ∀ used, P used → Q used) : Taken Q s rest := by
  obtain ⟨used, hsplit, hused⟩ := h
  exact ⟨used, hsplit, himp used hused⟩

section

variable {m n p : ScanMode} {i j k : Nat} {s rest : List Char}

theorem Taken.append {mid : List Char} (h : Taken (Moves m i · n j) s mid)
    (h' : Taken (Moves n j · p k) mid rest) : Taken (Moves m i · p k) s rest := by
  obtain ⟨used, rfl, hused⟩ := h
  obtain ⟨used', rfl, hused'⟩ := h'
  exact ⟨used ++ used', (List.append_assoc ..).symm, hused.append hused'⟩

theorem Taken.cons {c : Char} (hc : Moves m i [c] n j) (h : Taken (Moves n j · p k) s rest) :
    Taken (Moves m i · p k) (c :: s) rest :=
  Taken.append ⟨[c], rfl, hc⟩ h

theorem taken_of_neutral {s rest : List Char} (h : Taken (∀ c ∈ ·, isNeutral c = true) s rest) :
    Taken Balanced s rest := h.mono fun _ => balanced_of_neutral

end

/-! ### Tokens -/

section

variable {s rest : List Char}

theorem taken_skipBlanks (s : List Char) : Taken Balanced s (skipBlanks s) := by
  refine taken_of_neutral ⟨s.takeWhile isBlank, List.takeWhile_append_dropWhile.symm, ?_⟩
  intro c hc
  exact isNeutral_of_isBlank (List.all_eq_true.mp List.all_takeWhile c hc)

theorem readWord_eq_ok {word : List Char} (h : readWord word s = .ok rest) : s = word ++ rest := by
  induction word generalizing s with
  | nil => exact Except.ok.inj h
  | cons w word ih =>
    cases s with
    | nil => cases h
    | cons c s =>
      rw [readWord] at h
      split at h
      · next hc => rw [hc, ih h, List.cons_append]
      · cases h

theorem taken_readColon (h : readColon s = .ok rest) : Taken Balanced s rest := by
  rw [readColon] at h
  have hblanks := taken_skipBlanks s
  split at h
  · next after hcolon =>
    rw [hcolon] at hblanks
    have hrest := Except.ok.inj h
    subst hrest
    exact hblanks.append ((taken_skipBlanks after).cons balanced_colon)
  · cases h
  · cases h

theorem taken_readDigits (s : List Char) :
    Taken (∀ c ∈ ·, isNeutral c = true) s (readDigits s).2 := by
  induction s with
  | nil => exact ⟨[], rfl, by simp⟩
  | cons c s ih =>
    rw [readDigits, digit?]
    by_cases hc : c.isDigit = true
    · obtain ⟨used, hsplit, hused⟩ := ih
      rw [if_pos hc]
      refine ⟨c :: used, congrArg _ hsplit, ?_⟩
      intro d hd
      rcases List.mem_cons.mp hd with rfl | hd
      · exact isNeutral_of_isDigit hc
      · exact hused d hd
    · rw [if_neg hc]
      exact ⟨[], rfl, by simp⟩

theorem taken_readSomeDigits {ds : List Nat} (h : readSomeDigits s = .ok (ds, rest)) :
    Taken Balanced s rest := by
  have hdigits := taken_readDigits s
  rw [readSomeDigits] at h
  split at h
  · cases h
  · cases h
  · rw [Except.ok.inj h] at hdigits
    exact taken_of_neutral hdigits

/-- What comes before a step that came through came through. -/
theorem ok_of_bind {ε α β : Type} {x : Except ε α} {f : α → Except ε β} {b : β}
    (h : (x >>= f) = .ok b) : ∃ a, x = .ok a ∧ f a = .ok b := by
  cases x with
  | error e => cases h
  | ok a => exact ⟨a, rfl, h⟩

theorem taken_readWhole {ds : List Nat} (h : readWhole s = .ok (ds, rest)) :
    Taken Balanced s rest := by
  obtain ⟨⟨ds', mid⟩, hdigits, hrest⟩ := ok_of_bind h
  dsimp only at hrest
  split at hrest
  · cases hrest
  · cases hrest
    exact taken_readSomeDigits hdigits

theorem taken_readFraction {fraction : Option (List Nat)}
    (h : readFraction s = .ok (fraction, rest)) : Taken Balanced s rest := by
  unfold readFraction at h
  split at h
  · obtain ⟨⟨ds, mid⟩, hdigits, hrest⟩ := ok_of_bind h
    cases hrest
    exact (taken_readSomeDigits hdigits).cons (m := .plain) fun _ => rfl
  · cases h
    exact ⟨[], rfl, .nil _ _⟩

theorem taken_readExponent {exponent : Option (Bool × List Nat)}
    (h : readExponent s = .ok (exponent, rest)) : Taken Balanced s rest := by
  unfold readExponent at h
  split at h
  · next c s =>
    split at h
    · next hc =>
      have hletter : Balanced [c] := by
        rcases hc with rfl | rfl <;> exact fun _ => rfl
      refine Taken.cons hletter ?_
      split at h
      · obtain ⟨⟨ds, mid⟩, hdigits, hrest⟩ := ok_of_bind h
        cases hrest
        exact (taken_readSomeDigits hdigits).cons (m := .plain) fun _ => rfl
      · obtain ⟨⟨ds, mid⟩, hdigits, hrest⟩ := ok_of_bind h
        cases hrest
        exact (taken_readSomeDigits hdigits).cons (m := .plain) fun _ => rfl
      · obtain ⟨⟨ds, mid⟩, hdigits, hrest⟩ := ok_of_bind h
        cases hrest
        exact taken_readSomeDigits hdigits
    · cases h
      exact ⟨[], rfl, .nil _ _⟩
  · cases h
    exact ⟨[], rfl, .nil _ _⟩

theorem taken_readNumeral {n : Numeral} (h : readNumeral s = .ok (n, rest)) :
    Taken Balanced s rest := by
  have hparts : ∀ s' : List Char, ∀ whole fraction exponent mid mid',
      readWhole s' = .ok (whole, mid) → readFraction mid = .ok (fraction, mid') →
      readExponent mid' = .ok (exponent, rest) → Taken Balanced s' rest :=
    fun _ _ _ _ _ _ hwhole hfraction hexponent =>
      ((taken_readWhole hwhole).append (taken_readFraction hfraction)).append
        (taken_readExponent hexponent)
  unfold readNumeral at h
  dsimp only at h
  split at h
  · obtain ⟨⟨whole, mid⟩, hwhole, h⟩ := ok_of_bind h
    obtain ⟨⟨fraction, mid'⟩, hfraction, h⟩ := ok_of_bind h
    obtain ⟨⟨exponent, mid''⟩, hexponent, hrest⟩ := ok_of_bind h
    cases hrest
    exact (hparts _ _ _ _ _ _ hwhole hfraction hexponent).cons (m := .plain) fun _ => rfl
  · obtain ⟨⟨whole, mid⟩, hwhole, h⟩ := ok_of_bind h
    obtain ⟨⟨fraction, mid'⟩, hfraction, h⟩ := ok_of_bind h
    obtain ⟨⟨exponent, mid''⟩, hexponent, hrest⟩ := ok_of_bind h
    cases hrest
    exact hparts _ _ _ _ _ _ hwhole hfraction hexponent

/-! ### Strings -/

/-- In a string, a character that is neither a quote nor a backslash changes nothing. -/
theorem moves_quoted {c : Char} (hquote : c ≠ '"') (hbackslash : c ≠ '\\') :
    Moves .quoted 0 [c] .quoted 0 := by
  intro depth
  simp [Scan.run, Scan.step, hquote, hbackslash]

theorem moves_escape (c : Char) : Moves .quoted 0 ['\\', c] .quoted 0 := fun _ => rfl

theorem taken_readUnit {n : Nat} (h : readUnit s = .ok (n, rest)) :
    Taken (Moves .quoted 0 · .quoted 0) s rest := by
  have hdigit : ∀ {c : Char} {v : Nat}, Text.hexValue? c = some v →
      Moves .quoted 0 [c] .quoted 0 := by
    intro c v hvalue
    refine moves_quoted ?_ ?_ <;> (rintro rfl; cases hvalue)
  unfold readUnit at h
  split at h
  · split at h
    · next ha hb hc hd =>
      cases h
      exact ⟨[_, _, _, _], rfl,
        ((hdigit ha).append (hdigit hb)).append ((hdigit hc).append (hdigit hd))⟩
    · cases h
  · split at h <;> cases h

theorem taken_skipCharacters {fuel : Nat} (h : skipCharacters fuel s = .ok rest) :
    Taken Unquoting s rest := by
  induction fuel generalizing s with
  | zero => cases h
  | succ fuel ih =>
    unfold skipCharacters at h
    split at h
    · cases h
    · cases h
      exact ⟨['"'], rfl, fun _ => rfl⟩
    · cases h
    · obtain ⟨⟨unit, mid⟩, hunit, h⟩ := ok_of_bind h
      exact Taken.append ⟨['\\', 'u'], rfl, moves_escape 'u'⟩ ((taken_readUnit hunit).append (ih h))
    · next e s _ =>
      split at h
      · exact Taken.append ⟨['\\', e], rfl, moves_escape e⟩ (ih h)
      · cases h
    · next c s hquote hlast _ hescape =>
      split at h
      · cases h
      · refine (ih h).cons (moves_quoted hquote ?_)
        rintro rfl
        cases s with
        | nil => exact hlast rfl rfl
        | cons e s => exact hescape e s rfl rfl

theorem taken_skipString {u : Unit} (h : skipString s = .ok (u, rest)) : Taken Unquoting s rest := by
  obtain ⟨mid, hskip, hrest⟩ := ok_of_bind h
  cases hrest
  exact taken_skipCharacters hskip

end

/-! ### Arrays and objects -/

section

variable {α ν σ ε : Type} {fault : Fault → ε} {s rest : List Char}

/-- What closes all that it opens may stand in a bracket. -/
theorem Taken.inside (h : Taken Balanced s rest) : Taken (Moves .plain 1 · .plain 1) s rest := by
  obtain ⟨used, hsplit, hused⟩ := h
  refine ⟨used, hsplit, ?_⟩
  simpa using hused.deeper (k := 1)

theorem taken_close {c : Char} (hc : c = ']' ∨ c = '\x7d') (s : List Char) :
    Taken Closing (c :: s) s := ⟨[c], rfl, closing_close hc⟩

theorem taken_readItems {item : List Char → Except ε (α × List Char)}
    (hitem : ∀ s x rest, item s = .ok (x, rest) → Taken Balanced s rest) {fuel : Nat}
    {xs : List α} (h : readItems fault item fuel s = .ok (xs, rest)) : Taken Closing s rest := by
  induction fuel generalizing s xs with
  | zero => cases h
  | succ fuel ih =>
    obtain ⟨⟨x, mid⟩, hx, h⟩ := ok_of_bind h
    have hbefore := ((hitem _ _ _ hx).append (taken_skipBlanks mid)).inside
    dsimp only at h
    split at h
    · next after hcomma =>
      obtain ⟨⟨xs', mid'⟩, hxs, hrest⟩ := ok_of_bind h
      cases hrest
      have hblanks := ((taken_skipBlanks after).cons balanced_comma).inside
      rw [hcomma] at hbefore
      exact (hbefore.append hblanks).append (ih hxs)
    · next after hclose =>
      cases h
      rw [hclose] at hbefore
      exact hbefore.append (taken_close (.inl rfl) _)
    · cases h
    · cases h

theorem taken_readArray {item : List Char → Except ε (α × List Char)}
    (hitem : ∀ s x rest, item s = .ok (x, rest) → Taken Balanced s rest) {xs : List α}
    (h : readArray fault item s = .ok (xs, rest)) : Taken Closing s rest := by
  have hblanks := (taken_skipBlanks s).inside
  rw [readArray] at h
  split at h
  · next after hclose =>
    cases h
    rw [hclose] at hblanks
    exact hblanks.append (taken_close (.inl rfl) _)
  · exact hblanks.append (taken_readItems hitem h)

theorem taken_foldMembers {name : List Char → Except ε (ν × List Char)}
    {member : σ → ν → List Char → Except ε (σ × List Char)}
    (hname : ∀ s n rest, name s = .ok (n, rest) → Taken Unquoting s rest)
    (hmember : ∀ state n s state' rest, member state n s = .ok (state', rest) →
      Taken Balanced s rest) {fuel : Nat} {state state' : σ}
    (h : foldMembers fault name member fuel state s = .ok (state', rest)) :
    Taken Closing s rest := by
  induction fuel generalizing s state with
  | zero => cases h
  | succ fuel ih =>
    unfold foldMembers at h
    split at h
    · next s =>
      obtain ⟨⟨n, mid⟩, hn, h⟩ := ok_of_bind h
      obtain ⟨⟨next, mid'⟩, hnext, h⟩ := ok_of_bind h
      have hbefore := ((((hname _ _ _ hn).cons moves_quote).append (hmember _ _ _ _ _ hnext)).append
        (taken_skipBlanks mid')).inside
      dsimp only at h
      split at h
      · next after hcomma =>
        have hblanks := ((taken_skipBlanks after).cons balanced_comma).inside
        rw [hcomma] at hbefore
        exact (hbefore.append hblanks).append (ih h)
      · next after hclose =>
        cases h
        rw [hclose] at hbefore
        exact hbefore.append (taken_close (.inr rfl) _)
      · cases h
      · cases h
    · cases h
    · cases h

theorem taken_readObject {name : List Char → Except ε (ν × List Char)}
    {member : σ → ν → List Char → Except ε (σ × List Char)}
    (hname : ∀ s n rest, name s = .ok (n, rest) → Taken Unquoting s rest)
    (hmember : ∀ state n s state' rest, member state n s = .ok (state', rest) →
      Taken Balanced s rest) {state state' : σ}
    (h : readObject fault name member state s = .ok (state', rest)) : Taken Closing s rest := by
  have hblanks := (taken_skipBlanks s).inside
  rw [readObject] at h
  split at h
  · next after hclose =>
    cases h
    rw [hclose] at hblanks
    exact hblanks.append (taken_close (.inr rfl) _)
  · exact hblanks.append (taken_foldMembers hname hmember h)

end

/-! ### Values and spans -/

section

variable {s rest : List Char} {u : Unit}

theorem taken_skipScalar (h : skipScalar s = .ok (u, rest)) : Taken Balanced s rest := by
  have hword : ∀ {word rest' : List Char}, (word.all isNeutral) = true →
      readWord word rest' = .ok rest → Taken Balanced rest' rest := by
    intro word rest' hneutral hread
    exact ⟨word, readWord_eq_ok hread, balanced_of_neutral (List.all_eq_true.mp hneutral)⟩
  unfold skipScalar at h
  split at h
  · obtain ⟨mid, hread, hrest⟩ := ok_of_bind h
    cases hrest
    exact (hword rfl hread).cons (m := .plain) fun _ => rfl
  · obtain ⟨mid, hread, hrest⟩ := ok_of_bind h
    cases hrest
    exact (hword rfl hread).cons (m := .plain) fun _ => rfl
  · obtain ⟨mid, hread, hrest⟩ := ok_of_bind h
    cases hrest
    exact (hword rfl hread).cons (m := .plain) fun _ => rfl
  · exact (taken_skipString h).cons moves_quote
  · obtain ⟨⟨n, mid⟩, hread, hrest⟩ := ok_of_bind h
    cases hrest
    exact taken_readNumeral hread

theorem taken_skipMember {value : List Char → Except Fault (Unit × List Char)}
    (hvalue : ∀ s u rest, value s = .ok (u, rest) → Taken Balanced s rest) {state name : Unit}
    (h : skipMember value state name s = .ok (u, rest)) : Taken Balanced s rest := by
  obtain ⟨mid, hcolon, h⟩ := ok_of_bind h
  exact (taken_readColon hcolon).append (hvalue _ _ _ h)

/-- A value that is skipped closes all that it opens. -/
theorem taken_skipValue {depth : Nat} (h : skipValue depth s = .ok (u, rest)) :
    Taken Balanced s rest := by
  induction depth generalizing s rest u with
  | zero => exact taken_skipScalar h
  | succ depth ih =>
    unfold skipValue at h
    split at h
    · obtain ⟨⟨xs, mid⟩, hread, hrest⟩ := ok_of_bind h
      cases hrest
      exact (taken_readArray (fun _ _ _ => ih) hread).cons (moves_open (.inl rfl))
    · refine Taken.cons (moves_open (.inr rfl)) (taken_readObject ?_ ?_ h)
      · exact fun _ _ _ => taken_skipString
      · exact fun _ _ _ _ _ => taken_skipMember fun _ _ _ => ih
    · exact taken_skipScalar h

theorem taken_readNameSpan {span : List Char} (h : readNameSpan s = .ok (span, rest)) :
    Taken Unquoting s rest := by
  obtain ⟨⟨u, mid⟩, hskip, hrest⟩ := ok_of_bind h
  cases hrest
  exact taken_skipString hskip

theorem taken_readMemberSpan {before after : List (List Char × List Char)} {name : List Char}
    (h : readMemberSpan before name s = .ok (after, rest)) : Taken Balanced s rest := by
  obtain ⟨mid, hcolon, h⟩ := ok_of_bind h
  obtain ⟨⟨value, mid'⟩, hspan, hrest⟩ := ok_of_bind h
  obtain ⟨⟨u, mid''⟩, hskip, hvalue⟩ := ok_of_bind hspan
  cases hvalue
  cases hrest
  exact (taken_readColon hcolon).append (taken_skipValue hskip)

/-- An object that is never closed has no outline. -/
theorem outline?_unclosed {bytes : List UInt8} {s : List Char} {inner : Scan}
    (hbytes : ofByteChars bytes = '\x7b' :: s) (hopen : Scan.run ⟨0, .plain⟩ s = some inner) :
    outline? bytes = none := by
  rw [outline?, hbytes, skipBlanks_cons (by decide)]
  simp only
  cases hread : readObject id readNameSpan readMemberSpan [] s with
  | error e => rfl
  | ok result =>
    obtain ⟨members, rest⟩ := result
    obtain ⟨used, hsplit, hused⟩ := taken_readObject (fun _ _ _ => taken_readNameSpan)
      (fun _ _ _ _ _ => taken_readMemberSpan) hread
    -- What was read closes the brace, but the scan of the text in the brace does not.
    rw [hsplit, Scan.run_append] at hopen
    cases hrun : Scan.run ⟨0, .plain⟩ used with
    | none => rw [hrun] at hopen; cases hopen
    | some state =>
      have hclosed := (hused 0).symm.trans (Scan.run_within hrun)
      cases hclosed

end

/-! ## What is printed -/

/-- Characters of the text of a number. -/
def isNumeric (c : Char) : Bool := c.isDigit || c = '-' || c = '+' || c = '.' || c = 'e'

theorem isNumeric_of_isDigit {c : Char} (h : c.isDigit = true) : isNumeric c = true := by
  simp [isNumeric, h]

theorem isNumeric_toDigits (n : Nat) : ∀ c ∈ Nat.toDigits 10 n, isNumeric c = true := fun _ h =>
  isNumeric_of_isDigit (Nat.isDigit_of_mem_toDigits (by decide) (by decide) h)

theorem isNumeric_exponentText (e : Int) : ∀ c ∈ Binary64.exponentText e, isNumeric c = true := by
  have hdigits := isNumeric_toDigits e.natAbs
  unfold Binary64.exponentText
  refine List.forall_mem_cons.mpr ⟨by split <;> rfl, ?_⟩
  split
  · exact List.forall_mem_cons.mpr ⟨rfl, hdigits⟩
  · exact hdigits

theorem isNumeric_decimalText (n : Nat) (k : Int) :
    ∀ c ∈ Binary64.decimalText n k, isNumeric c = true := by
  have hdigits := isNumeric_toDigits n
  have hzeros : ∀ count, ∀ c ∈ List.replicate count '0', isNumeric c = true := by
    intro count c hc
    rw [List.eq_of_mem_replicate hc]
    rfl
  have hexponent := isNumeric_exponentText
  simp only [Binary64.decimalText]
  split
  · simp only [List.forall_mem_append]
    exact ⟨⟨hdigits, hzeros _⟩, List.all_eq_true.mp (by decide)⟩
  split
  · refine List.forall_mem_append.mpr ⟨fun c hc => hdigits c (List.mem_of_mem_take hc), ?_⟩
    exact List.forall_mem_cons.mpr ⟨rfl, fun c hc => hdigits c (List.mem_of_mem_drop hc)⟩
  split
  · simp only [List.forall_mem_append]
    exact ⟨⟨List.all_eq_true.mp (by decide), hzeros _⟩, hdigits⟩
  split
  · next d hd =>
    rw [hd, List.forall_mem_singleton] at hdigits
    exact List.forall_mem_cons.mpr ⟨hdigits, List.forall_mem_cons.mpr ⟨rfl, hexponent _⟩⟩
  · next d ds _ hds =>
    rw [hds, List.forall_mem_cons] at hdigits
    refine List.forall_mem_append.mpr ⟨?_, List.forall_mem_cons.mpr ⟨rfl, hexponent _⟩⟩
    exact List.forall_mem_cons.mpr ⟨hdigits.1, List.forall_mem_cons.mpr ⟨rfl, hdigits.2⟩⟩
  · simp

theorem isNumeric_printNumber (n : JsonNumber) : ∀ c ∈ printNumber n, isNumeric c = true := by
  cases n with
  | integer i =>
    have hdigits := isNumeric_toDigits i.natAbs
    simp only [printNumber, Binary64.integerText]
    split
    · exact List.forall_mem_cons.mpr ⟨rfl, hdigits⟩
    · exact hdigits
  | float f =>
    have hdigits : ∀ c ∈ if f.significand = 0 then ['0', '.', '0']
        else Binary64.decimalText f.shortest.1 f.shortest.2, isNumeric c = true := by
      split
      · exact List.all_eq_true.mp (by decide)
      · exact isNumeric_decimalText _ _
    simp only [printNumber, Binary64.text]
    split
    · exact List.forall_mem_cons.mpr ⟨rfl, hdigits⟩
    · exact hdigits

theorem lt_and_isNeutral_of_isNumeric {c : Char} (h : isNumeric c = true) :
    c.toNat < 128 ∧ isNeutral c = true := by
  simp only [isNumeric, Bool.or_eq_true, decide_eq_true_eq] at h
  rcases h with (((hdigit | rfl) | rfl) | rfl) | rfl
  · have hlast : c.toNat ≤ 57 := (Char.isDigit_iff_toNat.mp hdigit).2
    exact ⟨by omega, isNeutral_of_isDigit hdigit⟩
  all_goals exact ⟨by decide, rfl⟩

/-- Numbers are printed in ASCII. -/
theorem byteChars_printNumber (n : JsonNumber) : byteChars (printNumber n) = printNumber n :=
  byteChars_ascii fun c hc => (lt_and_isNeutral_of_isNumeric (isNumeric_printNumber n c hc)).1

theorem balanced_printNumber (n : JsonNumber) : Balanced (byteChars (printNumber n)) := by
  rw [byteChars_printNumber]
  exact balanced_of_neutral fun c hc =>
    (lt_and_isNeutral_of_isNumeric (isNumeric_printNumber n c hc)).2

/-- A written string is what skipping it takes. -/
theorem balanced_printString (s : String) : Balanced (byteChars (printString s)) := by
  obtain ⟨used, hsplit, hused⟩ := taken_skipString (skipString_escaped s [])
  rw [List.append_nil] at hsplit
  rw [byteChars_printString, written, hsplit]
  exact balanced_string hused

theorem byteChars_cons {c : Char} (h : c.toNat < 128) (cs : List Char) :
    byteChars (c :: cs) = c :: byteChars cs := by
  rw [← List.singleton_append, byteChars_append, byteChars_ascii (by simpa using h)]
  rfl

theorem balanced_brackets {left right : Char} (hleft : left = '[' ∨ left = '\x7b')
    (hright : right = ']' ∨ right = '\x7d') {cs : List Char} (h : Balanced (byteChars cs)) :
    Balanced (byteChars (left :: cs ++ [right])) := by
  have hbytes : byteChars (left :: cs ++ [right]) = [left] ++ byteChars cs ++ [right] := by
    rw [byteChars_append, byteChars_cons, byteChars_cons]
    · rfl
    · rcases hright with rfl | rfl <;> decide
    · rcases hleft with rfl | rfl <;> decide
  rw [hbytes]
  have hinside : Moves .plain 1 (byteChars cs) .plain 1 := by simpa using h.deeper (k := 1)
  exact ((moves_open hleft).append hinside).append (closing_close hright)

theorem balanced_comma_between {cs ds : List Char} (h : Balanced (byteChars cs))
    (h' : Balanced (byteChars ds)) : Balanced (byteChars (cs ++ ',' :: ds)) := by
  rw [byteChars_append, byteChars_cons (by decide)]
  exact h.append (balanced_comma.append h')

theorem balanced_member (name : String) {cs : List Char} (h : Balanced (byteChars cs)) :
    Balanced (byteChars (printString name ++ ':' :: cs)) := by
  rw [byteChars_append, byteChars_cons (by decide)]
  exact (balanced_printString name).append (balanced_colon.append h)

mutual

/-- The bytes of a printed value close all that they open. -/
theorem balanced_print : (v : Json) → Balanced (byteChars v.print)
  | .null => by
    rw [print, byteChars_of_all (by decide)]
    exact fun _ => rfl
  | .boolean true => by
    rw [print, byteChars_of_all (by decide)]
    exact fun _ => rfl
  | .boolean false => by
    rw [print, byteChars_of_all (by decide)]
    exact fun _ => rfl
  | .number n => by
    rw [print]
    exact balanced_printNumber n
  | .text s => by
    rw [print]
    exact balanced_printString s
  | .array items => by
    rw [print]
    exact balanced_brackets (.inl rfl) (.inl rfl) (balanced_printItems items)
  | .object members => by
    rw [print]
    exact balanced_brackets (.inr rfl) (.inr rfl) (balanced_printMembers members)

theorem balanced_printItems : (items : List Json) → Balanced (byteChars (printItems items))
  | [] => by
    rw [printItems]
    exact .nil _ _
  | [v] => by
    rw [printItems]
    exact balanced_print v
  | v :: w :: items => by
    rw [printItems]
    exact balanced_comma_between (balanced_print v) (balanced_printItems (w :: items))

theorem balanced_printMembers :
    (members : List (String × Json)) → Balanced (byteChars (printMembers members))
  | [] => by
    rw [printMembers]
    exact .nil _ _
  | [(name, v)] => by
    rw [printMembers]
    exact balanced_member name (balanced_print v)
  | (name, v) :: m :: members => by
    rw [printMembers]
    exact balanced_comma_between (balanced_member name (balanced_print v))
      (balanced_printMembers (m :: members))

end

/-- Nothing is read from a beginning of the bytes of an object. -/
theorem outline?_cut {members : List (String × Json)} {cut : List UInt8}
    (hcut : cut <+: Text.bytes (Json.object members).toText)
    (hne : cut ≠ Text.bytes (Json.object members).toText) : outline? cut = none := by
  have hchars : ofByteChars (Text.bytes (Json.object members).toText) =
      '\x7b' :: (byteChars (printMembers members) ++ ['\x7d']) := by
    change byteChars (Json.object members).print = _
    have hclose : byteChars ['\x7d'] = ['\x7d'] := byteChars_of_all (by decide)
    rw [print, List.cons_append, byteChars_cons (by decide), byteChars_append, hclose]
  obtain ⟨lost, hlost⟩ := hcut
  have hlost' : lost ≠ [] := by
    rintro rfl
    exact hne (by rw [← hlost, List.append_nil])
  rw [← hlost, ofByteChars, List.map_append] at hchars
  cases hread : ofByteChars cut with
  | nil => rw [outline?, hread]; rfl
  | cons c s =>
    rw [ofByteChars] at hread
    rw [hread, List.cons_append, List.cons.injEq] at hchars
    obtain ⟨rfl, hrest⟩ := hchars
    -- The closing brace is among the bytes that are lost.
    have hinner : s <+: byteChars (printMembers members) := by
      rcases List.prefix_concat_iff.mp ⟨_, hrest⟩ with hwhole | hinner
      · rw [hwhole, List.append_right_eq_self, List.map_eq_nil_iff] at hrest
        exact absurd hrest hlost'
      · exact hinner
    obtain ⟨behind, hbehind⟩ := hinner
    have hbalanced := balanced_printMembers members 0
    rw [← hbehind, Scan.run_append] at hbalanced
    obtain ⟨inner, hrun, -⟩ := Option.bind_eq_some_iff.mp hbalanced
    exact outline?_unclosed hread hrun

end WikiMarkup.Json
