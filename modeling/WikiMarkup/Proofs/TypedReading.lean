-- SUMMARY: A typed reader comes through on a text exactly where the value reader does, on the values that it accepts.
import WikiMarkup.Wire.Events
import WikiMarkup.Proofs.Brackets
import WikiMarkup.Proofs.EventText
import Mathlib.Data.List.Forall2

/-!
# Typed reading

A typed reader of arrays and objects checks an item before it looks at the text behind it, so on a
text that it refuses it may report another problem than the value reader would. Where it comes
through there is no such difference: it has taken the same text as the value reader, and the values
found there are those that it accepts. This is shown for the items of an array and the members of
an object first, whatever the reader of one of them, and then for events.
-/

namespace WikiMarkup

/-! ## Results -/

theorem mapError_eq_ok_iff {ε ε' α : Type} {f : ε → ε'} {x : Except ε α} {a : α} :
    x.mapError f = .ok a ↔ x = .ok a := by
  cases x with
  | error e => exact ⟨nofun, nofun⟩
  | ok b => simp [Except.mapError]

theorem map_eq_ok_iff {ε α β : Type} {f : α → β} {x : Except ε α} {b : β} :
    x.map f = .ok b ↔ ∃ a, x = .ok a ∧ f a = b := by
  cases x with
  | error e => exact ⟨nofun, nofun⟩
  | ok a => simp [Except.map]

theorem bind_eq_ok_iff {ε α β : Type} {x : Except ε α} {f : α → Except ε β} {b : β} :
    (x >>= f) = .ok b ↔ ∃ a, x = .ok a ∧ f a = .ok b := by
  refine ⟨Json.ok_of_bind, ?_⟩
  rintro ⟨a, rfl, h⟩
  exact h

namespace Json

/-! ## What the value reader takes -/

section

variable {s rest : List Char}

theorem taken_readEscapedUnit {c : Char} (h : readEscapedUnit s = .ok (c, rest)) :
    Taken (Moves .quoted 0 · .quoted 0) s rest := by
  obtain ⟨⟨high, mid⟩, hhigh, h⟩ := ok_of_bind h
  dsimp only at h
  split at h
  · cases h
  · split at h
    · cases h
      exact taken_readUnit hhigh
    · split at h
      · obtain ⟨⟨low, mid'⟩, hlow, h⟩ := ok_of_bind h
        dsimp only at h
        split at h
        · obtain ⟨-, rfl⟩ := Prod.mk.inj (Except.ok.inj h)
          have hpair := Taken.append ⟨['\\', 'u'], rfl, moves_escape 'u'⟩ (taken_readUnit hlow)
          exact (taken_readUnit hhigh).append hpair
        · cases h
      · cases h
      · cases h
      · cases h

theorem taken_readCharacters {fuel : Nat} {cs : List Char}
    (h : readCharacters fuel s = .ok (cs, rest)) : Taken Unquoting s rest := by
  induction fuel generalizing s cs with
  | zero => cases h
  | succ fuel ih =>
    unfold readCharacters at h
    split at h
    · cases h
    · cases h
      exact ⟨['"'], rfl, fun _ => rfl⟩
    · cases h
    · obtain ⟨⟨c, mid⟩, hc, h⟩ := ok_of_bind h
      obtain ⟨⟨cs, mid'⟩, hcs, hrest⟩ := ok_of_bind h
      cases hrest
      have hafter := (taken_readEscapedUnit hc).append (ih hcs)
      exact Taken.append ⟨['\\', 'u'], rfl, moves_escape 'u'⟩ hafter
    · next e s _ =>
      split at h
      · cases h
      · obtain ⟨⟨cs, mid⟩, hcs, hrest⟩ := ok_of_bind h
        cases hrest
        exact Taken.append ⟨['\\', e], rfl, moves_escape e⟩ (ih hcs)
    · next c s hquote hlast _ hescape =>
      split at h
      · cases h
      · obtain ⟨⟨cs, mid⟩, hcs, hrest⟩ := ok_of_bind h
        cases hrest
        refine (ih hcs).cons (moves_quoted hquote ?_)
        rintro rfl
        cases s with
        | nil => exact hlast rfl rfl
        | cons e s => exact hescape e s rfl rfl

theorem taken_readString {text : String} (h : readString s = .ok (text, rest)) :
    Taken Unquoting s rest := by
  obtain ⟨⟨cs, mid⟩, hcs, hrest⟩ := ok_of_bind h
  cases hrest
  exact taken_readCharacters hcs

theorem taken_readScalar {v : Json} (h : readScalar s = .ok (v, rest)) :
    Taken Balanced s rest := by
  have hword : ∀ {word rest' : List Char}, (word.all isNeutral) = true →
      readWord word rest' = .ok rest → Taken Balanced rest' rest := by
    intro word rest' hneutral hread
    exact ⟨word, readWord_eq_ok hread, balanced_of_neutral (List.all_eq_true.mp hneutral)⟩
  unfold readScalar at h
  split at h
  · obtain ⟨mid, hread, hrest⟩ := ok_of_bind h
    cases hrest
    exact (hword rfl hread).cons (m := .plain) fun _ => rfl
  · obtain ⟨mid, hread, hrest⟩ := ok_of_bind h
    cases hrest
    exact (hword rfl hread).cons (m := .plain) fun _ => rfl
  · obtain ⟨mid, hread, hrest⟩ := ok_of_bind h
    cases hrest
    exact (hword rfl hread).cons (m := .plain) fun _ => rfl
  · obtain ⟨⟨text, mid⟩, hread, hrest⟩ := ok_of_bind h
    cases hrest
    exact (taken_readString hread).cons moves_quote
  · cases h
  · split at h
    · obtain ⟨⟨n, mid⟩, hread, hrest⟩ := ok_of_bind h
      cases hrest
      obtain ⟨⟨numeral, mid'⟩, hnumeral, hvalue⟩ := ok_of_bind hread
      dsimp only at hvalue
      split at hvalue
      · cases hvalue
        exact taken_readNumeral hnumeral
      · cases hvalue
    · cases h

/-- A value that is read closes all that it opens. -/
theorem taken_readValue {depth : Nat} {v : Json} (h : readValue depth s = .ok (v, rest)) :
    Taken Balanced s rest := by
  induction depth generalizing s rest v with
  | zero =>
    unfold readValue at h
    split at h
    · cases h
    · cases h
    · exact taken_readScalar h
  | succ depth ih =>
    unfold readValue at h
    split at h
    · obtain ⟨⟨items, mid⟩, hread, hrest⟩ := ok_of_bind h
      cases hrest
      exact (taken_readArray (fun _ _ _ => ih) hread).cons (moves_open (.inl rfl))
    · obtain ⟨⟨members, mid⟩, hread, hrest⟩ := ok_of_bind h
      cases hrest
      refine (taken_readObject ?_ ?_ hread).cons (moves_open (.inr rfl))
      · exact fun _ _ _ => taken_readString
      · intro before name s after rest hmember
        obtain ⟨mid, hcolon, hmember⟩ := ok_of_bind hmember
        obtain ⟨⟨value, mid'⟩, hvalue, hafter⟩ := ok_of_bind hmember
        cases hafter
        exact (taken_readColon hcolon).append (ih hvalue)
    · exact taken_readScalar h

theorem Taken.length_le {P : List Char → Prop} (h : Taken P s rest) : rest.length ≤ s.length := by
  obtain ⟨used, rfl, -⟩ := h
  rw [List.length_append]
  exact Nat.le_add_left ..

theorem length_le_of_readValue {depth : Nat} {v : Json} (h : readValue depth s = .ok (v, rest)) :
    rest.length ≤ s.length :=
  (taken_readValue h).length_le

end

/-! ## Arrays -/

section

variable {α ν σ ε : Type} {fault : Fault → ε} {s rest : List Char}

/-- One step of reading items: an item, and behind it a comma and more of them or the bracket. -/
theorem readItems_succ_eq_ok_iff {item : List Char → Except ε (α × List Char)} {fuel : Nat}
    {xs : List α} :
    readItems fault item (fuel + 1) s = .ok (xs, rest) ↔
      ∃ x mid, item s = .ok (x, mid) ∧
        ((∃ after xs', skipBlanks mid = ',' :: after ∧
            readItems fault item fuel (skipBlanks after) = .ok (xs', rest) ∧ xs = x :: xs') ∨
          skipBlanks mid = ']' :: rest ∧ xs = [x]) := by
  rw [readItems, bind_eq_ok_iff]
  constructor
  · rintro ⟨⟨x, mid⟩, hitem, h⟩
    refine ⟨x, mid, hitem, ?_⟩
    dsimp only at h
    split at h
    · next after hcomma =>
      obtain ⟨⟨xs', mid'⟩, hxs, hrest⟩ := ok_of_bind h
      cases hrest
      exact .inl ⟨after, xs', hcomma, hxs, rfl⟩
    · next after hclose =>
      cases h
      exact .inr ⟨hclose, rfl⟩
    · cases h
    · cases h
  · rintro ⟨x, mid, hitem, ⟨after, xs', hcomma, hxs, rfl⟩ | ⟨hclose, rfl⟩⟩
    · refine ⟨(x, mid), hitem, ?_⟩
      simp only [hcomma, hxs, ok_bind]
    · refine ⟨(x, mid), hitem, ?_⟩
      simp only [hclose]

/-- As many steps as there are items are enough, and more do no harm. -/
theorem readItems_of_length_le {item : List Char → Except ε (α × List Char)} {fuel fuel' : Nat}
    {xs : List α} (h : readItems fault item fuel s = .ok (xs, rest)) (hle : xs.length ≤ fuel') :
    readItems fault item fuel' s = .ok (xs, rest) := by
  induction fuel generalizing fuel' s xs with
  | zero => cases h
  | succ fuel ih =>
    obtain ⟨x, mid, hitem, ⟨after, xs', hcomma, hxs, rfl⟩ | ⟨hclose, rfl⟩⟩ :=
      readItems_succ_eq_ok_iff.mp h
    · obtain ⟨fuel', rfl⟩ := Nat.exists_eq_add_of_lt (show 0 < fuel' from Nat.lt_of_lt_of_le (Nat.succ_pos _) hle)
      rw [Nat.zero_add] at hle ⊢
      exact readItems_succ_eq_ok_iff.mpr
        ⟨x, mid, hitem, .inl ⟨after, xs', hcomma, ih hxs (Nat.le_of_succ_le_succ hle), rfl⟩⟩
    · obtain ⟨fuel', rfl⟩ := Nat.exists_eq_add_of_lt (show 0 < fuel' from Nat.lt_of_lt_of_le (Nat.succ_pos _) hle)
      rw [Nat.zero_add]
      exact readItems_succ_eq_ok_iff.mpr ⟨x, mid, hitem, .inr ⟨hclose, rfl⟩⟩

/-- Every item is followed by a character that is taken too. -/
theorem length_add_le_of_readItems {item : List Char → Except ε (α × List Char)}
    (hitem : ∀ s x rest, item s = .ok (x, rest) → rest.length ≤ s.length) {fuel : Nat}
    {xs : List α} (h : readItems fault item fuel s = .ok (xs, rest)) :
    xs.length + rest.length ≤ s.length := by
  induction fuel generalizing s xs with
  | zero => cases h
  | succ fuel ih =>
    obtain ⟨x, mid, hx, hafter⟩ := readItems_succ_eq_ok_iff.mp h
    have hmid := hitem _ _ _ hx
    have hblanks := (taken_skipBlanks mid).length_le
    rcases hafter with ⟨after, xs', hcomma, hxs, rfl⟩ | ⟨hclose, rfl⟩
    · have hrest := ih hxs
      have hblanks' := (taken_skipBlanks after).length_le
      rw [hcomma, List.length_cons] at hblanks
      rw [List.length_cons]
      omega
    · rw [hclose, List.length_cons] at hblanks
      rw [List.length_singleton]
      omega

/-- The reader comes through where the value reader does with so many levels, on the values that
`accepts` relates to a result. -/
def Follows (depth : Nat) (item : List Char → Except ε (α × List Char))
    (accepts : Json → α → Prop) : Prop :=
  ∀ s x rest, item s = .ok (x, rest) ↔ ∃ v, readValue depth s = .ok (v, rest) ∧ accepts v x

variable {depth : Nat} {item : List Char → Except ε (α × List Char)} {accepts : Json → α → Prop}

theorem Follows.readItems (h : Follows depth item accepts) {fuel : Nat} {xs : List α} :
    Json.readItems fault item fuel s = .ok (xs, rest) ↔
      ∃ vs, Json.readItems id (readValue depth) fuel s = .ok (vs, rest) ∧
        List.Forall₂ accepts vs xs := by
  induction fuel generalizing s xs with
  | zero => exact ⟨nofun, nofun⟩
  | succ fuel ih =>
    rw [readItems_succ_eq_ok_iff]
    constructor
    · rintro ⟨x, mid, hx, hafter⟩
      obtain ⟨v, hv, hvx⟩ := (h _ _ _).mp hx
      rcases hafter with ⟨after, xs', hcomma, hxs, rfl⟩ | ⟨hclose, rfl⟩
      · obtain ⟨vs, hvs, hall⟩ := ih.mp hxs
        exact ⟨v :: vs, readItems_succ_eq_ok_iff.mpr
          ⟨v, mid, hv, .inl ⟨after, vs, hcomma, hvs, rfl⟩⟩, .cons hvx hall⟩
      · exact ⟨[v], readItems_succ_eq_ok_iff.mpr ⟨v, mid, hv, .inr ⟨hclose, rfl⟩⟩,
          .cons hvx .nil⟩
    · rintro ⟨vs, hread, hall⟩
      obtain ⟨v, mid, hv, ⟨after, vs', hcomma, hvs, rfl⟩ | ⟨hclose, rfl⟩⟩ :=
        readItems_succ_eq_ok_iff.mp hread
      · obtain _ | ⟨hvx, hall⟩ := hall
        exact ⟨_, mid, (h _ _ _).mpr ⟨v, hv, hvx⟩,
          .inl ⟨after, _, hcomma, ih.mpr ⟨vs', hvs, hall⟩, rfl⟩⟩
      · obtain _ | ⟨hvx, ⟨⟩⟩ := hall
        exact ⟨_, mid, (h _ _ _).mpr ⟨v, hv, hvx⟩, .inr ⟨hclose, rfl⟩⟩

/-- An array is read by its items. -/
theorem Follows.readArray (h : Follows depth item accepts) {xs : List α} :
    Json.readArray fault item s = .ok (xs, rest) ↔
      ∃ vs, Json.readArray id (readValue depth) s = .ok (vs, rest) ∧
        List.Forall₂ accepts vs xs := by
  unfold Json.readArray
  split
  · constructor
    · intro hread
      cases hread
      exact ⟨[], rfl, .nil⟩
    · rintro ⟨vs, hread, hall⟩
      cases hread
      cases hall
      rfl
  · exact h.readItems

/-! ## Objects -/

/-- One step of reading members: a name and a member, and behind them a comma and more of them or
the brace. -/
theorem foldMembers_succ_eq_ok_iff {name : List Char → Except ε (ν × List Char)}
    {member : σ → ν → List Char → Except ε (σ × List Char)} {fuel : Nat} {state state' : σ} :
    foldMembers fault name member (fuel + 1) state s = .ok (state', rest) ↔
      ∃ t n mid next mid', s = '"' :: t ∧ name t = .ok (n, mid) ∧
        member state n mid = .ok (next, mid') ∧
        ((∃ after, skipBlanks mid' = ',' :: after ∧
            foldMembers fault name member fuel next (skipBlanks after) = .ok (state', rest)) ∨
          skipBlanks mid' = '\x7d' :: rest ∧ state' = next) := by
  constructor
  · intro h
    unfold foldMembers at h
    split at h
    · next t =>
      obtain ⟨⟨n, mid⟩, hname, h⟩ := ok_of_bind h
      obtain ⟨⟨next, mid'⟩, hmember, h⟩ := ok_of_bind h
      refine ⟨t, n, mid, next, mid', rfl, hname, hmember, ?_⟩
      dsimp only at h
      split at h
      · next after hcomma => exact .inl ⟨after, hcomma, h⟩
      · next after hclose =>
        cases h
        exact .inr ⟨hclose, rfl⟩
      · cases h
      · cases h
    · cases h
    · cases h
  · rintro ⟨t, n, mid, next, mid', rfl, hname, hmember, ⟨after, hcomma, h⟩ | ⟨hclose, rfl⟩⟩
    · simp only [foldMembers, hname, ok_bind, hmember, hcomma, h]
    · simp only [foldMembers, hname, ok_bind, hmember, hclose]

theorem readMember_eq_ok_iff {value : List Char → Except Fault (Json × List Char)}
    {before after : List (String × Json)} {name : String} :
    readMember value before name s = .ok (after, rest) ↔
      ∃ mid v, readColon s = .ok mid ∧ value mid = .ok (v, rest) ∧
        after = before ++ [(name, v)] := by
  constructor
  · intro h
    obtain ⟨mid, hcolon, h⟩ := ok_of_bind h
    obtain ⟨⟨v, mid'⟩, hvalue, h⟩ := ok_of_bind h
    cases h
    exact ⟨mid, v, hcolon, hvalue, rfl⟩
  · rintro ⟨mid, v, hcolon, hvalue, rfl⟩
    rw [readMember, hcolon, ok_bind, hvalue, ok_bind]

/-- The members that are read do not depend on those before them. -/
theorem foldMembers_before {value : List Char → Except Fault (Json × List Char)} {fuel : Nat}
    {before all : List (String × Json)}
    (h : foldMembers id readString (readMember value) fuel before s = .ok (all, rest)) :
    ∃ ms, all = before ++ ms ∧ ∀ before',
      foldMembers id readString (readMember value) fuel before' s = .ok (before' ++ ms, rest) := by
  induction fuel generalizing before s with
  | zero => cases h
  | succ fuel ih =>
    obtain ⟨t, n, mid, next, mid', rfl, hname, hmember, hafter⟩ := foldMembers_succ_eq_ok_iff.mp h
    obtain ⟨start, v, hcolon, hvalue, rfl⟩ := readMember_eq_ok_iff.mp hmember
    have hmember' : ∀ before', readMember value before' n mid =
        .ok (before' ++ [(n, v)], mid') := fun before' =>
      readMember_eq_ok_iff.mpr ⟨start, v, hcolon, hvalue, rfl⟩
    rcases hafter with ⟨after, hcomma, hrest⟩ | ⟨hclose, rfl⟩
    · obtain ⟨ms, rfl, hms⟩ := ih hrest
      refine ⟨(n, v) :: ms, by simp, fun before' => foldMembers_succ_eq_ok_iff.mpr ?_⟩
      have hmore := hms (before' ++ [(n, v)])
      rw [List.append_assoc, List.singleton_append] at hmore
      exact ⟨t, n, mid, _, mid', rfl, hname, hmember' before', .inl ⟨after, hcomma, hmore⟩⟩
    · exact ⟨[(n, v)], rfl, fun before' => foldMembers_succ_eq_ok_iff.mpr
        ⟨t, n, mid, _, mid', rfl, hname, hmember' before', .inr ⟨hclose, rfl⟩⟩⟩

/-- The reader of a member comes through where a value is read with so many levels behind the
colon, on the members for which `P` holds and `step` leads to a further state. -/
def FollowsMember (depth : Nat) (member : σ → String → List Char → Except ε (σ × List Char))
    (P : String × Json → Prop) (step : σ → String × Json → Except ε σ) : Prop :=
  ∀ state n s state' rest, member state n s = .ok (state', rest) ↔
    ∃ mid v, readColon s = .ok mid ∧ readValue depth mid = .ok (v, rest) ∧
      P (n, v) ∧ step state (n, v) = .ok state'

variable {name : List Char → Except ε (String × List Char)}
  {member : σ → String → List Char → Except ε (σ × List Char)}
  {P : String × Json → Prop} {step : σ → String × Json → Except ε σ}

theorem FollowsMember.foldMembers (h : FollowsMember depth member P step)
    (hname : ∀ s n rest, name s = .ok (n, rest) ↔ readString s = .ok (n, rest)) {fuel : Nat}
    {state state' : σ} :
    Json.foldMembers fault name member fuel state s = .ok (state', rest) ↔
      ∃ ms, Json.foldMembers id readString (readMember (readValue depth)) fuel [] s =
          .ok (ms, rest) ∧
        (∀ m ∈ ms, P m) ∧ ms.foldlM step state = .ok state' := by
  induction fuel generalizing s state with
  | zero => exact ⟨nofun, nofun⟩
  | succ fuel ih =>
    rw [foldMembers_succ_eq_ok_iff]
    constructor
    · rintro ⟨t, n, mid, next, mid', rfl, hn, hmember, hafter⟩
      obtain ⟨start, v, hcolon, hvalue, hP, hstep⟩ := (h _ _ _ _ _).mp hmember
      have hread : readMember (readValue depth) [] n mid = .ok ([(n, v)], mid') :=
        readMember_eq_ok_iff.mpr ⟨start, v, hcolon, hvalue, rfl⟩
      rcases hafter with ⟨after, hcomma, hrest⟩ | ⟨hclose, rfl⟩
      · obtain ⟨ms, hms, hall, hfold⟩ := ih.mp hrest
        obtain ⟨ms', hsplit, hbefore⟩ := foldMembers_before hms
        rw [List.nil_append] at hsplit
        subst hsplit
        refine ⟨(n, v) :: ms, foldMembers_succ_eq_ok_iff.mpr ⟨t, n, mid, _, mid', rfl,
          (hname _ _ _).mp hn, hread, .inl ⟨after, hcomma, hbefore [(n, v)]⟩⟩, ?_, ?_⟩
        · exact List.forall_mem_cons.mpr ⟨hP, hall⟩
        · rw [List.foldlM_cons, hstep]
          exact hfold
      · refine ⟨[(n, v)], foldMembers_succ_eq_ok_iff.mpr ⟨t, n, mid, _, mid', rfl,
          (hname _ _ _).mp hn, hread, .inr ⟨hclose, rfl⟩⟩, ?_, ?_⟩
        · exact List.forall_mem_singleton.mpr hP
        · rw [List.foldlM_cons, hstep]
          rfl
    · rintro ⟨ms, hread, hall, hfold⟩
      obtain ⟨t, n, mid, next, mid', rfl, hn, hmember, hafter⟩ :=
        foldMembers_succ_eq_ok_iff.mp hread
      obtain ⟨start, v, hcolon, hvalue, rfl⟩ := readMember_eq_ok_iff.mp hmember
      refine ⟨t, n, mid, ?_⟩
      rcases hafter with ⟨after, hcomma, hrest⟩ | ⟨hclose, rfl⟩
      · obtain ⟨ms', rfl, hms'⟩ := foldMembers_before hrest
        rw [List.nil_append, List.singleton_append] at hall hfold
        obtain ⟨hP, hall⟩ := List.forall_mem_cons.mp hall
        rw [List.foldlM_cons] at hfold
        obtain ⟨next, hstep, hfold⟩ := ok_of_bind hfold
        refine ⟨next, mid', rfl, (hname _ _ _).mpr hn,
          (h _ _ _ _ _).mpr ⟨start, v, hcolon, hvalue, hP, hstep⟩, .inl ⟨after, hcomma, ?_⟩⟩
        exact ih.mpr ⟨ms', hms' [], hall, hfold⟩
      · rw [List.nil_append, List.foldlM_cons] at hfold
        obtain ⟨next, hstep, hfold⟩ := ok_of_bind hfold
        cases hfold
        exact ⟨state', mid', rfl, (hname _ _ _).mpr hn, (h _ _ _ _ _).mpr
          ⟨start, v, hcolon, hvalue, List.forall_mem_singleton.mp hall, hstep⟩, .inr ⟨hclose, rfl⟩⟩

/-- An object is read by its members. -/
theorem FollowsMember.readObject (h : FollowsMember depth member P step)
    (hname : ∀ s n rest, name s = .ok (n, rest) ↔ readString s = .ok (n, rest))
    {state state' : σ} :
    Json.readObject fault name member state s = .ok (state', rest) ↔
      ∃ ms, Json.readObject id readString (readMember (readValue depth)) [] s = .ok (ms, rest) ∧
        (∀ m ∈ ms, P m) ∧ ms.foldlM step state = .ok state' := by
  unfold Json.readObject
  split
  · constructor
    · intro hread
      cases hread
      exact ⟨[], rfl, nofun, rfl⟩
    · rintro ⟨ms, hread, -, hfold⟩
      cases hread
      cases hfold
      rfl
  · exact h.foldMembers hname

/-! ## Values by their first character -/

/-- What is read as a scalar, a text by its quote. -/
theorem cases_of_readScalar {v : Json} (h : readScalar s = .ok (v, rest)) :
    v = .null ∨ (∃ b, v = .boolean b) ∨ (∃ n, v = .number n) ∨
      ∃ t text, v = .text text ∧ s = '"' :: t ∧ readString t = .ok (text, rest) := by
  unfold readScalar at h
  split at h
  · obtain ⟨mid, -, hrest⟩ := ok_of_bind h
    cases hrest
    exact .inl rfl
  · obtain ⟨mid, -, hrest⟩ := ok_of_bind h
    cases hrest
    exact .inr (.inl ⟨true, rfl⟩)
  · obtain ⟨mid, -, hrest⟩ := ok_of_bind h
    cases hrest
    exact .inr (.inl ⟨false, rfl⟩)
  · next t =>
    obtain ⟨⟨text, mid⟩, hread, hrest⟩ := ok_of_bind h
    cases hrest
    exact .inr (.inr (.inr ⟨t, text, rfl, rfl, hread⟩))
  · cases h
  · split at h
    · obtain ⟨⟨n, mid⟩, -, hrest⟩ := ok_of_bind h
      cases hrest
      exact .inr (.inr (.inl ⟨n, rfl⟩))
    · cases h

/-- Arrays and objects are read by their first character, and all else as a scalar. -/
theorem readValue_cases {v : Json} (h : readValue (depth + 1) s = .ok (v, rest)) :
    (∃ t items, s = '[' :: t ∧ v = .array items ∧
        Json.readArray id (readValue depth) t = .ok (items, rest)) ∨
      (∃ t members, s = '\x7b' :: t ∧ v = .object members ∧
        Json.readObject id readString (readMember (readValue depth)) [] t = .ok (members, rest)) ∨
      readScalar s = .ok (v, rest) := by
  unfold readValue at h
  split at h
  · next t =>
    obtain ⟨⟨items, mid⟩, hread, hrest⟩ := ok_of_bind h
    cases hrest
    exact .inl ⟨t, items, rfl, rfl, hread⟩
  · next t =>
    obtain ⟨⟨members, mid⟩, hread, hrest⟩ := ok_of_bind h
    cases hrest
    exact .inr (.inl ⟨t, members, rfl, rfl, hread⟩)
  · exact .inr (.inr h)

theorem readValue_array_iff {items : List Json} :
    readValue (depth + 1) s = .ok (.array items, rest) ↔
      ∃ t, s = '[' :: t ∧ Json.readArray id (readValue depth) t = .ok (items, rest) := by
  constructor
  · intro h
    obtain ⟨t, items', hs, hitems, hread⟩ | ⟨t, members, -, hmembers, -⟩ | hscalar :=
      readValue_cases h
    · cases hitems
      exact ⟨t, hs, hread⟩
    · cases hmembers
    · have hkind := cases_of_readScalar hscalar
      simp at hkind
  · rintro ⟨t, rfl, hread⟩
    simp only [readValue, hread, ok_bind]

theorem readValue_object_iff {members : List (String × Json)} :
    readValue (depth + 1) s = .ok (.object members, rest) ↔
      ∃ t, s = '\x7b' :: t ∧
        Json.readObject id readString (readMember (readValue depth)) [] t = .ok (members, rest) := by
  constructor
  · intro h
    obtain ⟨t, items, -, hitems, -⟩ | ⟨t, members', hs, hmembers, hread⟩ | hscalar :=
      readValue_cases h
    · cases hitems
    · cases hmembers
      exact ⟨t, hs, hread⟩
    · have hkind := cases_of_readScalar hscalar
      simp at hkind
  · rintro ⟨t, rfl, hread⟩
    simp only [readValue, hread, ok_bind]

theorem readValue_text_iff {text : String} :
    readValue (depth + 1) s = .ok (.text text, rest) ↔
      ∃ t, s = '"' :: t ∧ readString t = .ok (text, rest) := by
  constructor
  · intro h
    obtain ⟨t, items, -, hitems, -⟩ | ⟨t, members, -, hmembers, -⟩ | hscalar := readValue_cases h
    · cases hitems
    · cases hmembers
    · obtain hkind | ⟨b, hkind⟩ | ⟨n, hkind⟩ | ⟨t, text', hkind, hs, hread⟩ :=
        cases_of_readScalar hscalar
      · cases hkind
      · cases hkind
      · cases hkind
      · cases hkind
        exact ⟨t, hs, hread⟩
  · rintro ⟨t, rfl, hread⟩
    change (readString t >>= fun found => Except.ok (Json.text found.1, found.2)) = _
    rw [hread, ok_bind]

/-- An array is empty, or its items are read in any number of steps that is enough. -/
theorem readArray_eq_ok_iff {item : List Char → Except ε (α × List Char)}
    (hitem : ∀ s x rest, item s = .ok (x, rest) → rest.length ≤ s.length) {xs : List α} :
    Json.readArray fault item s = .ok (xs, rest) ↔
      (skipBlanks s = ']' :: rest ∧ xs = []) ∨
        (∀ t, skipBlanks s ≠ ']' :: t) ∧
          ∃ fuel, Json.readItems fault item fuel (skipBlanks s) = .ok (xs, rest) := by
  unfold Json.readArray
  split
  · next t hclose =>
    simp [hclose, eq_comm, and_comm]
  · next hopen =>
    constructor
    · intro h
      exact .inr ⟨hopen, _, h⟩
    · rintro (⟨hclose, -⟩ | ⟨-, fuel, h⟩)
      · exact absurd hclose (hopen rest)
      · have hlength := length_add_le_of_readItems hitem h
        exact readItems_of_length_le h (by omega)

end

end Json

/-! ## Events -/

namespace Events

variable {s rest : List Char}

theorem readName_eq_ok_iff {name : String} :
    Json.readName s = .ok (name, rest) ↔ Json.readString s = .ok (name, rest) :=
  mapError_eq_ok_iff

theorem readAny_eq_ok_iff {v : Json} :
    readAny s = .ok (v, rest) ↔ Json.readValue memberDepth s = .ok (v, rest) :=
  mapError_eq_ok_iff

/-- A tag is read from a text. -/
theorem readTag_eq_ok_iff {tag : EventTag} :
    readTag s = .ok (tag, rest) ↔
      ∃ name, Json.readValue memberDepth s = .ok (.text name, rest) ∧
        eventFamily.tagOfName name = .ok tag := by
  have htext : ∀ name, Json.readValue memberDepth s = .ok (.text name, rest) ↔
      ∃ t, s = '"' :: t ∧ Json.readString t = .ok (name, rest) := fun _ => Json.readValue_text_iff
  simp only [htext]
  constructor
  · intro h
    unfold readTag at h
    split at h
    · next t =>
      obtain ⟨⟨name, mid⟩, hname, h⟩ := Json.ok_of_bind h
      obtain ⟨found, htag, hfound⟩ := Json.ok_of_bind h
      cases hfound
      exact ⟨name, ⟨t, rfl, readName_eq_ok_iff.mp hname⟩, mapError_eq_ok_iff.mp htag⟩
    · cases h
  · rintro ⟨name, ⟨t, rfl, hread⟩, htag⟩
    simp only [readTag, readName_eq_ok_iff.mpr hread, ok_bind, htag]
    rfl

/-- A member is read as the value reader reads it; under the name of the tag it is a text, and it
is taken up with those before it. -/
theorem readMember_follows : Json.FollowsMember memberDepth readMember TextTag take := by
  intro found n s found' rest
  obtain ⟨tag?, before⟩ := found
  by_cases hkey : n = eventFamily.key
  · cases tag? with
    | some tag =>
      simp only [readMember, take, Family.collect, if_pos hkey]
      constructor
      · intro h
        cases h
      · rintro ⟨mid, v, -, -, -, h⟩
        cases h
    | none =>
      simp only [readMember, take, Family.collect, if_pos hkey]
      constructor
      · intro h
        obtain ⟨mid, hcolon, h⟩ := Json.ok_of_bind h
        obtain ⟨⟨tag, mid'⟩, htag, h⟩ := Json.ok_of_bind h
        cases h
        obtain ⟨name, hread, htag⟩ := readTag_eq_ok_iff.mp htag
        refine ⟨mid, .text name, mapError_eq_ok_iff.mp hcolon, hread, fun _ => ⟨name, rfl⟩, ?_⟩
        rw [Family.tagOf, htag]
        rfl
      · rintro ⟨mid, v, hcolon, hread, htext, h⟩
        obtain ⟨name, rfl⟩ := htext hkey
        obtain ⟨tag, htag, h⟩ := Json.ok_of_bind (mapError_eq_ok_iff.mp h)
        cases h
        rw [hcolon, mapError_ok, ok_bind, readTag_eq_ok_iff.mpr ⟨name, hread, htag⟩]
        rfl
  · simp only [readMember, take, Family.collect, if_neg hkey]
    constructor
    · intro h
      obtain ⟨mid, hcolon, h⟩ := Json.ok_of_bind h
      obtain ⟨⟨v, mid'⟩, hread, h⟩ := Json.ok_of_bind h
      cases h
      exact ⟨mid, v, mapError_eq_ok_iff.mp hcolon, readAny_eq_ok_iff.mp hread,
        fun h => absurd h hkey, rfl⟩
    · rintro ⟨mid, v, hcolon, hread, -, h⟩
      cases h
      rw [hcolon, mapError_ok, ok_bind, readAny_eq_ok_iff.mpr hread]
      rfl

/-- Behind the tag of an array stand its bracket or a comma and the other items. -/
theorem readItemsAfterTag_eq_ok_iff {items : List Json} :
    readItemsAfterTag s = .ok (items, rest) ↔
      (Json.skipBlanks s = ']' :: rest ∧ items = []) ∨
        ∃ after fuel, Json.skipBlanks s = ',' :: after ∧
          Json.readItems id (Json.readValue memberDepth) fuel (Json.skipBlanks after) =
            .ok (items, rest) := by
  have hany : Json.Follows memberDepth readAny Eq := by
    intro s x rest
    rw [readAny_eq_ok_iff]
    exact ⟨fun h => ⟨x, h, rfl⟩, fun ⟨_, h, heq⟩ => heq ▸ h⟩
  unfold readItemsAfterTag
  split
  · next after hcomma =>
    rw [hany.readItems]
    constructor
    · rintro ⟨vs, hvs, heq⟩
      rw [List.forall₂_eq_eq_eq] at heq
      subst heq
      exact .inr ⟨after, _, hcomma, hvs⟩
    · rintro (⟨hclose, -⟩ | ⟨after', fuel, hcomma', h⟩)
      · rw [hcomma] at hclose
        cases hclose
      · rw [hcomma] at hcomma'
        cases hcomma'
        have hlength := Json.length_add_le_of_readItems (fun _ _ _ => Json.length_le_of_readValue) h
        have hblanks := (Json.taken_skipBlanks after).length_le
        exact ⟨items, Json.readItems_of_length_le h (by omega), List.forall₂_refl _⟩
  · next after hclose =>
    simp [hclose, eq_comm, and_comm]
  · next hend =>
    simp [hend]
  · next hcomma hclose hend =>
    constructor
    · intro h
      cases h
    · rintro (⟨h, -⟩ | ⟨after, fuel, h, -⟩)
      · exact absurd h (hclose _)
      · exact absurd h (hcomma _)

/-- The tag of the value is a text. -/
def Tagged : Json → Prop
  | .object members => ∀ m ∈ members, TextTag m
  | .array items => ∀ item ∈ items.head?, ∃ name, item = .text name
  | _ => True

/-- The value is one from which the event is read. -/
def Accepts (v : Json) (e : Event) : Prop :=
  Tagged v ∧ eventFamily.codec.decode v = .ok e

theorem decode_object_eq_ok_iff {members : List (String × Json)} {e : Event} :
    eventFamily.codec.decode (.object members) = .ok e ↔
      ∃ found, members.foldlM take (none, []) = .ok found ∧
        eventFamily.ofCollected found = .ok e := by
  have hcollect : members.foldlM take (none, []) =
      (eventFamily.collect none [] members).mapError .shape := foldlM_take (none, []) members
  rw [hcollect]
  constructor
  · intro h
    obtain ⟨found, hfound, h⟩ := Json.ok_of_bind h
    exact ⟨found, mapError_eq_ok_iff.mpr hfound, h⟩
  · rintro ⟨found, hfound, h⟩
    exact bind_eq_ok_iff.mpr ⟨found, mapError_eq_ok_iff.mp hfound, h⟩

theorem decode_array_eq_ok_iff {name : String} {items : List Json} {e : Event} :
    eventFamily.codec.decode (.array (.text name :: items)) = .ok e ↔
      ∃ tag, eventFamily.tagOfName name = .ok tag ∧ eventFamily.ofItems tag items = .ok e :=
  bind_eq_ok_iff

theorem readEvent_brace_iff {e : Event} :
    readEvent ('\x7b' :: s) = .ok (e, rest) ↔
      ∃ members, Json.readValue (memberDepth + 1) ('\x7b' :: s) = .ok (.object members, rest) ∧
        Accepts (.object members) e := by
  have hread : ∀ found after, Json.readObject .fault Json.readName readMember (none, []) s =
      .ok (found, after) ↔ _ := fun _ _ =>
    readMember_follows.readObject fun _ _ _ => readName_eq_ok_iff
  simp only [Json.readValue_object_iff, Accepts, decode_object_eq_ok_iff]
  constructor
  · intro h
    obtain ⟨⟨found, after⟩, hfound, h⟩ := Json.ok_of_bind h
    obtain ⟨event, hevent, h⟩ := Json.ok_of_bind h
    cases h
    obtain ⟨members, hmembers, htagged, hfold⟩ := (hread _ _).mp hfound
    exact ⟨members, ⟨s, rfl, hmembers⟩, htagged, found, hfold, mapError_eq_ok_iff.mp hevent⟩
  · rintro ⟨members, ⟨t, hs, hmembers⟩, htagged, found, hfold, hevent⟩
    cases hs
    have hfound := (hread _ _).mpr ⟨members, hmembers, htagged, hfold⟩
    simp only [readEvent, hfound, ok_bind, hevent, mapError_ok]

theorem readEvent_bracket_iff {e : Event} :
    readEvent ('[' :: s) = .ok (e, rest) ↔
      ∃ items, Json.readValue (memberDepth + 1) ('[' :: s) = .ok (.array items, rest) ∧
        Accepts (.array items) e := by
  simp only [Json.readValue_array_iff,
    Json.readArray_eq_ok_iff fun _ _ _ => Json.length_le_of_readValue]
  constructor
  · intro h
    simp only [readEvent] at h
    split at h
    · cases h
    · next hopen =>
      obtain ⟨⟨tag, mid⟩, htag, h⟩ := Json.ok_of_bind h
      obtain ⟨⟨items, after⟩, hitems, h⟩ := Json.ok_of_bind h
      obtain ⟨event, hevent, h⟩ := Json.ok_of_bind h
      cases h
      obtain ⟨name, hread, htag⟩ := readTag_eq_ok_iff.mp htag
      refine ⟨.text name :: items, ⟨s, rfl, .inr ⟨hopen, ?_⟩⟩, ?_, ?_⟩
      · rcases readItemsAfterTag_eq_ok_iff.mp hitems with ⟨hclose, rfl⟩ | ⟨t, fuel, hcomma, h⟩
        · exact ⟨1, Json.readItems_succ_eq_ok_iff.mpr ⟨_, mid, hread, .inr ⟨hclose, rfl⟩⟩⟩
        · exact ⟨fuel + 1, Json.readItems_succ_eq_ok_iff.mpr
            ⟨_, mid, hread, .inl ⟨t, items, hcomma, h, rfl⟩⟩⟩
      · intro item hfirst
        cases hfirst
        exact ⟨name, rfl⟩
      · exact decode_array_eq_ok_iff.mpr ⟨tag, htag, mapError_eq_ok_iff.mp hevent⟩
  · rintro ⟨items, ⟨t, hs, ⟨-, rfl⟩ | ⟨hopen, fuel, hread⟩⟩, htagged, hdecode⟩
    · cases hdecode
    · cases hs
      cases fuel with
      | zero => cases hread
      | succ fuel =>
        obtain ⟨item, mid, hitem, hafter⟩ := Json.readItems_succ_eq_ok_iff.mp hread
        have hrest : ∃ others, items = item :: others ∧
            readItemsAfterTag mid = .ok (others, rest) := by
          rcases hafter with ⟨after, others, hcomma, hothers, rfl⟩ | ⟨hclose, rfl⟩
          · exact ⟨others, rfl, readItemsAfterTag_eq_ok_iff.mpr (.inr ⟨after, fuel, hcomma, hothers⟩)⟩
          · exact ⟨[], rfl, readItemsAfterTag_eq_ok_iff.mpr (.inl ⟨hclose, rfl⟩)⟩
        obtain ⟨others, rfl, hothers⟩ := hrest
        obtain ⟨name, rfl⟩ := htagged item rfl
        obtain ⟨tag, htag, hevent⟩ := decode_array_eq_ok_iff.mp hdecode
        have hfirst := readTag_eq_ok_iff.mpr ⟨name, hitem, htag⟩
        simp only [readEvent, hfirst, ok_bind, hothers, hevent, mapError_ok]

theorem Accepts.compound {v : Json} {e : Event} (h : Accepts v e) :
    (∃ items, v = .array items) ∨ ∃ members, v = .object members := by
  cases v with
  | array items => exact .inl ⟨items, rfl⟩
  | object members => exact .inr ⟨members, rfl⟩
  | null | boolean | number | text => cases h.2

/-- An event is read where the value reader comes through, and from the value found there. -/
theorem readEvent_follows : Json.Follows (memberDepth + 1) readEvent Accepts := by
  intro s e rest
  constructor
  · intro h
    by_cases hbrace : ∃ t, s = '\x7b' :: t
    · obtain ⟨t, rfl⟩ := hbrace
      obtain ⟨members, hread, haccepts⟩ := readEvent_brace_iff.mp h
      exact ⟨_, hread, haccepts⟩
    by_cases hbracket : ∃ t, s = '[' :: t
    · obtain ⟨t, rfl⟩ := hbracket
      obtain ⟨items, hread, haccepts⟩ := readEvent_bracket_iff.mp h
      exact ⟨_, hread, haccepts⟩
    unfold readEvent at h
    split at h
    · exact absurd ⟨_, rfl⟩ hbrace
    · exact absurd ⟨_, rfl⟩ hbracket
    · cases h
  · rintro ⟨v, hread, haccepts⟩
    obtain ⟨items, rfl⟩ | ⟨members, rfl⟩ := haccepts.compound
    · obtain ⟨t, rfl, -⟩ := Json.readValue_array_iff.mp hread
      exact readEvent_bracket_iff.mpr ⟨items, hread, haccepts⟩
    · obtain ⟨t, rfl, -⟩ := Json.readValue_object_iff.mp hread
      exact readEvent_brace_iff.mpr ⟨members, hread, haccepts⟩

/-- Events are read from a text exactly if it is an array in JSON and an event is read from each
of its items. -/
theorem decode_eq_ok_iff_accepts {source : String} {events : List Event} :
    decode source = .ok events ↔
      ∃ items, Json.read source.toList = .ok (.array items) ∧
        List.Forall₂ Accepts items events := by
  have hread : ∀ v, Json.read source.toList = .ok v ↔
      ∃ rest, Json.readValue (memberDepth + 2) (Json.skipBlanks source.toList) = .ok (v, rest) ∧
        Json.readEnd rest = .ok () := by
    intro v
    constructor
    · intro h
      obtain ⟨⟨found, rest⟩, hvalue, h⟩ := Json.ok_of_bind h
      obtain ⟨⟨⟩, hend, h⟩ := Json.ok_of_bind h
      cases h
      exact ⟨rest, hvalue, hend⟩
    · rintro ⟨rest, hvalue, hend⟩
      rw [Json.read, show Json.maxDepth = memberDepth + 2 from rfl, hvalue, ok_bind]
      dsimp only
      rw [hend, ok_bind]
  simp only [hread, Json.readValue_array_iff, decode, read]
  split
  · next t hbracket =>
    simp only [hbracket]
    constructor
    · intro h
      obtain ⟨⟨found, rest⟩, harray, h⟩ := Json.ok_of_bind h
      obtain ⟨⟨⟩, hend, h⟩ := Json.ok_of_bind h
      cases h
      obtain ⟨items, hitems, hall⟩ := readEvent_follows.readArray.mp harray
      exact ⟨items, ⟨rest, ⟨t, rfl, hitems⟩, mapError_eq_ok_iff.mp hend⟩, hall⟩
    · rintro ⟨items, ⟨rest, ⟨t', hs, hitems⟩, hend⟩, hall⟩
      cases hs
      have harray : Json.readArray .fault readEvent t = .ok (events, rest) :=
        readEvent_follows.readArray.mpr ⟨items, hitems, hall⟩
      rw [harray, ok_bind]
      dsimp only
      rw [hend]
      rfl
  · next hbracket =>
    constructor
    · intro h
      cases h
    · rintro ⟨items, ⟨rest, ⟨t, hs, -⟩, -⟩, -⟩
      exact absurd hs (hbracket t)

end Events

end WikiMarkup
