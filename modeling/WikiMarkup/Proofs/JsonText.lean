-- SUMMARY: Reading a printed JSON value gives it back: strings with every escape, integers of 64 bits, and arrays and objects as deep as the reader goes.
import WikiMarkup.Json.Printer
import WikiMarkup.Json.Reader

/-!
# Printed JSON is read as what was printed

A string is read back character by character, whatever it holds, and an integer of 64 bits digit
by digit. Arrays and objects are stated over any reader of one item or one member, so that the
typed readers share them with the reader of plain values: `readArray_printItems` gives back the
items, and `readObject_printMembers` is the run of one step over the members. A value is `Readable`
if its numbers are read back and it is not nested too deep; `Readable.readValue_print` says that
such a value is read back from its text, in front of anything that does not go on with a number. It
is `Exact` if its numbers are integers of 64 bits, which are read back.
-/

namespace WikiMarkup

/-- Reading goes on with what was read. -/
@[simp] theorem ok_bind {ε α β : Type} (a : α) (f : α → Except ε β) :
    (Except.ok a >>= f) = f a := rfl

/-- Renaming the errors leaves what was read. -/
theorem mapError_ok {ε ε' α : Type} (f : ε → ε') (a : α) :
    (Except.ok a : Except ε α).mapError f = .ok a := rfl

namespace Text

theorem hexValue?_hexDigit {n : Nat} (h : n < 16) : hexValue? (hexDigit n) = some n := by
  have hall : ∀ n < 16, hexValue? (hexDigit n) = some n := by decide
  exact hall n h

end Text

namespace Json

/-! ## Strings -/

theorem readUnit_control {n : Nat} (h : n < 0x20) (s : List Char) :
    readUnit ('0' :: '0' :: Text.hexDigit (n / 16) :: Text.hexDigit (n % 16) :: s) =
      .ok (n, s) := by
  have hzero : Text.hexValue? '0' = some 0 := by decide
  simp only [readUnit, hzero, Text.hexValue?_hexDigit (show n / 16 < 16 by omega),
    Text.hexValue?_hexDigit (show n % 16 < 16 by omega)]
  congr 2
  omega

theorem readEscapedUnit_control {c : Char} (h : c.toNat < 0x20) (s : List Char) :
    readEscapedUnit
      ('0' :: '0' :: Text.hexDigit (c.toNat / 16) :: Text.hexDigit (c.toNat % 16) :: s) =
      .ok (c, s) := by
  rw [readEscapedUnit, readUnit_control h, ok_bind]
  dsimp only
  rw [if_neg (by omega), if_pos (by omega), Char.ofNat_toNat]

theorem readCharacters_short {fuel : Nat} {s cs rest : List Char}
    (h : readCharacters fuel s = .ok (cs, rest)) {letter c : Char}
    (hletter : shortEscape? letter = some c) :
    readCharacters (fuel + 1) ('\\' :: letter :: s) = .ok (c :: cs, rest) := by
  -- The escape of a code unit is looked for before the short ones.
  have hunit : letter ≠ 'u' := by
    rintro rfl
    have hnone : shortEscape? 'u' = none := by decide
    rw [hnone] at hletter
    cases hletter
  simp [readCharacters, hletter, h]

/-- A written character is read as itself. -/
theorem readCharacters_escapeChar {fuel : Nat} {s cs rest : List Char}
    (h : readCharacters fuel s = .ok (cs, rest)) (c : Char) :
    readCharacters (fuel + 1) (escapeChar c ++ s) = .ok (c :: cs, rest) := by
  unfold escapeChar
  split
  · next hquote =>
    subst hquote
    exact readCharacters_short h rfl
  split
  · next hbackslash =>
    subst hbackslash
    exact readCharacters_short h rfl
  split
  · next hbackspace =>
    subst hbackspace
    exact readCharacters_short h rfl
  split
  · next htab =>
    subst htab
    exact readCharacters_short h rfl
  split
  · next hline =>
    subst hline
    exact readCharacters_short h rfl
  split
  · next hform =>
    subst hform
    exact readCharacters_short h rfl
  split
  · next hreturn =>
    subst hreturn
    exact readCharacters_short h rfl
  split
  · next hcontrol => simp [readCharacters, readEscapedUnit_control hcontrol s, h]
  · next hbackslash _ _ _ _ _ hcontrol => simp [readCharacters, hbackslash, hcontrol, h]

theorem readCharacters_escaped {cs rest : List Char} {fuel : Nat} (h : cs.length < fuel) :
    readCharacters fuel (cs.flatMap escapeChar ++ '"' :: rest) = .ok (cs, rest) := by
  induction cs generalizing fuel with
  | nil =>
    cases fuel with
    | zero => cases h
    | succ fuel => simp [readCharacters]
  | cons c cs ih =>
    cases fuel with
    | zero => cases h
    | succ fuel =>
      rw [List.flatMap_cons, List.append_assoc]
      exact readCharacters_escapeChar (ih (Nat.lt_of_succ_lt_succ h)) c

theorem length_le_flatMap_escapeChar (cs : List Char) :
    cs.length ≤ (cs.flatMap escapeChar).length := by
  have hpos : ∀ c, 1 ≤ (escapeChar c).length := by
    intro c
    unfold escapeChar
    repeat' split
    all_goals simp
  induction cs with
  | nil => exact Nat.le_refl 0
  | cons c cs ih =>
    have hc := hpos c
    rw [List.flatMap_cons, List.length_append, List.length_cons]
    omega

/-- The written form of a string is read up to its closing quote. -/
theorem readString_escaped (s : String) (rest : List Char) :
    readString (s.toList.flatMap escapeChar ++ '"' :: rest) = .ok (s, rest) := by
  have hlength := length_le_flatMap_escapeChar s.toList
  have hfuel : s.toList.length < (s.toList.flatMap escapeChar ++ '"' :: rest).length + 1 := by
    rw [List.length_append]
    omega
  simp only [readString, readCharacters_escaped hfuel, ok_bind, String.ofList_toList]

/-! ## Numbers -/

/-- A text that does not go on with a number. -/
def EndsNumber (s : List Char) : Prop :=
  ∀ c ∈ s.head?, c.isDigit = false ∧ c ≠ '.' ∧ c ≠ 'e' ∧ c ≠ 'E'

/-- The digits of a decimal numeral are read as far as they go. -/
theorem readDigits_append {cs rest : List Char} (h : ∀ c ∈ cs, c.isDigit = true)
    (hrest : EndsNumber rest) :
    readDigits (cs ++ rest) = (cs.map fun c => c.toNat - 0x30, rest) := by
  induction cs with
  | nil =>
    cases rest with
    | nil => rfl
    | cons c rest =>
      have hc := (hrest c rfl).1
      simp [readDigits, digit?, hc]
  | cons c cs ih =>
    have hc := h c List.mem_cons_self
    have hcs := ih fun d hd => h d (List.mem_cons_of_mem _ hd)
    simp [readDigits, digit?, hc, hcs]

theorem gather_of_lt {significand : Nat} {ds : List Nat}
    (h : ds.foldl (fun n d => n * 10 + d) significand < wordBound) :
    gather significand ds = (ds.foldl (fun n d => n * 10 + d) significand, 0) := by
  induction ds generalizing significand with
  | nil => rfl
  | cons d ds ih =>
    have hle : ∀ (ds : List Nat) (n : Nat), n ≤ ds.foldl (fun n d => n * 10 + d) n := by
      intro ds
      induction ds with
      | nil => exact fun n => Nat.le_refl n
      | cons d ds ih =>
        intro n
        have hstep := ih (n * 10 + d)
        rw [List.foldl_cons]
        omega
    have hfits : significand * 10 + d < wordBound := Nat.lt_of_le_of_lt (hle ds _) h
    rw [gather, if_pos hfits, ih h, List.foldl_cons]

/-- The values of the digits of a natural number. -/
def digitValues (n : Nat) : List Nat := (Nat.toDigits 10 n).map fun c => c.toNat - 0x30

theorem foldl_digitValues (n : Nat) : (digitValues n).foldl (fun n d => n * 10 + d) 0 = n := by
  have h := Nat.ofDigitChars_ten_toDigits (n := n)
  rw [Nat.ofDigitChars_eq_foldl] at h
  rw [digitValues, List.foldl_map]
  exact Eq.trans (congrArg (fun f => List.foldl f 0 (Nat.toDigits 10 n))
    (funext fun m => funext fun c => by rw [Nat.mul_comm]; rfl)) h

/-- Only zero itself is written with a zero in front. -/
theorem digitValues_cases (n : Nat) :
    digitValues n = [n] ∨ ∃ d ds, digitValues n = (d + 1) :: ds := by
  induction n using Nat.strongRecOn with
  | ind n ih =>
    by_cases hn : n < 10
    · left
      have hvalue : ∀ n < 10, n.digitChar.toNat - 0x30 = n := by decide
      rw [digitValues, Nat.toDigits_of_lt_base hn, List.map_singleton, hvalue n hn]
    · right
      have hsplit : digitValues n = digitValues (n / 10) ++ [(n % 10).digitChar.toNat - 0x30] := by
        rw [digitValues, Nat.toDigits_of_base_le (by decide) (Nat.le_of_not_lt hn),
          List.map_append, List.map_singleton, digitValues]
      rcases ih (n / 10) (by omega) with hhead | ⟨d, ds, hhead⟩
      · refine ⟨n / 10 - 1, [(n % 10).digitChar.toNat - 0x30], ?_⟩
        rw [hsplit, hhead, Nat.sub_add_cancel (by omega)]
        rfl
      · exact ⟨d, ds ++ [(n % 10).digitChar.toNat - 0x30], by rw [hsplit, hhead]; rfl⟩

theorem readWhole_toDigits (n : Nat) {rest : List Char} (h : EndsNumber rest) :
    readWhole (Nat.toDigits 10 n ++ rest) = .ok (digitValues n, rest) := by
  have hdigits : readDigits (Nat.toDigits 10 n ++ rest) = (digitValues n, rest) :=
    readDigits_append (fun c hc => Nat.isDigit_of_mem_toDigits (by decide) (by decide) hc) h
  rcases digitValues_cases n with hvalues | ⟨d, ds, hvalues⟩
  · rw [hvalues] at hdigits ⊢
    simp [readWhole, readSomeDigits, hdigits]
  · rw [hvalues] at hdigits ⊢
    simp [readWhole, readSomeDigits, hdigits]

theorem readFraction_of_ends {s : List Char} (h : EndsNumber s) :
    readFraction s = .ok (none, s) := by
  cases s with
  | nil => rfl
  | cons c s =>
    have hc := (h c rfl).2.1
    simp [readFraction, hc]

theorem readExponent_of_ends {s : List Char} (h : EndsNumber s) :
    readExponent s = .ok (none, s) := by
  cases s with
  | nil => rfl
  | cons c s =>
    obtain ⟨-, -, he, hE⟩ := h c rfl
    simp [readExponent, he, hE]

theorem ne_of_isDigit {c d : Char} (hc : c.isDigit = true) (hd : d.isDigit = false) : c ≠ d := by
  rintro rfl
  rw [hd] at hc
  cases hc

theorem toDigits_eq_cons (n : Nat) :
    ∃ c cs, Nat.toDigits 10 n = c :: cs ∧ c.isDigit = true := by
  cases hdigits : Nat.toDigits 10 n with
  | nil => exact absurd hdigits Nat.toDigits_ne_nil
  | cons c cs =>
    refine ⟨c, cs, rfl, ?_⟩
    have hmem : c ∈ Nat.toDigits 10 n := hdigits ▸ List.mem_cons_self
    exact Nat.isDigit_of_mem_toDigits (by decide) (by decide) hmem

theorem readNumeral_toDigits (n : Nat) {rest : List Char} (h : EndsNumber rest) :
    readNumeral (Nat.toDigits 10 n ++ rest) = .ok (⟨false, digitValues n, none, none⟩, rest) := by
  have hsign : ∀ s, Nat.toDigits 10 n ++ rest ≠ '-' :: s := by
    intro s heq
    obtain ⟨c, cs, hdigits, hdigit⟩ := toDigits_eq_cons n
    rw [hdigits] at heq
    exact ne_of_isDigit hdigit rfl (List.cons.inj heq).1
  rw [readNumeral, readWhole_toDigits n h]
  · simp [readFraction_of_ends h, readExponent_of_ends h]
  · exact hsign

theorem readNumeral_minus (n : Nat) {rest : List Char} (h : EndsNumber rest) :
    readNumeral ('-' :: (Nat.toDigits 10 n ++ rest)) =
      .ok (⟨true, digitValues n, none, none⟩, rest) := by
  simp [readNumeral, readWhole_toDigits n h, readFraction_of_ends h, readExponent_of_ends h]

theorem value?_digitValues {n : Nat} (h : n < wordBound) :
    (Numeral.mk false (digitValues n) none none).value? = some (.integer n) := by
  have hgather : gather 0 (digitValues n) = (n, 0) := by
    have hfold := foldl_digitValues n
    rw [gather_of_lt (by rw [hfold]; exact h), hfold]
  simp [Numeral.value?, hgather]

theorem value?_negative_digitValues {n : Nat} (hzero : n ≠ 0) (h : n ≤ wordBound / 2) :
    (Numeral.mk true (digitValues n) none none).value? = some (.integer (-n)) := by
  have hgather : gather 0 (digitValues n) = (n, 0) := by
    have hfold := foldl_digitValues n
    rw [gather_of_lt (by rw [hfold]; omega), hfold]
  have hfits : ¬ wordBound / 2 < n := Nat.not_lt.mpr h
  simp [Numeral.value?, hgather, hzero, hfits]

/-- The integers that the reader does not round. -/
def IsWord (i : Int) : Prop := -(wordBound / 2 : Nat) ≤ i ∧ i < wordBound

/-- The written form of an integer of 64 bits is read as that integer. -/
theorem readNumber_integerText {i : Int} (hi : IsWord i) {rest : List Char} (h : EndsNumber rest) :
    readNumber (Binary64.integerText i ++ rest) = .ok (.integer i, rest) := by
  obtain ⟨hlow, hhigh⟩ := hi
  by_cases hneg : i < 0
  · have hzero : i.natAbs ≠ 0 := by omega
    have hfits : i.natAbs ≤ wordBound / 2 := by omega
    have hvalue : -(i.natAbs : Int) = i := by omega
    rw [Binary64.integerText, if_pos hneg, List.cons_append, readNumber, readNumeral_minus _ h,
      ok_bind]
    dsimp only
    rw [value?_negative_digitValues hzero hfits, hvalue]
  · have hfits : i.natAbs < wordBound := by omega
    have hvalue : (i.natAbs : Int) = i := by omega
    rw [Binary64.integerText, if_neg hneg, readNumber, readNumeral_toDigits _ h, ok_bind]
    dsimp only
    rw [value?_digitValues hfits, hvalue]

/-- A sign or a digit, with which every number starts. -/
def StartsNumber (c : Char) : Prop := c = '-' ∨ c.isDigit = true

theorem StartsNumber.ne {c d : Char} (h : StartsNumber c) (hdigit : d.isDigit = false)
    (hsign : d ≠ '-') : c ≠ d := by
  rcases h with rfl | hc
  · exact hsign.symm
  · exact ne_of_isDigit hc hdigit

/-! ## Values that are read as printed -/

/-- No number of the value is rounded, and its arrays and objects are at most so deep. -/
inductive Exact : Nat → Json → Prop where
  | null {depth : Nat} : Exact depth .null
  | boolean {depth : Nat} (b : Bool) : Exact depth (.boolean b)
  | integer {depth : Nat} {i : Int} (h : IsWord i) : Exact depth (.number (.integer i))
  | text {depth : Nat} (s : String) : Exact depth (.text s)
  | array {depth : Nat} {items : List Json} (h : ∀ v ∈ items, Exact depth v) :
    Exact (depth + 1) (.array items)
  | object {depth : Nat} {members : List (String × Json)} (h : ∀ m ∈ members, Exact depth m.2) :
    Exact (depth + 1) (.object members)

/-- The text of the number is read as the number. -/
def NumberReadable (n : JsonNumber) : Prop :=
  ∀ rest, EndsNumber rest → readNumber (printNumber n ++ rest) = .ok (n, rest)

/-- Every number of the value is read from its text, and its arrays and objects are at most so
deep. -/
inductive Readable : Nat → Json → Prop where
  | null {depth : Nat} : Readable depth .null
  | boolean {depth : Nat} (b : Bool) : Readable depth (.boolean b)
  | number {depth : Nat} {n : JsonNumber} (h : NumberReadable n) : Readable depth (.number n)
  | text {depth : Nat} (s : String) : Readable depth (.text s)
  | array {depth : Nat} {items : List Json} (h : ∀ v ∈ items, Readable depth v) :
    Readable (depth + 1) (.array items)
  | object {depth : Nat} {members : List (String × Json)} (h : ∀ m ∈ members, Readable depth m.2) :
    Readable (depth + 1) (.object members)

theorem Exact.readable {depth : Nat} {v : Json} (h : Exact depth v) : Readable depth v := by
  induction h with
  | null => exact .null
  | boolean b => exact .boolean b
  | integer h => exact .number fun _ hrest => readNumber_integerText h hrest
  | text s => exact .text s
  | array _ ih => exact .array ih
  | object _ ih => exact .object ih

/-- Nothing else than a sign or a digit is read as the start of a number. -/
theorem startsNumber_of_readNumber {c : Char} {s rest : List Char} {n : JsonNumber}
    (h : readNumber (c :: s) = .ok (n, rest)) : StartsNumber c := by
  refine Classical.byContradiction fun hnot => ?_
  obtain ⟨hsign, hdigit⟩ := not_or.mp hnot
  simp [readNumber, readNumeral, readWhole, readSomeDigits, readDigits, digit?, hsign, hdigit,
    bind, Except.bind] at h

theorem NumberReadable.eq_cons {n : JsonNumber} (h : NumberReadable n) :
    ∃ c t, printNumber n = c :: t ∧ StartsNumber c := by
  have hread := h [] nofun
  cases hprint : printNumber n with
  | nil =>
    rw [hprint] at hread
    cases hread
  | cons c t =>
    rw [hprint] at hread
    exact ⟨c, t, rfl, startsNumber_of_readNumber hread⟩

/-- A text that starts with something to read. -/
def Starts (s : List Char) : Prop := ∃ c t, s = c :: t ∧ isBlank c = false ∧ c ≠ ']'

theorem Starts.append {s : List Char} (h : Starts s) (rest : List Char) : Starts (s ++ rest) := by
  obtain ⟨c, t, rfl, hblank, hclose⟩ := h
  exact ⟨c, t ++ rest, rfl, hblank, hclose⟩

theorem Starts.skipBlanks {s : List Char} (h : Starts s) : skipBlanks s = s := by
  obtain ⟨c, t, rfl, hblank, -⟩ := h
  simp [Json.skipBlanks, hblank]

theorem skipBlanks_cons {c : Char} (h : isBlank c = false) (s : List Char) :
    skipBlanks (c :: s) = c :: s := by
  simp [skipBlanks, h]

theorem NumberReadable.starts {n : JsonNumber} (h : NumberReadable n) :
    Starts (printNumber n) := by
  obtain ⟨c, t, hprint, hc⟩ := h.eq_cons
  refine ⟨c, t, hprint, ?_, hc.ne (by decide) (by decide)⟩
  simp [isBlank, hc.ne (show ' '.isDigit = false from rfl) (by decide),
    hc.ne (show '\t'.isDigit = false from rfl) (by decide),
    hc.ne (show '\n'.isDigit = false from rfl) (by decide),
    hc.ne (show '\r'.isDigit = false from rfl) (by decide)]

theorem Exact.mono {depth depth' : Nat} {v : Json} (h : Exact depth v) (hle : depth ≤ depth') :
    Exact depth' v := by
  induction h generalizing depth' with
  | null => exact .null
  | boolean b => exact .boolean b
  | integer h => exact .integer h
  | text s => exact .text s
  | array h ih =>
    cases depth' with
    | zero => cases hle
    | succ depth' => exact .array fun v hv => ih v hv (Nat.le_of_succ_le_succ hle)
  | object h ih =>
    cases depth' with
    | zero => cases hle
    | succ depth' => exact .object fun m hm => ih m hm (Nat.le_of_succ_le_succ hle)

theorem Exact.members {depth : Nat} {members : List (String × Json)}
    (h : Exact (depth + 1) (.object members)) : ∀ m ∈ members, Exact depth m.2 := by
  cases h with
  | object h => exact h

theorem Readable.starts {depth : Nat} {v : Json} (h : Readable depth v) : Starts v.print := by
  cases h with
  | null => exact ⟨'n', _, rfl, by decide, by decide⟩
  | boolean b => cases b <;> exact ⟨_, _, rfl, by decide, by decide⟩
  | number h => exact h.starts
  | text s => exact ⟨'"', _, rfl, by decide, by decide⟩
  | array h => exact ⟨'[', _, rfl, by decide, by decide⟩
  | object h => exact ⟨'\x7b', _, rfl, by decide, by decide⟩

theorem Exact.starts {depth : Nat} {v : Json} (h : Exact depth v) : Starts v.print :=
  h.readable.starts

/-! ## Arrays and objects -/

variable {α β ν σ ε : Type}

theorem endsNumber_of_comma (s : List Char) : EndsNumber (',' :: s) := by
  rintro c ⟨⟩
  decide

theorem endsNumber_of_bracket (s : List Char) : EndsNumber (']' :: s) := by
  rintro c ⟨⟩
  decide

theorem endsNumber_of_brace (s : List Char) : EndsNumber ('\x7d' :: s) := by
  rintro c ⟨⟩
  decide

/-- Texts with commas between them. -/
def separated : List (List Char) → List Char
  | [] => []
  | [t] => t
  | t :: u :: texts => t ++ ',' :: separated (u :: texts)

theorem printItems_eq_separated : (items : List Json) →
    printItems items = separated (items.map print)
  | [] => rfl
  | [v] => rfl
  | v :: w :: items => by
    rw [printItems, printItems_eq_separated (w :: items)]
    rfl

/-- A member of an object, of which `label` is the name without its quotes. -/
def memberText (label text : List Char) : List Char := '"' :: (label ++ '"' :: ':' :: text)

theorem printMembers_eq_separated : (members : List (String × Json)) →
    printMembers members =
      separated (members.map fun m => memberText (m.1.toList.flatMap escapeChar) m.2.print)
  | [] => rfl
  | [(name, v)] => by simp [printMembers, printString, memberText, separated]
  | (name, v) :: m :: members => by
    rw [printMembers, printMembers_eq_separated (m :: members)]
    simp [printString, memberText, separated]

theorem Starts.separated {text : List Char} (h : Starts text) (texts : List (List Char)) :
    Starts (separated (text :: texts)) := by
  cases texts with
  | nil => exact h
  | cons t texts => exact h.append _

theorem length_le_separated {texts : List (List Char)} (h : ∀ t ∈ texts, t ≠ []) :
    texts.length ≤ (separated texts).length := by
  induction texts with
  | nil => exact Nat.le_refl 0
  | cons t texts ih =>
    have ht := List.length_pos_iff.mpr (h t List.mem_cons_self)
    have hrest := ih fun u hu => h u (List.mem_cons_of_mem _ hu)
    cases texts with
    | nil => exact ht
    | cons u texts =>
      simp only [separated, List.length_cons, List.length_append] at hrest ⊢
      omega

/-- A reader of items that reads each text reads them one after the other. -/
theorem readItems_separated (fault : Fault → ε) {item : List Char → Except ε (α × List Char)}
    {text : β → List Char} {value : β → α} {x : β} {items : List β}
    (hstarts : ∀ y ∈ x :: items, Starts (text y))
    (hitem : ∀ y ∈ x :: items, ∀ rest, EndsNumber rest →
      item (text y ++ rest) = .ok (value y, rest))
    {fuel : Nat} (hfuel : (x :: items).length ≤ fuel) (rest : List Char) :
    readItems fault item fuel (separated ((x :: items).map text) ++ ']' :: rest) =
      .ok ((x :: items).map value, rest) := by
  induction items generalizing x fuel with
  | nil =>
    cases fuel with
    | zero => cases hfuel
    | succ fuel =>
      have hx := hitem x List.mem_cons_self (']' :: rest) (endsNumber_of_bracket rest)
      simp [readItems, separated, hx, skipBlanks, isBlank]
  | cons y items ih =>
    cases fuel with
    | zero => cases hfuel
    | succ fuel =>
      have htail := ih (x := y) (fun z hz => hstarts z (List.mem_cons_of_mem _ hz))
        (fun z hz => hitem z (List.mem_cons_of_mem _ hz)) (Nat.le_of_succ_le_succ hfuel)
      have hstart := (hstarts y (List.mem_cons_of_mem _ List.mem_cons_self)).separated
        (items.map text)
      rw [List.map_cons] at htail
      have hx := hitem x List.mem_cons_self
        (',' :: (separated (text y :: items.map text) ++ ']' :: rest)) (endsNumber_of_comma _)
      rw [List.map_cons, List.map_cons, separated, List.append_assoc, List.cons_append, readItems,
        hx, ok_bind]
      simp only [skipBlanks_cons (show isBlank ',' = false by decide)]
      rw [(hstart.append _).skipBlanks, htail, ok_bind]
      rfl

/-- A reader of items that reads each text reads an array of them. -/
theorem readArray_separated (fault : Fault → ε) {item : List Char → Except ε (α × List Char)}
    {text : β → List Char} {value : β → α} {items : List β}
    (hstarts : ∀ y ∈ items, Starts (text y))
    (hitem : ∀ y ∈ items, ∀ rest, EndsNumber rest → item (text y ++ rest) = .ok (value y, rest))
    (rest : List Char) :
    readArray fault item (separated (items.map text) ++ ']' :: rest) =
      .ok (items.map value, rest) := by
  cases items with
  | nil => rfl
  | cons x items =>
    have hne : ∀ t ∈ (x :: items).map text, t ≠ [] := by
      intro t ht
      obtain ⟨y, hy, rfl⟩ := List.mem_map.mp ht
      obtain ⟨c, t, hstart, -⟩ := hstarts y hy
      rw [hstart]
      exact List.cons_ne_nil c t
    have hlength := length_le_separated hne
    rw [List.length_map] at hlength
    obtain ⟨c, t, hprint, hblank, hclose⟩ :=
      (hstarts x List.mem_cons_self).separated (items.map text)
    have hfuel : (x :: items).length ≤
        (separated ((x :: items).map text) ++ ']' :: rest).length + 1 := by
      rw [List.length_append]
      omega
    have hread := readItems_separated fault hstarts hitem hfuel rest
    rw [List.map_cons, hprint, List.cons_append] at hread ⊢
    unfold readArray
    rw [skipBlanks_cons hblank]
    split
    · next heq => exact absurd (List.cons.inj heq).1 hclose
    · exact hread

/-- A reader of items that reads back printed items reads back an array. -/
theorem readArray_printItems (fault : Fault → ε) {item : List Char → Except ε (α × List Char)}
    {form : α → Json} {items : List α} (hstarts : ∀ x ∈ items, Starts (form x).print)
    (hitem : ∀ x ∈ items, ∀ rest, EndsNumber rest →
      item ((form x).print ++ rest) = .ok (x, rest)) (rest : List Char) :
    readArray fault item (printItems (items.map form) ++ ']' :: rest) = .ok (items, rest) := by
  have hread : readArray fault item (separated (items.map (print ∘ form)) ++ ']' :: rest) =
      .ok (items.map id, rest) := readArray_separated fault hstarts hitem rest
  rw [printItems_eq_separated, List.map_map, hread, List.map_id]

theorem separated_memberText_eq_cons (label text : List Char) (texts : List (List Char)) :
    ∃ t, separated (memberText label text :: texts) = '"' :: t := by
  cases texts with
  | nil => exact ⟨_, rfl⟩
  | cons t texts => exact ⟨_, rfl⟩

/-- Members are taken one after the other, each by what `step` does with it. -/
theorem foldMembers_separated (fault : Fault → ε) {name : List Char → Except ε (ν × List Char)}
    {member : σ → ν → List Char → Except ε (σ × List Char)} {step : σ → β → Except ε σ}
    {label text : β → List Char} {named : β → ν} {m : β} {members : List β}
    (hname : ∀ m' ∈ m :: members, ∀ rest,
      name (label m' ++ '"' :: rest) = .ok (named m', rest))
    (hmember : ∀ m' ∈ m :: members, ∀ state rest, EndsNumber rest →
      member state (named m') (':' :: (text m' ++ rest)) = (step state m').map (·, rest))
    {fuel : Nat} (hfuel : (m :: members).length ≤ fuel) (state : σ) (rest : List Char) :
    foldMembers fault name member fuel state
        (separated ((m :: members).map fun m => memberText (label m) (text m)) ++ '\x7d' :: rest) =
      ((m :: members).foldlM step state).map (·, rest) := by
  induction members generalizing m fuel state with
  | nil =>
    cases fuel with
    | zero => cases hfuel
    | succ fuel =>
      have hlabel := hname m List.mem_cons_self (':' :: (text m ++ '\x7d' :: rest))
      have hm := hmember m List.mem_cons_self state ('\x7d' :: rest) (endsNumber_of_brace rest)
      simp only [List.map_cons, List.map_nil, separated, memberText, List.append_assoc,
        List.cons_append, foldMembers, hlabel, ok_bind, hm, List.foldlM_cons, List.foldlM_nil]
      cases step state m with
      | error e => rfl
      | ok next => simp [Except.map, skipBlanks, isBlank]
  | cons m' members ih =>
    cases fuel with
    | zero => cases hfuel
    | succ fuel =>
      obtain ⟨t, hprint⟩ := separated_memberText_eq_cons (label m') (text m')
        (members.map fun m => memberText (label m) (text m))
      have hlabel := hname m List.mem_cons_self
        (':' :: (text m ++ ',' :: ('"' :: t ++ '\x7d' :: rest)))
      have hm := hmember m List.mem_cons_self state (',' :: ('"' :: t ++ '\x7d' :: rest))
        (endsNumber_of_comma _)
      have htail := ih (fun m'' h => hname m'' (List.mem_cons_of_mem _ h))
        (fun m'' h => hmember m'' (List.mem_cons_of_mem _ h)) (Nat.le_of_succ_le_succ hfuel)
      rw [List.map_cons, hprint] at htail
      rw [List.map_cons, List.map_cons, separated, hprint]
      simp only [List.cons_append] at hlabel hm
      simp only [memberText, List.append_assoc, List.cons_append, foldMembers, hlabel, ok_bind, hm]
      rw [List.foldlM_cons]
      cases step state m with
      | error e => rfl
      | ok next =>
        have hnext := htail next
        simp only [List.cons_append] at hnext
        simp only [Except.map, ok_bind, skipBlanks_cons (show isBlank ',' = false by decide),
          skipBlanks_cons (show isBlank '"' = false by decide), hnext]

/-- An object is the run of `step` over its members. -/
theorem readObject_separated (fault : Fault → ε) {name : List Char → Except ε (ν × List Char)}
    {member : σ → ν → List Char → Except ε (σ × List Char)} {step : σ → β → Except ε σ}
    {label text : β → List Char} {named : β → ν} {members : List β}
    (hname : ∀ m ∈ members, ∀ rest, name (label m ++ '"' :: rest) = .ok (named m, rest))
    (hmember : ∀ m ∈ members, ∀ state rest, EndsNumber rest →
      member state (named m) (':' :: (text m ++ rest)) = (step state m).map (·, rest))
    (state : σ) (rest : List Char) :
    readObject fault name member state
        (separated (members.map fun m => memberText (label m) (text m)) ++ '\x7d' :: rest) =
      (members.foldlM step state).map (·, rest) := by
  cases members with
  | nil => rfl
  | cons m members =>
    have hne : ∀ t ∈ (m :: members).map fun m => memberText (label m) (text m), t ≠ [] := by
      intro t ht
      obtain ⟨m', -, rfl⟩ := List.mem_map.mp ht
      exact List.cons_ne_nil _ _
    have hlength := length_le_separated hne
    rw [List.length_map] at hlength
    have hfuel : (m :: members).length ≤
        (separated ((m :: members).map fun m => memberText (label m) (text m)) ++
          '\x7d' :: rest).length + 1 := by
      rw [List.length_append]
      omega
    have hread := foldMembers_separated fault hname hmember hfuel state rest
    obtain ⟨t, hprint⟩ := separated_memberText_eq_cons (label m) (text m)
      (members.map fun m => memberText (label m) (text m))
    rw [List.map_cons, hprint, List.cons_append] at hread ⊢
    exact hread

/-- A printed object is the run of `step` over its members. -/
theorem readObject_printMembers (fault : Fault → ε)
    {name : List Char → Except ε (String × List Char)}
    {member : σ → String → List Char → Except ε (σ × List Char)}
    {step : σ → String × Json → Except ε σ} {members : List (String × Json)}
    (hname : ∀ s rest, name (s.toList.flatMap escapeChar ++ '"' :: rest) = .ok (s, rest))
    (hmember : ∀ m ∈ members, ∀ state rest, EndsNumber rest →
      member state m.1 (':' :: (m.2.print ++ rest)) = (step state m).map (·, rest))
    (state : σ) (rest : List Char) :
    readObject fault name member state (printMembers members ++ '\x7d' :: rest) =
      (members.foldlM step state).map (·, rest) := by
  rw [printMembers_eq_separated]
  exact readObject_separated fault (fun m _ => hname m.1) hmember state rest

/-! ## Values -/

theorem Starts.readColon {text : List Char} (h : Starts text) (rest : List Char) :
    readColon (':' :: (text ++ rest)) = .ok (text ++ rest) := by
  have hstart := (h.append rest).skipBlanks
  simp [Json.readColon, skipBlanks_cons (show isBlank ':' = false by decide), hstart]

theorem readScalar_of_number {c : Char} (h : StartsNumber c) {s rest : List Char} {n : JsonNumber}
    (hread : readNumber (c :: s) = .ok (n, rest)) :
    readScalar (c :: s) = .ok (.number n, rest) := by
  have hstart : c = '-' ∨ c.isDigit = true := h
  simp [readScalar, h.ne (show 'n'.isDigit = false from rfl) (by decide),
    h.ne (show 't'.isDigit = false from rfl) (by decide),
    h.ne (show 'f'.isDigit = false from rfl) (by decide),
    h.ne (show '"'.isDigit = false from rfl) (by decide), hstart, hread]

theorem readValue_of_number {c : Char} (h : StartsNumber c) (depth : Nat) (s : List Char) :
    readValue depth (c :: s) = readScalar (c :: s) := by
  have hbracket := h.ne (show '['.isDigit = false from rfl) (by decide)
  have hbrace := h.ne (show '\x7b'.isDigit = false from rfl) (by decide)
  cases depth <;> simp [readValue, hbracket, hbrace]

theorem foldlM_append (form : β → α) (before : List α) (members : List β) :
    members.foldlM (fun before m => (.ok (before ++ [form m]) : Except ε _)) before =
      .ok (before ++ members.map form) := by
  induction members generalizing before with
  | nil => simp [pure, Except.pure]
  | cons m members ih =>
    have hnext := ih (before ++ [form m])
    rw [List.append_assoc, List.singleton_append] at hnext
    rw [List.foldlM_cons, ok_bind, hnext, List.map_cons]

/-- The text of a value is read as the value, if those of its numbers are. -/
theorem Readable.readValue_print {depth : Nat} {v : Json} (h : Readable depth v)
    {rest : List Char} (hrest : EndsNumber rest) :
    readValue depth (v.print ++ rest) = .ok (v, rest) := by
  induction h generalizing rest with
  | @null depth => cases depth <;> rfl
  | @boolean depth b => cases depth <;> cases b <;> rfl
  | @number depth n hn =>
    obtain ⟨c, t, hprint, hc⟩ := hn.eq_cons
    have hread := hn rest hrest
    rw [hprint, List.cons_append] at hread
    rw [print, hprint, List.cons_append, readValue_of_number hc]
    exact readScalar_of_number hc hread
  | @text depth s =>
    have hs := readString_escaped s rest
    cases depth <;> simp [print, printString, readValue, readScalar, hs]
  | @array depth items hitems ih =>
    have hread : readArray id (readValue depth) (printItems (items.map id) ++ ']' :: rest) =
        .ok (items, rest) :=
      readArray_printItems id (fun v hv => (hitems v hv).starts)
        (fun v hv rest hrest => ih v hv hrest) rest
    rw [List.map_id] at hread
    simp [print, readValue, hread]
  | @object depth members hmembers ih =>
    have hmember : ∀ m ∈ members, ∀ before rest, EndsNumber rest →
        readMember (readValue depth) before m.1 (':' :: (m.2.print ++ rest)) =
          (Except.ok (before ++ [m])).map (·, rest) := by
      intro m hm before rest hrest
      rw [readMember, (hmembers m hm).starts.readColon, ok_bind, ih m hm hrest]
      rfl
    have hread := readObject_printMembers id readString_escaped hmember [] rest
    have hall : members.foldlM (fun before m => (.ok (before ++ [m]) : Except Fault _)) [] =
        .ok members := by
      simpa using foldlM_append id [] members
    rw [hall] at hread
    simp [print, readValue, hread, Except.map]

/-- The text of a value without rounded numbers is read as the value. -/
theorem readValue_print {depth : Nat} {v : Json} (h : Exact depth v) {rest : List Char}
    (hrest : EndsNumber rest) : readValue depth (v.print ++ rest) = .ok (v, rest) :=
  h.readable.readValue_print hrest

end Json
end WikiMarkup
