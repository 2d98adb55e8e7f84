-- SUMMARY: The written forms of parameters and macro calls are each that of one value only, though nothing in them is escaped.
import WikiMarkup.Syntax.Forms

/-!
# Written forms are told apart

A written pair ends its name at the first equals sign and its text at the second quote, so it can be
split off if the name holds no equals sign and the text no quote. Whether another pair follows shows
in what comes next: every further pair has an equals sign behind its space, and what ends a list of
pairs has none there. The name of a macro call ends at the first space, slash or closing brace.
The content is all that is left between two texts of known length, so it may hold anything.
-/

namespace WikiMarkup

/-! ## Splitting at the first sign -/

/-- Texts that are gone through while `goesOn` holds, and stop there, split in one way. -/
theorem append_inj_of_stop {goesOn : Char → Prop} {cs cs' rest rest' : List Char}
    (hcs : ∀ c ∈ cs, goesOn c) (hcs' : ∀ c ∈ cs', goesOn c)
    (hrest : ∀ c ∈ rest.head?, ¬ goesOn c) (hrest' : ∀ c ∈ rest'.head?, ¬ goesOn c)
    (h : cs ++ rest = cs' ++ rest') : cs = cs' ∧ rest = rest' := by
  induction cs generalizing cs' with
  | nil =>
    cases cs' with
    | nil => exact ⟨rfl, h⟩
    | cons c' cs' =>
      rw [List.nil_append] at h
      exact absurd (hcs' c' List.mem_cons_self) (hrest c' (by rw [h]; rfl))
  | cons c cs ih =>
    cases cs' with
    | nil =>
      rw [List.nil_append] at h
      exact absurd (hcs c List.mem_cons_self) (hrest' c (by rw [← h]; rfl))
    | cons c' cs' =>
      obtain ⟨rfl, htail⟩ := List.cons.inj h
      obtain ⟨rfl, hsame⟩ := ih (fun d hd => hcs d (List.mem_cons_of_mem _ hd))
        (fun d hd => hcs' d (List.mem_cons_of_mem _ hd)) htail
      exact ⟨rfl, hsame⟩

/-- Texts split in one way at the first of a sign. -/
theorem append_cons_inj {sign : Char} {cs cs' rest rest' : List Char} (hcs : sign ∉ cs)
    (hcs' : sign ∉ cs') (h : cs ++ sign :: rest = cs' ++ sign :: rest') :
    cs = cs' ∧ rest = rest' := by
  have hgoesOn : ∀ cs : List Char, sign ∉ cs → ∀ c ∈ cs, c ≠ sign := by
    rintro cs hsign c hc rfl
    exact hsign hc
  have hstop : ∀ s : List Char, ∀ c ∈ (sign :: s).head?, ¬ c ≠ sign := by
    rintro s c ⟨⟩ hne
    exact hne rfl
  obtain ⟨hsame, htail⟩ :=
    append_inj_of_stop (hgoesOn cs hcs) (hgoesOn cs' hcs') (hstop rest) (hstop rest') h
  exact ⟨hsame, (List.cons.inj htail).2⟩

namespace Parameters

/-! ## Pairs -/

/-- The name holds no equals sign and the text no quote. -/
structure LegibleEntry (entry : String × String) : Prop where
  name : '=' ∉ entry.1.toList
  text : '"' ∉ entry.2.toList

instance (entry : String × String) : Decidable (LegibleEntry entry) :=
  decidable_of_iff ('=' ∉ entry.1.toList ∧ '"' ∉ entry.2.toList)
    ⟨fun h => ⟨h.1, h.2⟩, fun h => ⟨h.name, h.text⟩⟩

/-- No name holds an equals sign, and no text a quote. -/
def Legible (p : Parameters) : Prop := ∀ entry ∈ p.entries, LegibleEntry entry

instance (p : Parameters) : Decidable p.Legible :=
  inferInstanceAs (Decidable (∀ entry ∈ p.entries, LegibleEntry entry))

theorem toList_pair (entry : String × String) :
    (pair entry).toList = entry.1.toList ++ '=' :: '"' :: (entry.2.toList ++ ['"']) := by
  simp [pair]

/-- A pair is split off in one way from what it stands before. -/
theorem pair_append_inj {entry entry' : String × String} (h : LegibleEntry entry)
    (h' : LegibleEntry entry') {rest rest' : List Char}
    (heq : (pair entry).toList ++ rest = (pair entry').toList ++ rest') :
    entry = entry' ∧ rest = rest' := by
  have hshape : ∀ (entry : String × String) (rest : List Char), (pair entry).toList ++ rest =
      entry.1.toList ++ '=' :: '"' :: (entry.2.toList ++ '"' :: rest) := by
    intro entry rest
    rw [toList_pair]
    simp
  rw [hshape, hshape] at heq
  obtain ⟨hname, hquoted⟩ := append_cons_inj h.name h'.name heq
  obtain ⟨htext, hrest⟩ := append_cons_inj h.text h'.text (List.cons.inj hquoted).2
  exact ⟨Prod.ext (String.toList_injective hname) (String.toList_injective htext), hrest⟩

/-! ## Lists of pairs -/

/-- Pairs with a space before each. -/
def spaced (entries : List (String × String)) : List Char :=
  entries.flatMap fun entry => ' ' :: (pair entry).toList

/-- Behind a space there is no further pair. -/
def EndsPairs (s : List Char) : Prop := ∀ rest, s = ' ' :: rest → '=' ∉ rest

theorem spaced_cons_append (entry : String × String) (entries : List (String × String))
    (rest : List Char) :
    spaced (entry :: entries) ++ rest =
      ' ' :: ((pair entry).toList ++ (spaced entries ++ rest)) := by
  simp [spaced]

theorem not_endsPairs_spaced (entry : String × String) (entries : List (String × String))
    (rest : List Char) : ¬ EndsPairs (spaced (entry :: entries) ++ rest) := by
  intro hends
  refine hends _ (spaced_cons_append entry entries rest) (List.mem_append_left _ ?_)
  rw [toList_pair]
  exact List.mem_append_right _ List.mem_cons_self

/-- Pairs are split off in one way from what ends them. -/
theorem spaced_append_inj {entries entries' : List (String × String)}
    (h : ∀ entry ∈ entries, LegibleEntry entry) (h' : ∀ entry ∈ entries', LegibleEntry entry)
    {rest rest' : List Char} (hrest : EndsPairs rest) (hrest' : EndsPairs rest')
    (heq : spaced entries ++ rest = spaced entries' ++ rest') :
    entries = entries' ∧ rest = rest' := by
  induction entries generalizing entries' with
  | nil =>
    cases entries' with
    | nil => exact ⟨rfl, heq⟩
    | cons entry' entries' =>
      obtain rfl : rest = spaced (entry' :: entries') ++ rest' := heq
      exact absurd hrest (not_endsPairs_spaced entry' entries' rest')
  | cons entry entries ih =>
    cases entries' with
    | nil =>
      obtain rfl : spaced (entry :: entries) ++ rest = rest' := heq
      exact absurd hrest' (not_endsPairs_spaced entry entries rest)
    | cons entry' entries' =>
      rw [spaced_cons_append, spaced_cons_append] at heq
      obtain ⟨rfl, hbehind⟩ := pair_append_inj (h _ List.mem_cons_self) (h' _ List.mem_cons_self)
        (List.cons.inj heq).2
      obtain ⟨rfl, hsame⟩ := ih (fun e he => h e (List.mem_cons_of_mem _ he))
        (fun e he => h' e (List.mem_cons_of_mem _ he)) hbehind
      exact ⟨rfl, hsame⟩

/-! ## Blocks and pairs of parameters -/

variable {p q : Parameters}

theorem ext_entries (h : p.entries = q.entries) : p = q := by
  cases p
  cases q
  cases h
  rfl

theorem entries_eq_nil_of_isEmpty (h : p.isEmpty = true) : p.entries = [] := List.isEmpty_iff.mp h

/-- The pairs with a space before them, if there are any. -/
theorem spaced_eq (p : Parameters) :
    spaced p.entries = if p.isEmpty then [] else ' ' :: p.pairs.toList := by
  have hspaced : ∀ (entry : String × String) (entries : List (String × String)),
      spaced (entry :: entries) =
        ' ' :: (" ".intercalate ((entry :: entries).map pair)).toList := by
    intro entry entries
    induction entries generalizing entry with
    | nil => simp [spaced]
    | cons next entries ih =>
      have hnext := ih next
      rw [spaced, List.flatMap_cons, ← spaced, hnext]
      simp [String.toList_intercalate]
  cases hentries : p.entries with
  | nil => simp [isEmpty, hentries, spaced]
  | cons entry entries =>
    rw [hspaced]
    simp [isEmpty, hentries, pairs]

/-- What ends a block. -/
def blockEnd (newline : Bool) : List Char := " %)".toList ++ if newline then ['\n'] else []

theorem toList_block (p : Parameters) (newline : Bool) :
    (p.block newline).toList =
      if p.isEmpty then [] else "(%".toList ++ (spaced p.entries ++ blockEnd newline) := by
  rw [block]
  cases p.isEmpty with
  | true => rfl
  | false =>
    cases newline <;>
      simp [String.toList_join, List.flatMap_map, spaced, blockEnd]

theorem endsPairs_blockEnd (newline : Bool) : EndsPairs (blockEnd newline) := by
  rintro rest hrest
  have htail : rest = (blockEnd newline).tail := by rw [hrest, List.tail_cons]
  rw [htail]
  cases newline <;> decide

theorem blockEnd_inj {newline newline' : Bool} (h : blockEnd newline = blockEnd newline') :
    newline = newline' := by
  revert newline newline'
  decide

/-- A block tells the entries in their order, and if there are any whether it has a line of its
own. -/
theorem block_eq_iff (hp : p.Legible) (hq : q.Legible) (newline newline' : Bool) :
    p.block newline = q.block newline' ↔
      p.entries = q.entries ∧ (p.isEmpty = false → newline = newline') := by
  constructor
  · intro h
    have hlist := congrArg String.toList h
    rw [toList_block, toList_block] at hlist
    cases hpempty : p.isEmpty with
    | true =>
      cases hqempty : q.isEmpty with
      | true =>
        rw [entries_eq_nil_of_isEmpty hpempty, entries_eq_nil_of_isEmpty hqempty]
        exact ⟨rfl, nofun⟩
      | false =>
        rw [hpempty, hqempty] at hlist
        cases hlist
    | false =>
      cases hqempty : q.isEmpty with
      | true =>
        rw [hpempty, hqempty] at hlist
        cases hlist
      | false =>
        rw [hpempty, hqempty] at hlist
        obtain ⟨hentries, hend⟩ := spaced_append_inj hp hq (endsPairs_blockEnd newline)
          (endsPairs_blockEnd newline') (List.append_cancel_left hlist)
        exact ⟨hentries, fun _ => blockEnd_inj hend⟩
  · rintro ⟨hentries, hnewline⟩
    obtain rfl := ext_entries hentries
    cases hempty : p.isEmpty with
    | true => simp [block, hempty]
    | false => rw [hnewline hempty]

/-- The pairs tell the entries in their order. -/
theorem pairs_eq_iff (hp : p.Legible) (hq : q.Legible) :
    p.pairs = q.pairs ↔ p.entries = q.entries := by
  constructor
  · intro h
    have hends : EndsPairs [] := nofun
    have hnonempty : ∀ r : Parameters, r.isEmpty = false → r.pairs ≠ "" := by
      intro r hr hpairs
      have hspaced := spaced_eq r
      rw [hr, hpairs] at hspaced
      cases hentries : r.entries with
      | nil => simp [isEmpty, hentries] at hr
      | cons entry entries =>
        rw [hentries, ← List.append_nil (spaced _), spaced_cons_append, toList_pair] at hspaced
        simp at hspaced
    have hempty : ∀ r : Parameters, r.isEmpty = true → r.pairs = "" := by
      intro r hr
      rw [pairs, entries_eq_nil_of_isEmpty hr]
      rfl
    have hspaced : spaced p.entries ++ [] = spaced q.entries ++ [] := by
      rw [List.append_nil, List.append_nil, spaced_eq, spaced_eq, h]
      cases hpempty : p.isEmpty with
      | true =>
        cases hqempty : q.isEmpty with
        | true => rfl
        | false => exact absurd (h.symm.trans (hempty p hpempty)) (hnonempty q hqempty)
      | false =>
        cases hqempty : q.isEmpty with
        | true => exact absurd (h.trans (hempty q hqempty)) (hnonempty p hpempty)
        | false => rfl
    exact (spaced_append_inj hp hq hends hends hspaced).1
  · intro h
    rw [ext_entries h]

end Parameters

/-! ## Macro calls -/

namespace MacroCall

open Parameters

/-- The characters that end the name of a macro call. -/
def nameEnds : List Char := [' ', '\x7d', '/']

/-- The name holds none of the characters that end one, and the parameters are legible. -/
structure Legible (call : MacroCall) : Prop where
  name : ∀ c ∈ call.name.toList, c ∉ nameEnds
  parameters : call.parameters.Legible

-- Only the characters of the name are tried, not all there are.
instance (call : MacroCall) : Decidable call.Legible :=
  haveI : Decidable (∀ c ∈ call.name.toList, c ∉ nameEnds) := List.decidableBAll _ _
  decidable_of_iff ((∀ c ∈ call.name.toList, c ∉ nameEnds) ∧ call.parameters.Legible)
    ⟨fun h => ⟨h.1, h.2⟩, fun h => ⟨h.name, h.parameters⟩⟩

/-- What stands behind the parameters of a call. -/
def closing (name : String) : Option String → List Char
  | some content =>
    '\x7d' :: '\x7d' :: (content.toList ++ ("\x7b\x7b/" ++ name ++ "\x7d\x7d").toList)
  | none => ['/', '\x7d', '\x7d']

theorem toList_written (call : MacroCall) :
    call.written.toList = "\x7b\x7b".toList ++
      (call.name.toList ++ (spaced call.parameters.entries ++ closing call.name call.content)) := by
  rw [written, spaced_eq]
  cases call.parameters.isEmpty <;> cases call.content <;> simp [closing]

theorem endsPairs_closing (name : String) (content : Option String) :
    EndsPairs (closing name content) := by
  intro rest hrest
  cases content with
  | none => cases hrest
  | some content => cases hrest

/-- Behind the name comes a character that ends it. -/
theorem head_mem_nameEnds (name : String) (entries : List (String × String))
    (content : Option String) :
    ∀ c ∈ (spaced entries ++ closing name content).head?, ¬ c ∉ nameEnds := by
  intro c hc
  cases entries with
  | nil =>
    cases content with
    | none =>
      obtain rfl : '/' = c := Option.some.inj hc
      decide
    | some content =>
      obtain rfl : '\x7d' = c := Option.some.inj hc
      decide
  | cons entry entries =>
    rw [spaced_cons_append] at hc
    obtain rfl : ' ' = c := Option.some.inj hc
    decide

/-- What follows the parameters tells the content, and none from empty content. -/
theorem closing_inj {name : String} {content content' : Option String}
    (h : closing name content = closing name content') : content = content' := by
  cases content with
  | none =>
    cases content' with
    | none => rfl
    | some content' => simp [closing] at h
  | some content =>
    cases content' with
    | none => simp [closing] at h
    | some content' =>
      have hcontent := List.append_cancel_right (List.cons.inj (List.cons.inj h).2).2
      rw [String.toList_injective hcontent]

/-- A call is known by its written form. -/
theorem written_eq_iff {call call' : MacroCall} (h : call.Legible) (h' : call'.Legible) :
    call.written = call'.written ↔ call = call' := by
  constructor
  · intro heq
    have hlist := congrArg String.toList heq
    rw [toList_written, toList_written] at hlist
    obtain ⟨hname, hbehind⟩ := append_inj_of_stop h.name h'.name (head_mem_nameEnds _ _ _)
      (head_mem_nameEnds _ _ _) (List.append_cancel_left hlist)
    obtain ⟨hentries, hclosing⟩ := spaced_append_inj h.parameters h'.parameters
      (endsPairs_closing _ _) (endsPairs_closing _ _) hbehind
    obtain ⟨name, parameters, content⟩ := call
    obtain ⟨name', parameters', content'⟩ := call'
    obtain rfl : name = name' := String.toList_injective hname
    obtain rfl : parameters = parameters' := ext_entries hentries
    obtain rfl : content = content' := closing_inj hclosing
    rfl
  · rintro rfl
    rfl

end MacroCall

/-! ## Written forms -/

/-- If no name of a parameter holds an equals sign and no text a quote, blocks and pairs are written
alike only for the same entries in the same order. Calls of macros whose names hold no space, slash
or closing brace are written alike only if they have the same name, entries and content, whatever
the contents hold; no content and empty content are told apart. -/
theorem written_forms_eq_iff {p q : Parameters} (hp : p.Legible) (hq : q.Legible) :
    (∀ newline newline', p.block newline = q.block newline' ↔
      p.entries = q.entries ∧ (p.isEmpty = false → newline = newline')) ∧
    (p.pairs = q.pairs ↔ p.entries = q.entries) ∧
    ∀ name name' : String, (∀ c ∈ name.toList, c ∉ MacroCall.nameEnds) →
      (∀ c ∈ name'.toList, c ∉ MacroCall.nameEnds) → ∀ content content' : Option String,
        (MacroCall.mk name p content).written = (MacroCall.mk name' q content').written ↔
          name = name' ∧ p.entries = q.entries ∧ content = content' := by
  refine ⟨Parameters.block_eq_iff hp hq, Parameters.pairs_eq_iff hp hq, ?_⟩
  intro name name' hname hname' content content'
  rw [MacroCall.written_eq_iff ⟨hname, hp⟩ ⟨hname', hq⟩, MacroCall.mk.injEq]
  exact and_congr_right fun _ => and_congr_left fun _ =>
    ⟨congrArg Parameters.entries, Parameters.ext_entries⟩

/-- Names that hold quotes and what ends a block, values that hold what ends a call, and content that
holds its own closing tag are told apart, and so are two orders and empty content from none. -/
theorem written_forms_eq_iff_imitating :
    let p : Parameters := .ofList [("a %)\"", "\x7d\x7d %)"), (" b", "/\x7d\x7d c=")]
    let q : Parameters := .ofList [(" b", "/\x7d\x7d c="), ("a %)\"", "\x7d\x7d %)")]
    p.Legible ∧ q.Legible ∧ (p.block true ≠ q.block true ∧ p.block true ≠ p.block false) ∧
      p.pairs ≠ q.pairs ∧
      (MacroCall.mk "box" p (some "x\x7b\x7b/box\x7d\x7d")).written ≠
        (MacroCall.mk "box" p (some "x")).written ∧
      (MacroCall.mk "box" p (some "")).written ≠ (MacroCall.mk "box" p none).written := by
  intro p q
  have hp : p.Legible := by decide
  have hq : q.Legible := by decide
  have hname : ∀ c ∈ "box".toList, c ∉ MacroCall.nameEnds := by simp [MacroCall.nameEnds]
  obtain ⟨hblock, hpairs, -⟩ := written_forms_eq_iff hp hq
  obtain ⟨hsame, -, hcall⟩ := written_forms_eq_iff hp hp
  refine ⟨hp, hq, ⟨?_, ?_⟩, ?_, ?_, ?_⟩
  · exact fun h => absurd ((hblock true true).mp h).1 (by decide)
  · exact fun h => absurd (((hsame true false).mp h).2 (by decide)) (by decide)
  · exact fun h => absurd (hpairs.mp h) (by decide)
  · exact fun h => absurd ((hcall _ _ hname hname _ _).mp h).2.2 (by decide)
  · exact fun h => absurd ((hcall _ _ hname hname _ _).mp h).2.2 (by decide)

end WikiMarkup
