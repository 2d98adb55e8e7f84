-- SUMMARY: The reference of a link is that of its parts only, and the written link that of one label, one reference and one list of parameters, though the label may hold anything.
import WikiMarkup.Proofs.ReadableForms

/-!
# Written links are told apart

A reference is read from the left: each of its parts ends at the first mark of a part that can
follow. A written link is read from the right. Behind its label there is no closing angle, so the
last one ends the mark of the label, and a link without any has no label. What is behind it is the
reference up to the first bar, and the parameters. The label is what is left before its mark.
-/

namespace WikiMarkup

/-- Texts that are gone through from the end while `goesOn` holds, and stop there, split in one
way. -/
theorem append_inj_of_stop_back {goesOn : Char → Prop} {cs cs' before before' : List Char}
    (hcs : ∀ c ∈ cs, goesOn c) (hcs' : ∀ c ∈ cs', goesOn c)
    (hbefore : ∀ c ∈ before.getLast?, ¬ goesOn c) (hbefore' : ∀ c ∈ before'.getLast?, ¬ goesOn c)
    (h : before ++ cs = before' ++ cs') : before = before' ∧ cs = cs' := by
  have hback : cs.reverse ++ before.reverse = cs'.reverse ++ before'.reverse := by
    rw [← List.reverse_append, h, List.reverse_append]
  have hcsBack : ∀ c ∈ cs.reverse, goesOn c := by simpa using hcs
  have hcsBack' : ∀ c ∈ cs'.reverse, goesOn c := by simpa using hcs'
  obtain ⟨hsame, hrest⟩ := append_inj_of_stop hcsBack hcsBack' (by simpa using hbefore)
    (by simpa using hbefore') hback
  exact ⟨List.reverse_inj.mp hrest, List.reverse_inj.mp hsame⟩

namespace Link

/-! ## References -/

/-- No part of the reference holds the mark of one that can follow it. -/
structure Legible (l : Link) : Prop where
  target : ∀ c ∈ l.target.toList, c ∉ ['?', '#', '@']
  query : ∀ text ∈ l.queryString, ∀ c ∈ text.toList, c ∉ ['#', '@']
  anchor : ∀ text ∈ l.anchor, ∀ c ∈ text.toList, c ∉ ['@']

/-- The links have the same target, query, anchor and alias, where a part that is not given and an
empty one differ. -/
structure SameParts (l l' : Link) : Prop where
  target : l.target = l'.target
  query : l.queryString = l'.queryString
  anchor : l.anchor = l'.anchor
  wiki : l.interwikiAlias = l'.interwikiAlias

/-- An optional part behind its mark. -/
def partChars (mark : Char) : Option String → List Char
  | some text => mark :: text.toList
  | none => []

theorem toList_reference (l : Link) :
    l.reference.toList = l.target.toList ++ (partChars '?' l.queryString ++
      (partChars '#' l.anchor ++ (partChars '@' l.interwikiAlias ++ []))) := by
  have hpart : ∀ (mark : Char) (part : Option String),
      (referencePart (String.singleton mark) part).toList = partChars mark part := by
    intro mark part
    cases part <;> simp [referencePart, partChars]
  have hquery := hpart '?' l.queryString
  have hanchor := hpart '#' l.anchor
  have halias := hpart '@' l.interwikiAlias
  simp only [reference, String.toList_append, List.append_assoc, List.append_nil]
  rw [← hquery, ← hanchor, ← halias]
  rfl

/-- What begins with an optional part begins with its mark or as what follows it. -/
theorem head_partChars (mark : Char) {stops rest : List Char} (part : Option String)
    (h : ∀ c ∈ rest.head?, c ∈ stops) :
    ∀ c ∈ (partChars mark part ++ rest).head?, c ∈ mark :: stops := by
  intro c hc
  cases part with
  | some text =>
    obtain rfl : mark = c := Option.some.inj hc
    exact List.mem_cons_self
  | none => exact List.mem_cons_of_mem _ (h c hc)

/-- An optional part is split off in one way from what stops it. -/
theorem partChars_append_inj {mark : Char} {stops rest rest' : List Char}
    {part part' : Option String} (hmark : mark ∉ stops)
    (hpart : ∀ text ∈ part, ∀ c ∈ text.toList, c ∉ stops)
    (hpart' : ∀ text ∈ part', ∀ c ∈ text.toList, c ∉ stops)
    (hrest : ∀ c ∈ rest.head?, c ∈ stops) (hrest' : ∀ c ∈ rest'.head?, c ∈ stops)
    (h : partChars mark part ++ rest = partChars mark part' ++ rest') :
    part = part' ∧ rest = rest' := by
  cases part with
  | none =>
    cases part' with
    | none => exact ⟨rfl, h⟩
    | some text' =>
      obtain rfl : rest = mark :: (text'.toList ++ rest') := h
      exact absurd (hrest mark rfl) hmark
  | some text =>
    cases part' with
    | none =>
      obtain rfl : mark :: (text.toList ++ rest) = rest' := h
      exact absurd (hrest' mark rfl) hmark
    | some text' =>
      obtain ⟨htext, hsame⟩ := append_inj_of_stop (hpart text rfl) (hpart' text' rfl)
        (fun c hc hgoesOn => hgoesOn (hrest c hc)) (fun c hc hgoesOn => hgoesOn (hrest' c hc))
        (List.cons.inj h).2
      exact ⟨congrArg some (String.toList_injective htext), hsame⟩

variable {l l' : Link}

theorem SameParts.reference (h : l.SameParts l') : l.reference = l'.reference := by
  rw [Link.reference, Link.reference, h.target, h.query, h.anchor, h.wiki]

/-- A reference tells its parts. -/
theorem reference_eq_iff (h : l.Legible) (h' : l'.Legible) :
    l.reference = l'.reference ↔ l.SameParts l' := by
  constructor
  · intro heq
    have hlist := congrArg String.toList heq
    rw [toList_reference, toList_reference] at hlist
    -- What may follow each part, from the last one on.
    have hend : ∀ c ∈ ([] : List Char).head?, c ∈ ([] : List Char) := nofun
    have halias := fun l : Link => head_partChars '@' l.interwikiAlias hend
    have hanchor := fun l : Link => head_partChars '#' l.anchor (halias l)
    have hquery := fun l : Link => head_partChars '?' l.queryString (hanchor l)
    obtain ⟨htarget, hlist⟩ := append_inj_of_stop h.target h'.target
      (fun c hc hgoesOn => hgoesOn (hquery l c hc)) (fun c hc hgoesOn => hgoesOn (hquery l' c hc))
      hlist
    obtain ⟨hquery, hlist⟩ :=
      partChars_append_inj (by decide) h.query h'.query (hanchor l) (hanchor l') hlist
    obtain ⟨hanchor, hlist⟩ :=
      partChars_append_inj (by decide) h.anchor h'.anchor (halias l) (halias l') hlist
    obtain ⟨halias, -⟩ :=
      partChars_append_inj List.not_mem_nil (by simp) (by simp) hend hend hlist
    exact ⟨String.toList_injective htarget, hquery, hanchor, halias⟩
  · exact SameParts.reference

/-! ## What stands behind the label -/

/-- The reference holds no closing angle and no bar, and the parameters are legible and hold no
closing angle. -/
structure LegibleBehind (l : Link) (p : Parameters) : Prop where
  reference : ∀ c ∈ l.reference.toList, c ∉ ['>', '|']
  parameters : p.Legible
  entries : ∀ entry ∈ p.entries, '>' ∉ entry.1.toList ∧ '>' ∉ entry.2.toList

/-- The parameters behind their bars. -/
def barred (p : Parameters) : List Char := if p.isEmpty then [] else '|' :: '|' :: p.pairs.toList

theorem toList_closing (l : Link) (p : Parameters) :
    (l.closing false p).toList = l.reference.toList ++ barred p ++ [']', ']'] := by
  rw [closing, barred]
  cases p.isEmpty <;> simp

variable {p q : Parameters}

theorem barred_inj (hp : p.Legible) (hq : q.Legible) (h : barred p = barred q) :
    p.entries = q.entries := by
  rw [barred, barred] at h
  cases hpempty : p.isEmpty with
  | true =>
    cases hqempty : q.isEmpty with
    | true =>
      rw [Parameters.entries_eq_nil_of_isEmpty hpempty,
        Parameters.entries_eq_nil_of_isEmpty hqempty]
    | false =>
      rw [hpempty, hqempty] at h
      cases h
  | false =>
    cases hqempty : q.isEmpty with
    | true =>
      rw [hpempty, hqempty] at h
      cases h
    | false =>
      rw [hpempty, hqempty] at h
      have hpairs := (List.cons.inj (List.cons.inj h).2).2
      exact (Parameters.pairs_eq_iff hp hq).mp (String.toList_injective hpairs)

/-- What stands behind the label tells the reference and the entries in their order. -/
theorem closing_eq_iff (h : l.LegibleBehind p) (h' : l'.LegibleBehind q) :
    l.closing false p = l'.closing false q ↔
      l.reference = l'.reference ∧ p.entries = q.entries := by
  constructor
  · intro heq
    have hlist := congrArg String.toList heq
    rw [toList_closing, toList_closing] at hlist
    have hgoesOn : ∀ {l : Link} {p : Parameters}, l.LegibleBehind p →
        ∀ c ∈ l.reference.toList, c ≠ '|' := by
      rintro l p h c hc rfl
      exact h.reference _ hc (by decide)
    have hstop : ∀ p : Parameters, ∀ c ∈ (barred p).head?, ¬ c ≠ '|' := by
      intro p c hc hne
      rw [barred] at hc
      split at hc
      · cases hc
      · exact hne (Option.some.inj hc).symm
    obtain ⟨hreference, hbarred⟩ := append_inj_of_stop (hgoesOn h) (hgoesOn h') (hstop p) (hstop q)
      (List.append_cancel_right hlist)
    exact ⟨String.toList_injective hreference, barred_inj h.parameters h'.parameters hbarred⟩
  · rintro ⟨hreference, hentries⟩
    rw [closing, closing, hreference, Parameters.ext_entries hentries]

/-- Behind the label there is no closing angle. -/
theorem ne_angle_of_mem_closing (h : l.LegibleBehind p) :
    ∀ c ∈ (l.closing false p).toList, c ≠ '>' := by
  rintro c hc rfl
  rw [toList_closing, List.mem_append, List.mem_append] at hc
  rcases hc with (hreference | hbarred) | hbrackets
  · exact h.reference _ hreference (by decide)
  · have hspaced : '>' ∈ Parameters.spaced p.entries := by
      rw [Parameters.spaced_eq]
      rw [barred] at hbarred
      split at hbarred
      · cases hbarred
      · next hempty => simpa [hempty] using hbarred
    obtain ⟨entry, hentry, hmem⟩ := List.mem_flatMap.mp hspaced
    rw [Parameters.toList_pair] at hmem
    have hlegible := h.entries entry hentry
    simp [hlegible.1, hlegible.2] at hmem
  · simp at hbrackets

/-! ## Labels -/

/-- Whether a label is left out: it is empty, or it says what the reference says. -/
def Omits (l : Link) (label : String) : Prop := label = "" ∨ label = l.reference

instance (l : Link) (label : String) : Decidable (l.Omits label) :=
  inferInstanceAs (Decidable (_ ∨ _))

theorem toList_labelled (l : Link) (label : String) :
    (l.labelled false label).toList = if l.Omits label then [] else label.toList ++ ['>', '>'] := by
  have homits : (label.isEmpty || decide (label = l.reference)) = decide (l.Omits label) := by
    rw [Bool.eq_iff_iff, decide_eq_true_iff]
    simp [Omits]
  rw [labelled, Bool.false_or, homits]
  by_cases h : l.Omits label <;> simp [h]

/-- With its mark a label is what it is, unless it is left out. -/
theorem labelled_eq_iff (h : l.reference = l'.reference) (label label' : String) :
    l.labelled false label = l'.labelled false label' ↔
      label = label' ∨ l.Omits label ∧ l'.Omits label' := by
  have hlabelled : l'.labelled false label' = l.labelled false label' := by
    rw [labelled, labelled, h]
  have homits : l'.Omits label' ↔ l.Omits label' := by rw [Omits, Omits, h]
  rw [hlabelled, homits, ← String.toList_inj, toList_labelled, toList_labelled]
  by_cases hlabel : l.Omits label
  · by_cases hlabel' : l.Omits label'
    · simp [hlabel, hlabel']
    · have hne : label ≠ label' := fun heq => hlabel' (heq ▸ hlabel)
      simp [hlabel, hlabel', hne]
  · by_cases hlabel' : l.Omits label'
    · have hne : label ≠ label' := fun heq => hlabel (heq ▸ hlabel')
      simp [hlabel, hlabel', hne]
    · simp [hlabel, hlabel', String.toList_inj]

/-- A label that is not left out ends with its mark. -/
theorem getLast_labelled (l : Link) (label : String) :
    ∀ c ∈ (l.labelled false label).toList.getLast?, ¬ c ≠ '>' := by
  intro c hc hne
  rw [toList_labelled] at hc
  split at hc
  · cases hc
  · rw [List.append_cons, List.getLast?_concat] at hc
    exact hne (Option.some.inj hc).symm

/-! ## Written links -/

/-- If no part of a reference holds the mark of one that can follow it, two references are the same
only if all their parts are, with parts that are not given told from empty ones. If moreover the
references hold no closing angle and no bar, and the parameters no closing angle, no equals sign in
a name and no quote in a text, two links with any labels are written alike exactly if they have the
same parts, the same entries in the same order and the same label, where all labels that are left
out count as the same. -/
theorem written_link_eq_iff (h : l.Legible) (h' : l'.Legible) :
    (l.reference = l'.reference ↔ l.SameParts l') ∧
    ∀ p q : Parameters, l.LegibleBehind p → l'.LegibleBehind q → ∀ label label' : String,
      (l.opening false ++ l.labelled false label ++ l.closing false p =
          l'.opening false ++ l'.labelled false label' ++ l'.closing false q ↔
        l.SameParts l' ∧ p.entries = q.entries ∧
          (label = label' ∨ l.Omits label ∧ l'.Omits label')) := by
  refine ⟨reference_eq_iff h h', ?_⟩
  intro p q hp hq label label'
  rw [← reference_eq_iff h h']
  constructor
  · intro heq
    have hlist := congrArg String.toList heq
    simp only [opening, Bool.false_eq_true, if_false, String.toList_append, List.append_assoc]
      at hlist
    have hbehind := List.append_cancel_left hlist
    obtain ⟨hlabelled, hclosing⟩ := append_inj_of_stop_back (ne_angle_of_mem_closing hp)
      (ne_angle_of_mem_closing hq) (getLast_labelled l label) (getLast_labelled l' label') hbehind
    obtain ⟨hreference, hentries⟩ := (closing_eq_iff hp hq).mp (String.toList_injective hclosing)
    exact ⟨hreference, hentries,
      (labelled_eq_iff hreference label label').mp (String.toList_injective hlabelled)⟩
  · rintro ⟨hreference, hentries, hlabel⟩
    rw [(labelled_eq_iff hreference label label').mpr hlabel,
      (closing_eq_iff hp hq).mpr ⟨hreference, hentries⟩]
    rfl

/-- An empty query is told from an empty anchor, and a label that imitates the end of a link from
one that goes on with an angle. A label that says what the reference says is not told from none. -/
theorem written_link_eq_iff_imitating :
    let l : Link := ⟨"A.B", .document, none, some "", some "x?#@"⟩
    let l' : Link := ⟨"A.B", .document, some "", none, some "x?#@"⟩
    let p : Parameters := .ofList [("a|", "]]||"), ("b", "")]
    l.Legible ∧ l'.Legible ∧ l.LegibleBehind p ∧ l'.LegibleBehind p ∧ l.reference ≠ l'.reference ∧
      l.opening false ++ l.labelled false "x>>y||b=\"\"]]" ++ l.closing false p ≠
        l.opening false ++ l.labelled false "x>>y||b=\"\"]]>" ++ l.closing false p ∧
      l.opening false ++ l.labelled false "" ++ l.closing false p =
        l.opening false ++ l.labelled false l.reference ++ l.closing false p := by
  intro l l' p
  have hl : l.Legible := ⟨by simp [l], by simp [l], by simp [l]⟩
  have hl' : l'.Legible := ⟨by simp [l'], by simp [l'], by simp [l']⟩
  have hentries : p.entries = [("a|", "]]||"), ("b", "")] := by decide
  have hreference : l.reference = "A.B?@x?#@" := by decide
  have hreference' : l'.reference = "A.B#@x?#@" := by decide
  have hp : l.LegibleBehind p := ⟨by simp [hreference], by decide, by simp [hentries]⟩
  have hp' : l'.LegibleBehind p := ⟨by simp [hreference'], by decide, by simp [hentries]⟩
  obtain ⟨hsame, -⟩ := written_link_eq_iff hl hl'
  obtain ⟨-, hwritten⟩ := written_link_eq_iff hl hl
  refine ⟨hl, hl', hp, hp', ?_, ?_, ?_⟩
  · intro heq
    cases (hsame.mp heq).query
  · intro heq
    exact absurd ((hwritten p p hp hp _ _).mp heq).2.2 (by decide)
  · exact (hwritten p p hp hp _ _).mpr ⟨⟨rfl, rfl, rfl, rfl⟩, rfl, .inr ⟨.inl rfl, .inr rfl⟩⟩

end Link

end WikiMarkup
