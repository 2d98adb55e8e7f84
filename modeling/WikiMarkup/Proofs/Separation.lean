-- SUMMARY: Which separator a list, definition list or quotation owes: a line end behind the begin of an item, a blank line behind everything else.
import WikiMarkup.Proofs.Frame

/-!
# Separators before containers

One pair of flags serves all levels of a family, and forgets about an open item as soon as a
container of the family begins inside it. In well-nested events the flags therefore say whether the
last event of the family was the begin of an item, and nothing else: a second container inside the
same item finds them down, and owes a blank line although its family is open.
-/

namespace WikiMarkup

/-! ## The last event of a family -/

/-- Whether an event begins or ends a level or an item of a family. -/
def Event.concerns (f : ItemFamily) : Event → Bool
  | .enter c | .leave c => c.concerns f
  | .content _ => false

namespace ItemFamily

/-- Whether the last event of the family begins an item. -/
def freshItem (f : ItemFamily) (past : List Event) : Bool :=
  match (past.filter (·.concerns f)).getLast? with
  | some (.enter c) => c.home? = some f
  | _ => false

/-- Whether a container of the family continues an item: one of its own family that has just begun,
or, for a definition list, a list item that has. -/
def continuesItem (f : ItemFamily) (past : List Event) : Bool :=
  f.freshItem past || f = .definition && list.freshItem past

variable (f : ItemFamily) (past : List Event)

theorem freshItem_other {e : Event} (h : e.concerns f = false) :
    f.freshItem (past ++ [e]) = f.freshItem past := by
  simp [freshItem, List.filter_append, h]

theorem freshItem_enter {c : Container} (h : (Event.enter c).concerns f = true) :
    f.freshItem (past ++ [.enter c]) = decide (c.home? = some f) := by
  simp [freshItem, List.filter_append, h]

theorem freshItem_leave {c : Container} (h : (Event.leave c).concerns f = true) :
    f.freshItem (past ++ [.leave c]) = false := by
  simp [freshItem, List.filter_append, h]

end ItemFamily

/-! ## The flags -/

namespace Items

@[simp] theorem isOpen_enterContainer (i : Items) : i.enterContainer.isOpen = false := by
  unfold enterContainer
  split
  · rfl
  · next h => simpa using h

@[simp] theorem isOpen_beginItem (i : Items) : i.beginItem.isOpen = true := rfl

@[simp] theorem isOpen_endItem (i : Items) : i.endItem.isOpen = false := Bool.and_false _

/-- The flags of a family after an event, where `last` says whether a level that ends is the last
one. -/
def after (f : ItemFamily) (last : Bool) (i : Items) : Event → Items
  | .enter c =>
    if c.family? = some f then i.enterContainer
    else if c.home? = some f then i.beginItem
    else i
  | .leave c =>
    if c.family? = some f then if last then initial else i
    else if c.home? = some f then i.endItem
    else i
  | .content _ => i

end Items

theorem Lists.after_items (l : Lists) (e : Event) :
    (l.after e).items = l.items.after .list (l.kinds.length ≤ 1) e := by
  cases e with
  | enter c => cases c <;> rfl
  | leave c =>
    cases c
    case list kind p =>
      rcases l with ⟨_ | ⟨kind, _ | ⟨outer, kinds⟩⟩, items⟩ <;> rfl
    all_goals rfl
  | content c => rfl

theorem Nested.after_items (f : ItemFamily) (n : Nested) (e : Event) :
    (n.after f e).items = n.items.after f (n.depth = 1) e := by
  cases e with
  | enter c =>
    simp only [after, Items.after]
    repeat' split
    all_goals rfl
  | leave c =>
    rcases n with ⟨_ | _ | depth, items⟩
    all_goals
      simp only [after, Items.after, leave]
      repeat' split
      all_goals first | rfl | contradiction
  | content c => rfl

/-- The flags of a family are up exactly behind the begin of an item, and then that item is the
innermost open container of the family. -/
structure Items.Tracks (f : ItemFamily) (past : List Event) (stack : List Container)
    (i : Items) : Prop where
  isOpen_eq : i.isOpen = f.freshItem past
  innermost : i.isOpen = true →
    ∃ c, stack.find? (Container.concerns f) = some c ∧ c.home? = some f

namespace Items.Tracks

variable {f : ItemFamily} {past : List Event} {stack stack' : List Container} {i : Items}

theorem initial (f : ItemFamily) : Items.initial.Tracks f [] [] where
  isOpen_eq := rfl
  innermost := nofun

/-- Parameters of the innermost container do not count. -/
theorem closes {c top : Container} (h : i.Tracks f past (top :: stack)) (hc : c.Closes top) :
    i.Tracks f past (c :: stack) := by
  refine ⟨h.isOpen_eq, fun hopen => ?_⟩
  obtain ⟨inner, hfind, hhome⟩ := h.innermost hopen
  rw [List.find?_cons, ← hc.concerns f] at hfind
  rw [List.find?_cons]
  split at hfind
  · cases hfind
    exact ⟨c, rfl, hc.home?.trans hhome⟩
  · exact ⟨inner, hfind, hhome⟩

/-- The end of a level finds the flags down: the level is innermost, and it is no item. -/
theorem isOpen_of_level {c : Container} (h : i.Tracks f past (c :: stack))
    (hc : c.family? = some f) : i.isOpen = false := by
  cases hopen : i.isOpen with
  | false => rfl
  | true =>
    obtain ⟨c', hfind, hhome⟩ := h.innermost hopen
    rw [List.find?_cons_of_pos (by simp [Container.concerns, hc])] at hfind
    cases hfind
    rw [Container.home?_eq_none_of_family? hc] at hhome
    cases hhome

theorem enter {c : Container} (h : i.Tracks f past stack) (last : Bool) :
    (i.after f last (.enter c)).Tracks f (past ++ [.enter c]) (c :: stack) := by
  by_cases hlevel : c.family? = some f
  · have hconcerns : c.concerns f = true := by simp [Container.concerns, hlevel]
    have hafter : i.after f last (.enter c) = i.enterContainer := if_pos hlevel
    rw [hafter]
    refine ⟨?_, by simp⟩
    rw [f.freshItem_enter past hconcerns, Container.home?_eq_none_of_family? hlevel]
    simp
  · by_cases hitem : c.home? = some f
    · have hconcerns : c.concerns f = true := by simp [Container.concerns, hitem]
      have hafter : i.after f last (.enter c) = i.beginItem := by
        simp [after, hlevel, hitem]
      rw [hafter]
      refine ⟨by simp [f.freshItem_enter past hconcerns, hitem], fun _ => ⟨c, ?_, hitem⟩⟩
      exact List.find?_cons_of_pos hconcerns
    · have hconcerns : c.concerns f = false := by simp [Container.concerns, hlevel, hitem]
      have hafter : i.after f last (.enter c) = i := by simp [after, hlevel, hitem]
      rw [hafter]
      have hfresh := f.freshItem_other past (e := .enter c) hconcerns
      refine ⟨by rw [hfresh, h.isOpen_eq], fun hopen => ?_⟩
      rw [List.find?_cons_of_neg (by simp [hconcerns])]
      exact h.innermost hopen

theorem leave {c : Container} (h : i.Tracks f past (c :: stack)) (last : Bool) :
    (i.after f last (.leave c)).Tracks f (past ++ [.leave c]) stack := by
  by_cases hlevel : c.family? = some f
  · have hconcerns : c.concerns f = true := by simp [Container.concerns, hlevel]
    have hdown : (i.after f last (.leave c)).isOpen = false := by
      have hopen := h.isOpen_of_level hlevel
      have hafter : i.after f last (.leave c) = if last then Items.initial else i := if_pos hlevel
      rw [hafter]
      split
      · rfl
      · exact hopen
    refine ⟨by rw [hdown, f.freshItem_leave past hconcerns], ?_⟩
    simp [hdown]
  · by_cases hitem : c.home? = some f
    · have hconcerns : c.concerns f = true := by simp [Container.concerns, hitem]
      have hafter : i.after f last (.leave c) = i.endItem := by simp [after, hlevel, hitem]
      rw [hafter]
      exact ⟨by rw [f.freshItem_leave past hconcerns, isOpen_endItem], by simp⟩
    · have hconcerns : c.concerns f = false := by simp [Container.concerns, hlevel, hitem]
      have hafter : i.after f last (.leave c) = i := by simp [after, hlevel, hitem]
      rw [hafter]
      have hfresh := f.freshItem_other past (e := .leave c) hconcerns
      refine ⟨by rw [hfresh, h.isOpen_eq], fun hopen => ?_⟩
      have hinner := h.innermost hopen
      rwa [List.find?_cons_of_neg (by simp [hconcerns])] at hinner

/-- One event that nests keeps the flags on the track of the events. -/
theorem after {e : Event} (h : i.Tracks f past stack) (hn : nest stack e = some stack')
    (last : Bool) : (i.after f last e).Tracks f (past ++ [e]) stack' := by
  obtain ⟨c, rfl, -, rfl⟩ | ⟨c, top, rfl, hcloses, rfl⟩ | ⟨c, rfl, rfl⟩ := nest_cases hn
  · exact h.enter last
  · exact (h.closes hcloses).leave last
  · have hc : (Event.content c).concerns f = false := rfl
    exact ⟨h.isOpen_eq.trans (f.freshItem_other past hc).symm, h.innermost⟩

end Items.Tracks

/-! ## The separator -/

/-- The family of an item on a grounded stack has a level there. -/
theorem Grounded.levels_pos {stack : List Container} {c : Container} {f : ItemFamily}
    (h : Grounded stack) (hmem : c ∈ stack) (hc : c.home? = some f) : 0 < levels f stack := by
  induction stack with
  | nil => cases hmem
  | cons top below ih =>
    have hbelow : 0 < levels f below := by
      rcases List.mem_cons.mp hmem with rfl | hmem
      · exact levels_pos_of_fits hc h.1
      · exact ih h.2 hmem
    rw [levels_cons]
    exact Nat.add_pos_left hbelow _

namespace Layout

/-- How many levels of a family are open. -/
def depth (l : Layout) : ItemFamily → Nat
  | .list => l.lists.depth
  | .definition => l.definitions.depth
  | .quotation => l.quotations.depth
  | .table => l.tables.depth

/-- From the start of a document on, every depth is the number of open levels. -/
theorem StandsOn.depth_eq {stack : List Container} {l : Layout} (h : initial.StandsOn stack l)
    (f : ItemFamily) : l.depth f = levels f stack := by
  cases f with
  | list =>
    have hlen : ∀ cs : List Container,
        (cs.filterMap Container.listKind?).length = levels .list cs := by
      intro cs
      induction cs with
      | nil => rfl
      | cons c cs ih =>
        rw [levels_cons, ← ih]
        cases c <;> rfl
    have hkinds := congrArg List.length h.lists
    rw [List.length_append, hlen] at hkinds
    exact hkinds
  | definition => exact h.definitions
  | quotation => exact h.quotations
  | table =>
    obtain ⟨above, hlen, hrows⟩ := h.tables
    rw [depth, Tables.depth, hrows, List.length_append, hlen]
    rfl

/-- The flags of lists, definition lists and quotations are on the track of the events. -/
structure Tracks (past : List Event) (stack : List Container) (l : Layout) : Prop where
  lists : l.lists.items.Tracks .list past stack
  definitions : l.definitions.items.Tracks .definition past stack
  quotations : l.quotations.items.Tracks .quotation past stack

namespace Tracks

variable {past : List Event} {stack : List Container} {l : Layout}

theorem foldl (hn : nestAll [] past = some stack) :
    (past.foldl Layout.after .initial).Tracks past stack := by
  have hstart : ([].foldl Layout.after .initial).Tracks [] [] :=
    ⟨.initial .list, .initial .definition, .initial .quotation⟩
  refine nestAll_invariant
    (P := fun past stack => (past.foldl Layout.after .initial).Tracks past stack) ?_ hstart hn
  intro past stack e stack' h he
  rw [List.foldl_append]
  constructor
  · exact (Lists.after_items _ e).symm ▸ h.lists.after he _
  · exact (Nested.after_items .definition _ e).symm ▸ h.definitions.after he _
  · exact (Nested.after_items .quotation _ e).symm ▸ h.quotations.after he _

theorem owed_enter (h : l.Tracks past stack) {c : Container} {f : ItemFamily}
    (hf : c.family? = some f) (htable : f ≠ .table) :
    l.owed (.enter c) = if f.continuesItem past then .newline else .block := by
  cases c with
  | list kind p =>
    cases hf
    simp [owed, Items.containerSeparator, h.lists.isOpen_eq, ItemFamily.continuesItem]
  | definitionList p =>
    cases hf
    simp only [owed, definitionSeparator, Items.containerSeparator, h.lists.isOpen_eq,
      h.definitions.isOpen_eq, ItemFamily.continuesItem, decide_true, Bool.true_and]
    cases ItemFamily.list.freshItem past <;> simp
  | quotation p =>
    cases hf
    simp [owed, Items.containerSeparator, h.quotations.isOpen_eq, ItemFamily.continuesItem]
  | table p =>
    cases hf
    exact absurd rfl htable
  | _ => cases hf

/-- Behind the begin of an item its family is open. -/
theorem levels_pos (h : l.Tracks past stack) (hg : Grounded stack) {f : ItemFamily}
    (hfresh : f.freshItem past = true) (htable : f ≠ .table) : 0 < levels f stack := by
  have hinner : ∃ c, stack.find? (Container.concerns f) = some c ∧ c.home? = some f := by
    cases f with
    | list => exact h.lists.innermost (h.lists.isOpen_eq.trans hfresh)
    | definition => exact h.definitions.innermost (h.definitions.isOpen_eq.trans hfresh)
    | quotation => exact h.quotations.innermost (h.quotations.isOpen_eq.trans hfresh)
    | table => exact absurd rfl htable
  obtain ⟨c, hfind, hhome⟩ := hinner
  exact hg.levels_pos (List.mem_of_find?_eq_some hfind) hhome

end Tracks

end Layout

/-- A list, definition list or quotation owes a line end if it continues an item that has just
begun, and else a blank line, however deep it stands. -/
theorem separator_of_container {past rest : List Event} {c : Container} {f : ItemFamily}
    (h : WellNested (past ++ .enter c :: rest)) (hf : c.family? = some f) (htable : f ≠ .table) :
    ∃ r stack, Renderer.initial.deliverAll past = .ok r ∧ nestAll [] past = some stack ∧
      r.layout.depth f = levels f stack ∧
      (f.freshItem past = true → 0 < r.layout.depth f) ∧
      (r.layout.owed (.enter c) = if f.continuesItem past then .newline else .block) ∧
      r.deliver (.enter c) = .ok ((r.advance (.enter c)).printAll
        (r.layout.separatorText (r.layout.owed (.enter c)) :: r.layout.texts (.enter c))) := by
  obtain ⟨stack, hstack, -⟩ := h.stack_of_append
  obtain ⟨r, hr, -⟩ := Renderer.deliverAll_standsOn (.refl Renderer.initial.sinks) hstack
  have hlayout : r.layout = past.foldl Layout.after .initial := Renderer.deliverAll_layout hr
  obtain ⟨hground, hstands⟩ := Layout.standsOn_foldl hstack
  have htracks := Layout.Tracks.foldl hstack
  rw [← hlayout] at hstands htracks
  have hdepth : r.layout.depth f = levels f stack := hstands.depth_eq f
  refine ⟨r, stack, hr, hstack, hdepth, fun hfresh => ?_, htracks.owed_enter hf htable, ?_⟩
  · rw [hdepth]
    exact htracks.levels_pos hground hfresh htable
  · rw [Renderer.deliver_eq]
    cases c <;> first | rfl | cases hf

/-- A sublist behind the word that its item begins with. -/
theorem separator_of_sublist :
    let past : List Event :=
      [.enter (.list .bulleted .empty), .enter .listItem, .content (.word "a")]
    let rest : List Event :=
      [.leave (.list .bulleted .empty), .leave .listItem, .leave (.list .bulleted .empty)]
    WellNested (past ++ .enter (.list .bulleted .empty) :: rest) ∧
      ItemFamily.list.freshItem past = true ∧
      ∃ r, Renderer.initial.deliverAll past = .ok r ∧ 0 < r.layout.depth .list ∧
        r.layout.owed (.enter (.list .bulleted .empty)) = .newline := by
  intro past rest
  have hnested : WellNested (past ++ .enter (.list .bulleted .empty) :: rest) := by decide
  have hfresh : ItemFamily.list.freshItem past = true := by decide
  obtain ⟨r, stack, hr, -, -, hdepth, howed, -⟩ :=
    separator_of_container hnested (f := .list) rfl (by decide)
  refine ⟨hnested, hfresh, r, hr, hdepth hfresh, howed.trans ?_⟩
  decide

/-- That the family is open does not rule out the blank line: the second sublist of an item owes
one. -/
theorem second_sublist_owes_block :
    ¬ ∀ (past rest : List Event) (c : Container) (f : ItemFamily) (r : Renderer),
      WellNested (past ++ .enter c :: rest) → c.family? = some f → f ≠ .table →
        Renderer.initial.deliverAll past = .ok r → 0 < r.layout.depth f →
          r.layout.owed (.enter c) ≠ .block := by
  intro h
  have hrun : Renderer.initial.deliverAll
      [.enter (.list .bulleted .empty), .enter .listItem, .enter (.list .bulleted .empty),
        .leave (.list .bulleted .empty)] =
      .ok ⟨⟨"* \n", []⟩,
        { Layout.initial with lists := ⟨[.bulleted], .initial⟩, blockBegun := true },
        none, []⟩ := by
    rfl
  have hblock := h _
    [.leave (.list .bulleted .empty), .leave .listItem, .leave (.list .bulleted .empty)]
    (.list .bulleted .empty) .list _ (by decide) rfl (by decide) hrun (by decide)
  exact hblock rfl

end WikiMarkup
