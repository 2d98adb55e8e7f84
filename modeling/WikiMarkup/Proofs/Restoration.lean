-- SUMMARY: Well-nested events leave only text and pending parameters behind: no scope, no level, no flag of an item, and no warning.
import WikiMarkup.Proofs.Separation

/-!
# Restoration

The flags of a family are shared by all of its levels. The end of an inner level leaves them as its
items did, and only the end of the outermost level clears them. `Items.Rests` is what holds in
between: as long as no level is open, the flags are those of the beginning. It is an invariant of
events that nest, since an item can begin or end only while its family has a level.

`Orderly` puts it together with the scopes, the levels and the warnings, for one event and then for
a run. When no container is open any more, `render_of_wellNested` reads off what is left.
-/

namespace WikiMarkup

/-! ## Flags without a level -/

/-- While no level of the family is open, the flags are those of the beginning. -/
def Items.Rests (f : ItemFamily) (stack : List Container) (i : Items) : Prop :=
  levels f stack = 0 → i = .initial

namespace Items.Rests

variable {f : ItemFamily} {stack stack' : List Container} {i : Items} {c : Container}

theorem enter (h : i.Rests f stack) (hfits : c.fits stack = true) (last : Bool) :
    (i.after f last (.enter c)).Rests f (c :: stack) := by
  intro hnone
  rw [levels_cons] at hnone
  have hstack : levels f stack = 0 := by omega
  have hlevel : ¬ c.family? = some f := by
    intro hc
    rw [if_pos hc] at hnone
    exact Nat.succ_ne_zero _ hnone
  have hitem : ¬ c.home? = some f := by
    intro hc
    exact Nat.ne_of_gt (levels_pos_of_fits hc hfits) hstack
  simp only [after, if_neg hlevel, if_neg hitem]
  exact h hstack

/-- The end of the only level clears the flags. An item that ends still has its level around it. -/
theorem leave (h : i.Rests f (c :: stack)) (hfits : c.fits stack = true) {last : Bool}
    (hlast : levels f (c :: stack) = 1 → last = true) :
    (i.after f last (.leave c)).Rests f stack := by
  intro hnone
  by_cases hlevel : c.family? = some f
  · have hone : levels f (c :: stack) = 1 := by rw [levels_cons, if_pos hlevel, hnone]
    simp only [after, if_pos hlevel, if_pos (hlast hone)]
  · have hitem : ¬ c.home? = some f := by
      intro hc
      exact Nat.ne_of_gt (levels_pos_of_fits hc hfits) hnone
    simp only [after, if_neg hlevel, if_neg hitem]
    apply h
    rw [levels_cons, if_neg hlevel, hnone]

/-- One event that nests keeps the flags at rest. -/
theorem after {e : Event} (h : i.Rests f stack) (hg : Grounded stack)
    (hn : nest stack e = some stack') {last : Bool} (hlast : levels f stack = 1 → last = true) :
    (i.after f last e).Rests f stack' := by
  obtain ⟨c, rfl, hfits, rfl⟩ | ⟨c, top, rfl, hcloses, rfl⟩ | ⟨c, rfl, rfl⟩ := nest_cases hn
  · exact h.enter hfits last
  · have hlevels := hcloses.levels f stack'
    refine Items.Rests.leave ?_ (hcloses.fits stack' ▸ hg.1) (hlevels ▸ hlast)
    exact fun hnone => h (hlevels ▸ hnone)
  · exact h

end Items.Rests

section

variable {stack stack' : List Container} {e : Event}

theorem Lists.rests_after {l : Lists} (h : l.items.Rests .list stack)
    (hdepth : l.depth = levels .list stack) (hg : Grounded stack)
    (hn : nest stack e = some stack') : (l.after e).items.Rests .list stack' := by
  rw [after_items]
  refine h.after hg hn ?_
  intro hone
  rw [← hdepth] at hone
  exact decide_eq_true (Nat.le_of_eq hone)

theorem Nested.rests_after {f : ItemFamily} {n : Nested} (h : n.items.Rests f stack)
    (hdepth : n.depth = levels f stack) (hg : Grounded stack)
    (hn : nest stack e = some stack') : (n.after f e).items.Rests f stack' := by
  rw [after_items]
  refine h.after hg hn ?_
  intro hone
  rw [← hdepth] at hone
  exact decide_eq_true hone

end

/-! ## The layout -/

namespace Layout

/-- The flags of lists, definition lists and quotations are at rest where nothing is open. -/
structure Rests (stack : List Container) (l : Layout) : Prop where
  lists : l.lists.items.Rests .list stack
  definitions : l.definitions.items.Rests .definition stack
  quotations : l.quotations.items.Rests .quotation stack

variable {stack stack' : List Container} {l : Layout} {e : Event}

theorem Rests.initial : Layout.initial.Rests [] where
  lists _ := rfl
  definitions _ := rfl
  quotations _ := rfl

/-- One event that nests keeps all flags at rest. -/
theorem Rests.after (h : l.Rests stack) (hl : Layout.initial.StandsOn stack l)
    (hg : Grounded stack) (hn : nest stack e = some stack') : (l.after e).Rests stack' where
  lists := Lists.rests_after h.lists (hl.depth_eq .list) hg hn
  definitions := Nested.rests_after h.definitions (hl.depth_eq .definition) hg hn
  quotations := Nested.rests_after h.quotations (hl.depth_eq .quotation) hg hn

/-- With no container open, all levels and all flags are those of the beginning. -/
theorem Rests.closed (h : l.Rests []) (hl : Layout.initial.StandsOn [] l) :
    l = { Layout.initial with blockBegun := l.blockBegun } := by
  obtain ⟨rows, hlen, hrows⟩ := hl.tables
  have hlists : l.lists = .initial :=
    (Lists.mk.injEq ..).mpr ⟨hl.lists, h.lists rfl⟩
  have hdefinitions : l.definitions = .initial :=
    (Nested.mk.injEq ..).mpr ⟨hl.definitions, h.definitions rfl⟩
  have hquotations : l.quotations = .initial :=
    (Nested.mk.injEq ..).mpr ⟨hl.quotations, h.quotations rfl⟩
  have htables : l.tables = .initial := by
    rw [List.length_eq_zero_iff.mp hlen] at hrows
    exact (Tables.mk.injEq ..).mpr hrows
  rw [mk.injEq]
  exact ⟨hlists, hdefinitions, hquotations, htables, rfl⟩

/-- No event that nests gives rise to a warning: its family has a level to leave. -/
theorem complaints_eq_nil (hl : Layout.initial.StandsOn stack l) (hg : Grounded stack)
    (hn : nest stack e = some stack') : l.complaints e = [] := by
  obtain ⟨c, rfl, -, -⟩ | ⟨c, top, rfl, hcloses, rfl⟩ | ⟨c, rfl, -⟩ := nest_cases hn
  · rfl
  · have hlevel : ∀ f, c.family? = some f → l.depth f ≠ 0 := by
      intro f hc
      rw [hl.depth_eq, ← hcloses.levels, levels_cons, if_pos hc]
      exact Nat.succ_ne_zero _
    have hitem : ∀ f, c.home? = some f → l.depth f ≠ 0 := by
      intro f hc
      have hpos := levels_pos_of_fits (hcloses.home?.symm.trans hc) hg.1
      rw [hl.depth_eq, levels_cons]
      omega
    cases c with
    | list kind p => exact if_neg (hlevel .list rfl)
    | definitionList p => exact if_neg (hlevel .definition rfl)
    | quotation p => exact if_neg (hlevel .quotation rfl)
    | table p => exact if_neg (hlevel .table rfl)
    | tableRow p => exact if_neg (hitem .table rfl)
    | _ => rfl
  · rfl

end Layout

/-! ## Runs from the beginning -/

namespace Renderer

/-- A state in which nothing is open. -/
def restored (base : String) (begun : Bool) (pending : Option Parameters) : Renderer :=
  ⟨⟨base, []⟩, { Layout.initial with blockBegun := begun }, pending, []⟩

/-- What events that nest make of the initial state while these containers are open. -/
structure Orderly (stack : List Container) (r : Renderer) : Prop where
  grounded : Grounded stack
  scopes : Sinks.empty.StandsOn (stack.countP Container.opensScope) r.sinks
  levels : Layout.initial.StandsOn stack r.layout
  flags : r.layout.Rests stack
  warnings : r.warnings = []

namespace Orderly

variable {stack stack' : List Container} {r : Renderer}

theorem initial : Renderer.initial.Orderly [] where
  grounded := trivial
  scopes := .refl _
  levels := .refl _
  flags := .initial
  warnings := rfl

/-- One event that nests is delivered, and leaves everything in order. -/
theorem deliver {e : Event} (h : r.Orderly stack) (hn : nest stack e = some stack') :
    ∃ r', r.deliver e = .ok r' ∧ r'.Orderly stack' := by
  obtain ⟨r', hr', hscopes⟩ := deliver_standsOn h.scopes hn
  have hlayout := deliver_layout hr'
  refine ⟨r', hr', h.grounded.nest hn, hscopes, ?_, ?_, ?_⟩
  · rw [hlayout]
    exact h.levels.after h.grounded hn
  · rw [hlayout]
    exact h.flags.after h.levels h.grounded hn
  · rw [deliver_warnings hr', h.warnings, Layout.complaints_eq_nil h.levels h.grounded hn]
    rfl

/-- Events that nest are delivered, and leave everything in order. -/
theorem deliverAll {events : List Event} (h : r.Orderly stack)
    (hn : nestAll stack events = some stack') :
    ∃ r', r.deliverAll events = .ok r' ∧ r'.Orderly stack' := by
  induction events generalizing stack r with
  | nil =>
    cases hn
    exact ⟨r, rfl, h⟩
  | cons e events ih =>
    obtain ⟨middle, he, hrest⟩ := Option.bind_eq_some_iff.mp hn
    obtain ⟨next, hnext, horderly⟩ := h.deliver he
    obtain ⟨r', hr', hdone⟩ := ih horderly hrest
    refine ⟨r', ?_, hdone⟩
    rw [deliverAll_cons, hnext]
    exact hr'

/-- With no container open, nothing remembers the events but the text, the pending parameters and
whether a block has begun. -/
theorem closed (h : r.Orderly []) :
    r = restored r.sinks.base r.layout.blockBegun r.pending := by
  obtain ⟨text, htext⟩ := h.scopes.closed
  have hscopes : r.sinks.scopes = [] := by
    rw [htext]
    rfl
  rw [restored, mk.injEq]
  exact ⟨(Sinks.mk.injEq ..).mpr ⟨rfl, hscopes⟩, h.flags.closed h.levels, rfl, h.warnings⟩

end Orderly

/-- From the beginning, well-nested events lead to a state in which nothing is open. -/
theorem initial_deliverAll {events : List Event} (h : WellNested events) :
    ∃ base begun pending, initial.deliverAll events = .ok (restored base begun pending) := by
  obtain ⟨r, hr, horderly⟩ := Orderly.initial.deliverAll h
  exact ⟨_, _, _, hr.trans (congrArg Except.ok horderly.closed)⟩

end Renderer

/-- Well-nested events are rendered without a warning. They close every scope that they open, and
leave lists, definition lists, quotations and tables as they were in the beginning. -/
theorem render_of_wellNested {events : List Event} (h : WellNested events) :
    ∃ r, Renderer.initial.deliverAll events = .ok r ∧ r.sinks.scopes = [] ∧
      r.layout.lists = .initial ∧ r.layout.definitions = .initial ∧
      r.layout.quotations = .initial ∧ r.layout.tables = .initial ∧ r.warnings = [] ∧
      render events = .ok ⟨r.sinks.base, []⟩ := by
  obtain ⟨base, begun, pending, hr⟩ := Renderer.initial_deliverAll h
  refine ⟨_, hr, rfl, rfl, rfl, rfl, rfl, rfl, ?_⟩
  exact render_eq_ok_iff.mpr ⟨_, hr, rfl⟩

/-- A list in a quotation, with a sublist, a definition list and a table inside of one item, and a
link inside of what a macro expanded to. -/
theorem render_of_wellNested_mixture :
    let call : MacroCall := ⟨"m", .empty, none⟩
    let link : Container := .link (.document "Doc") false .empty
    let events : List Event :=
      [.enter (.quotation .empty), .enter .quotationLine,
        .enter (.list .bulleted .empty), .enter .listItem,
          .enter (.list .numbered .empty), .enter .listItem, .content (.word "a"),
          .leave .listItem, .leave (.list .numbered .empty),
          .enter (.definitionList .empty), .enter .definitionTerm, .content (.word "b"),
          .leave .definitionTerm, .leave (.definitionList .empty),
          .enter (.table .empty), .enter (.tableRow .empty), .enter (.tableCell .empty),
          .enter (.macroMarker call), .enter link, .content (.word "c"), .leave link,
          .leave (.macroMarker call), .leave (.tableCell .empty), .leave (.tableRow .empty),
          .leave (.table .empty),
        .leave .listItem, .leave (.list .bulleted .empty),
        .leave .quotationLine, .leave (.quotation .empty)]
    WellNested events ∧ ∃ r, Renderer.initial.deliverAll events = .ok r ∧
      r.layout.lists = .initial ∧ r.layout.definitions = .initial ∧
      r.layout.quotations = .initial ∧ r.layout.tables = .initial ∧
      r.sinks.base = ">\n\n* \n*1. a\n\n*; b\n\n|\x7b\x7bm/\x7d\x7d" := by
  intro call link events
  have h : WellNested events := by decide
  obtain ⟨r, hr, -, hlists, hdefinitions, hquotations, htables, -, hrender⟩ :=
    render_of_wellNested h
  have htext : (render events).toOption =
      some ⟨">\n\n* \n*1. a\n\n*; b\n\n|\x7b\x7bm/\x7d\x7d", []⟩ := by decide +kernel
  rw [hrender] at htext
  refine ⟨h, r, hr, hlists, hdefinitions, hquotations, htables, ?_⟩
  exact congrArg Rendered.text (Option.some.inj htext)

end WikiMarkup
