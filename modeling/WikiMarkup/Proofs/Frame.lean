-- SUMMARY: What events that nest leave as it was: the scopes and the levels below those they opened, and text that only grows.
import WikiMarkup.Proofs.Delivery

/-!
# Frames

While events nest, the sinks and the layout stand on those from which the events started: what the
containers still open have added lies on top, text is only appended below, and the rest is as it
was. Nothing can fail, since every end of a link or marker finds the scope of its begin. When no
container is open any more, nothing lies on top.
-/

namespace WikiMarkup

/-! ## Text -/

/-- Text was appended to the active sink, and nothing else happened. -/
def Sinks.Extends (start s : Sinks) : Prop := ∃ text, s = start.write text

namespace Sinks.Extends

theorem refl (s : Sinks) : s.Extends s := ⟨"", s.write_empty.symm⟩

theorem write {start s : Sinks} (h : start.Extends s) (text : String) :
    start.Extends (s.write text) := by
  obtain ⟨before, rfl⟩ := h
  exact ⟨before ++ text, write_write start before text⟩

end Sinks.Extends

namespace Renderer

theorem extends_print {start : Sinks} {r : Renderer} (h : start.Extends r.sinks)
    (text : String) : start.Extends (r.print text).sinks := by
  rw [print_eq]
  exact h.write _

theorem extends_printAll {start : Sinks} {r : Renderer} (h : start.Extends r.sinks)
    (texts : List String) : start.Extends (r.printAll texts).sinks := by
  rw [printAll_eq]
  exact extends_print h _

theorem extends_enterFormat (f : Format) (p : Parameters) (r : Renderer) :
    r.sinks.Extends (r.enterFormat f p).sinks := by
  have hfull : r.sinks.Extends ((r.print f.delimiter).printBlock p false).sinks :=
    extends_print (extends_print (.refl _) _) _
  unfold enterFormat
  split
  · split
    · exact extends_print (r := r.dropPending) (.refl _) _
    · exact hfull
  · exact hfull

theorem extends_leaveFormat (f : Format) (p : Parameters) (r : Renderer) :
    r.sinks.Extends (r.leaveFormat f p).sinks := by
  have h : r.sinks.Extends (r.print f.delimiter).sinks := extends_print (.refl _) _
  unfold leaveFormat
  dsimp only
  split
  · exact h
  · exact h

end Renderer

/-! ## Scopes -/

/-- Whether what stands inside a container is written to a scope of its own. -/
def Container.opensScope : Container → Bool
  | link _ _ _ | macroMarker _ => true
  | _ => false

theorem Container.opensScope_bare (c : Container) : c.bare.opensScope = c.opensScope := by
  cases c <;> rfl

namespace Renderer

/-- Beginning a container appends to the active sink, and may then open a scope. -/
theorem deliver_enter (r : Renderer) (c : Container) :
    ∃ r' s, r.deliver (.enter c) = .ok r' ∧ r.sinks.Extends s ∧
      if c.opensScope then ∃ sink, r'.sinks = s.enter sink else r'.sinks = s := by
  rw [deliver_eq]
  cases c
  case link l freeStanding p =>
    have h := extends_print (r := r.advance (.enter (.link l freeStanding p))) (.refl r.sinks)
    exact ⟨_, _, rfl, h (l.opening freeStanding), .collect "", rfl⟩
  case macroMarker call => exact ⟨_, _, rfl, .refl r.sinks, .drop, rfl⟩
  case format f p => exact ⟨_, _, rfl, extends_enterFormat f p (r.advance _), rfl⟩
  all_goals exact ⟨_, _, rfl, extends_printAll (r := r.advance _) (.refl _) _, rfl⟩

/-- Ending a container closes the scope that it opened, if any, and appends to the sink below. -/
theorem deliver_leave {r : Renderer} {c : Container} {s : Sinks}
    (h : if c.opensScope then ∃ kept, r.sinks.leave? = some (kept, s) else r.sinks = s) :
    ∃ r', r.deliver (.leave c) = .ok r' ∧ s.Extends r'.sinks := by
  rw [deliver_eq]
  cases c
  case link l freeStanding p =>
    obtain ⟨kept, hkept⟩ := h
    refine ⟨_, by simp only [Layout.effect, perform, leaveLink, advance, hkept]; rfl, ?_⟩
    exact extends_print (extends_print (.refl s) _) _
  case macroMarker call =>
    obtain ⟨kept, hkept⟩ := h
    refine ⟨_, by simp only [Layout.effect, perform, leaveMacroMarker, advance, hkept]; rfl, ?_⟩
    exact extends_print (.refl s) _
  case format f p =>
    cases h
    exact ⟨_, rfl, extends_leaveFormat f p (r.advance _)⟩
  case paragraph | tableCell | tableHeadCell =>
    cases h
    exact ⟨_, rfl, .refl _⟩
  all_goals
    cases h
    exact ⟨_, rfl, extends_printAll (r := r.advance _) (.refl _) _⟩

/-- Content appends to the active sink. -/
theorem deliver_content (r : Renderer) (c : Content) :
    ∃ r', r.deliver (.content c) = .ok r' ∧ r.sinks.Extends r'.sinks := by
  rw [deliver_eq]
  exact ⟨_, rfl, extends_printAll (r := r.advance _) (.refl _) _⟩

end Renderer

/-- So many scopes lie on the sinks from which a run started, and below them text was appended. -/
def Sinks.StandsOn (start : Sinks) (n : Nat) (s : Sinks) : Prop :=
  ∃ below above, start.Extends below ∧ above.length = n ∧
    s = ⟨below.base, above ++ below.scopes⟩

namespace Sinks.StandsOn

variable {start s s' : Sinks} {n : Nat}

theorem refl (s : Sinks) : s.StandsOn 0 s := ⟨s, [], .refl s, rfl, rfl⟩

theorem append (h : start.StandsOn n s) (hs : s.Extends s') : start.StandsOn n s' := by
  obtain ⟨below, above, hbelow, hlen, rfl⟩ := h
  obtain ⟨text, rfl⟩ := hs
  cases above with
  | nil => exact ⟨below.write text, [], hbelow.write text, hlen, rfl⟩
  | cons top above => exact ⟨below, top.write text :: above, hbelow, hlen, rfl⟩

theorem enter (h : start.StandsOn n s) (sink : Sink) : start.StandsOn (n + 1) (s.enter sink) := by
  obtain ⟨below, above, hbelow, hlen, rfl⟩ := h
  exact ⟨below, sink :: above, hbelow, by simp [hlen], rfl⟩

theorem leave (h : start.StandsOn (n + 1) s) :
    ∃ kept s', s.leave? = some (kept, s') ∧ start.StandsOn n s' := by
  obtain ⟨below, above, hbelow, hlen, rfl⟩ := h
  cases above with
  | nil => cases hlen
  | cons top above => exact ⟨_, _, rfl, below, above, hbelow, by simpa using hlen, rfl⟩

theorem closed (h : start.StandsOn 0 s) : start.Extends s := by
  obtain ⟨below, above, hbelow, hlen, rfl⟩ := h
  rwa [List.length_eq_zero_iff.mp hlen]

end Sinks.StandsOn

namespace Renderer

/-- One event that nests is delivered, and the sinks still stand on the start. -/
theorem deliver_standsOn {start : Sinks} {stack stack' : List Container} {r : Renderer} {e : Event}
    (h : start.StandsOn (stack.countP Container.opensScope) r.sinks)
    (hn : nest stack e = some stack') :
    ∃ r', r.deliver e = .ok r' ∧
      start.StandsOn (stack'.countP Container.opensScope) r'.sinks := by
  obtain ⟨c, rfl, -, rfl⟩ | ⟨c, top, rfl, hcloses, rfl⟩ | ⟨c, rfl, rfl⟩ := nest_cases hn
  · obtain ⟨r', s, hr', hs, hscope⟩ := r.deliver_enter c
    refine ⟨r', hr', ?_⟩
    by_cases hc : c.opensScope = true
    · obtain ⟨sink, hsink⟩ := (if_pos hc).mp hscope
      rw [hsink, List.countP_cons_of_pos hc]
      exact (h.append hs).enter sink
    · rw [(if_neg hc).mp hscope, List.countP_cons_of_neg hc]
      exact h.append hs
  · rw [List.countP_cons, ← hcloses.congr Container.opensScope_bare] at h
    by_cases hc : c.opensScope = true
    · rw [if_pos hc] at h
      obtain ⟨kept, s, hleave, hs⟩ := h.leave
      obtain ⟨r', hr', hext⟩ := deliver_leave (c := c) ((if_pos hc).mpr ⟨kept, hleave⟩)
      exact ⟨r', hr', hs.append hext⟩
    · rw [if_neg hc, Nat.add_zero] at h
      obtain ⟨r', hr', hext⟩ := deliver_leave (c := c) ((if_neg hc).mpr rfl)
      exact ⟨r', hr', h.append hext⟩
  · obtain ⟨r', hr', hext⟩ := r.deliver_content c
    exact ⟨r', hr', h.append hext⟩

/-- Events that nest are delivered, and the sinks still stand on the start. -/
theorem deliverAll_standsOn {start : Sinks} {events : List Event} {stack stack' : List Container}
    {r : Renderer} (h : start.StandsOn (stack.countP Container.opensScope) r.sinks)
    (hn : nestAll stack events = some stack') :
    ∃ r', r.deliverAll events = .ok r' ∧
      start.StandsOn (stack'.countP Container.opensScope) r'.sinks := by
  induction events generalizing stack r with
  | nil =>
    cases hn
    exact ⟨r, rfl, h⟩
  | cons e events ih =>
    obtain ⟨middle, he, hrest⟩ := Option.bind_eq_some_iff.mp hn
    obtain ⟨next, hnext, hmiddle⟩ := deliver_standsOn h he
    obtain ⟨r', hr', hstands⟩ := ih hmiddle hrest
    exact ⟨r', by rw [deliverAll_cons, hnext]; exact hr', hstands⟩

end Renderer

/-! ## Levels -/

/-- The kind of a list. -/
def Container.listKind? : Container → Option ListKind
  | list kind _ => some kind
  | _ => none

theorem Container.listKind?_bare (c : Container) : c.bare.listKind? = c.listKind? := by
  cases c <;> rfl

/-- How many of the open containers are levels of a family. -/
def levels (f : ItemFamily) (stack : List Container) : Nat :=
  stack.countP fun c => c.family? = some f

theorem levels_cons (f : ItemFamily) (c : Container) (stack : List Container) :
    levels f (c :: stack) = levels f stack + if c.family? = some f then 1 else 0 := by
  simp only [levels, List.countP_cons, decide_eq_true_eq]

theorem Container.Closes.levels {c top : Container} (h : c.Closes top) (f : ItemFamily)
    (stack : List Container) : levels f (c :: stack) = levels f (top :: stack) := by
  rw [levels_cons, levels_cons, h.family?]

/-- Where an item may be opened, its family has a level. -/
theorem levels_pos_of_fits {stack : List Container} {c : Container} {f : ItemFamily}
    (hc : c.home? = some f) (h : c.fits stack = true) : 0 < levels f stack := by
  simp only [Container.fits, hc, List.any_eq_true] at h
  exact List.countP_pos_iff.mpr h

theorem Lists.leave_kinds (l : Lists) : l.leave.kinds = l.kinds.tail := by
  unfold leave
  split <;> simp [*]

theorem Nested.leave_depth (n : Nested) : n.leave.depth = n.depth - 1 := by
  unfold leave
  split <;> simp [*]

theorem Nested.after_enter_depth (f : ItemFamily) (n : Nested) (c : Container) :
    (n.after f (.enter c)).depth = n.depth + if c.family? = some f then 1 else 0 := by
  simp only [after]
  split
  · rfl
  · split <;> rfl

theorem Nested.after_leave_depth (f : ItemFamily) (n : Nested) (c : Container) :
    (n.after f (.leave c)).depth = n.depth - if c.family? = some f then 1 else 0 := by
  simp only [after]
  split
  · exact n.leave_depth
  · split <;> rfl

namespace Layout

/-- The levels of the open containers lie on those of the start. Of the tables at the start it does
not matter which of their rows have ended. -/
structure StandsOn (start : Layout) (stack : List Container) (l : Layout) : Prop where
  lists : l.lists.kinds = stack.filterMap Container.listKind? ++ start.lists.kinds
  definitions : l.definitions.depth = levels .definition stack + start.definitions.depth
  quotations : l.quotations.depth = levels .quotation stack + start.quotations.depth
  tables : ∃ above, above.length = levels .table stack ∧
    l.tables.rowsEnded = above ++ start.tables.rowsEnded

namespace StandsOn

attribute [local simp] Lists.after Nested.after Tables.after Layout.after
  Container.family? Container.listKind? Container.home?

variable {start l : Layout} {stack : List Container} {c : Container}

theorem refl (l : Layout) : l.StandsOn [] l where
  lists := rfl
  definitions := (Nat.zero_add _).symm
  quotations := (Nat.zero_add _).symm
  tables := ⟨[], rfl, rfl⟩

/-- Parameters of the innermost container do not count. -/
theorem closes {top : Container} (h : start.StandsOn (top :: stack) l) (hc : c.Closes top) :
    start.StandsOn (c :: stack) l where
  lists := by
    rw [List.filterMap_cons, hc.congr Container.listKind?_bare, ← List.filterMap_cons]
    exact h.lists
  definitions := by
    rw [hc.levels]
    exact h.definitions
  quotations := by
    rw [hc.levels]
    exact h.quotations
  tables := by
    rw [hc.levels]
    exact h.tables

theorem enter (h : start.StandsOn stack l) : start.StandsOn (c :: stack) (l.after (.enter c)) where
  lists := by
    have hkinds := h.lists
    cases c <;> simpa [List.filterMap_cons, Lists.enter] using hkinds
  definitions := by
    change (l.definitions.after .definition (.enter c)).depth = _
    rw [Nested.after_enter_depth, h.definitions, levels_cons, Nat.add_right_comm]
  quotations := by
    change (l.quotations.after .quotation (.enter c)).depth = _
    rw [Nested.after_enter_depth, h.quotations, levels_cons, Nat.add_right_comm]
  tables := by
    obtain ⟨above, hlen, hrows⟩ := h.tables
    rw [levels_cons]
    cases c
    case table p =>
      exact ⟨false :: above, by simp [hlen], by simp [Tables.enter, hrows]⟩
    all_goals exact ⟨above, by simp [hlen], by simp [hrows]⟩

theorem leave (h : start.StandsOn (c :: stack) l) (hfits : c.fits stack = true) :
    start.StandsOn stack (l.after (.leave c)) where
  lists := by
    have hkinds := h.lists
    cases c <;> simp [List.filterMap_cons, Lists.leave_kinds, hkinds]
  definitions := by
    change (l.definitions.after .definition (.leave c)).depth = _
    rw [Nested.after_leave_depth, h.definitions, levels_cons,
      Nat.add_right_comm, Nat.add_sub_cancel]
  quotations := by
    change (l.quotations.after .quotation (.leave c)).depth = _
    rw [Nested.after_leave_depth, h.quotations, levels_cons,
      Nat.add_right_comm, Nat.add_sub_cancel]
  tables := by
    obtain ⟨above, hlen, hrows⟩ := h.tables
    rw [levels_cons] at hlen
    cases c
    case table p =>
      cases above with
      | nil => simp at hlen
      | cons top above =>
        exact ⟨above, by simpa using hlen, by simp [Tables.leave, hrows]⟩
    case tableRow p =>
      -- A row is open, so its table is: the row that ends is marked above the start.
      have hpos := levels_pos_of_fits (f := .table) rfl hfits
      cases above with
      | nil =>
        simp at hlen
        omega
      | cons top above =>
        exact ⟨true :: above, by simpa using hlen, by simp [Tables.endRow, hrows]⟩
    all_goals exact ⟨above, by simpa using hlen, by simp [hrows]⟩

theorem content (h : start.StandsOn stack l) (c : Content) :
    start.StandsOn stack (l.after (.content c)) :=
  ⟨h.lists, h.definitions, h.quotations, h.tables⟩

/-- One event that nests keeps the levels on those of the start. -/
theorem after {stack' : List Container} {e : Event} (h : start.StandsOn stack l)
    (hg : Grounded stack) (hn : nest stack e = some stack') :
    start.StandsOn stack' (l.after e) := by
  obtain ⟨c, rfl, -, rfl⟩ | ⟨c, top, rfl, hcloses, rfl⟩ | ⟨c, rfl, rfl⟩ := nest_cases hn
  · exact h.enter
  · exact (h.closes hcloses).leave (hcloses.fits stack' ▸ hg.1)
  · exact h.content c

end StandsOn

theorem standsOn_foldl {start : Layout} {events : List Event} {stack : List Container}
    (hn : nestAll [] events = some stack) :
    Grounded stack ∧ start.StandsOn stack (events.foldl Layout.after start) := by
  have hstart : Grounded [] ∧ start.StandsOn [] ([].foldl after start) := ⟨trivial, .refl start⟩
  refine nestAll_invariant
    (P := fun past stack => Grounded stack ∧ start.StandsOn stack (past.foldl after start))
    ?_ hstart hn
  intro past stack e stack' h he
  rw [List.foldl_append]
  exact ⟨h.1.nest he, h.2.after h.1 he⟩

end Layout

/-! ## Well-nested events -/

/-- What well-nested events leave behind: more text in the active sink, and every level as it was.
Flags of items, pending parameters and warnings are not promised anything. -/
theorem WellNested.deliverAll {events : List Event} (h : WellNested events) (r : Renderer) :
    ∃ r', r.deliverAll events = .ok r' ∧ r.sinks.Extends r'.sinks ∧
      r.layout.StandsOn [] r'.layout := by
  obtain ⟨r', hr', hsinks⟩ := Renderer.deliverAll_standsOn (.refl r.sinks) h
  refine ⟨r', hr', hsinks.closed, ?_⟩
  rw [Renderer.deliverAll_layout hr']
  exact (Layout.standsOn_foldl h).2

end WikiMarkup
