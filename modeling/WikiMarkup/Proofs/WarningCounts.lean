-- SUMMARY: How many warnings a list of events leads to, and how deep each family is open behind it: balances of begins and ends, and their least value on the way.
import Mathlib.Data.List.Infix
import WikiMarkup.Proofs.Growth
import WikiMarkup.Proofs.Separation

/-!
# Counting warnings

The depth of a family follows the balance of its begins and ends, except that an end at depth zero
is turned down with a warning. So the depth is the height of the balance above the lowest value it
had, or zero had, and that lowest value counts the warnings. Lists count their levels by a stack of
kinds, definition lists and quotations by a number, tables by a stack of flags: `depth_after` makes
them one counter, and the rest of the argument sees only that.
-/

namespace WikiMarkup

/-! ## Balances -/

namespace Event

/-- The family of which an event begins a level. -/
def begun? : Event → Option ItemFamily
  | enter c => c.family?
  | _ => none

/-- The family of which an event ends a level. -/
def ended? : Event → Option ItemFamily
  | leave c => c.family?
  | _ => none

/-- Whether an event ends a row of a table. -/
def endsRow : Event → Bool
  | leave (.tableRow _) => true
  | _ => false

end Event

namespace ItemFamily

/-- The begins of a family less its ends. -/
def balance (f : ItemFamily) (events : List Event) : Int :=
  events.countP (·.begun? = some f) - events.countP (·.ended? = some f)

/-- The least of zero and of the balances of all parts at the front of the events. -/
def lowest (f : ItemFamily) (events : List Event) : Int :=
  (events.inits.map f.balance).foldl min 0

/-- The warning about an end without a begin. -/
def unmatchedEnd : ItemFamily → Warning
  | list => .unmatchedListEnd
  | definition => .unmatchedDefinitionListEnd
  | quotation => .unmatchedQuotationEnd
  | table => .unmatchedTableEnd

/-- What warnings call the family. -/
def title : ItemFamily → String
  | list => "list"
  | definition => "definition list"
  | quotation => "quotation"
  | table => "table"

theorem unmatchedEnd_injective {f g : ItemFamily} (h : f.unmatchedEnd = g.unmatchedEnd) : f = g := by
  cases f <;> cases g <;> first | rfl | cases h

theorem unmatchedEnd_ne_rowOutsideTable (f : ItemFamily) : f.unmatchedEnd ≠ .rowOutsideTable := by
  cases f <;> exact nofun

theorem unmatchedEnd_message (f : ItemFamily) :
    f.unmatchedEnd.message = "end of " ++ f.title ++ " without a matching begin" := by
  cases f <;> decide

variable (f : ItemFamily) (past : List Event) (e : Event)

theorem balance_concat :
    f.balance (past ++ [e]) = f.balance past +
      ((if e.begun? = some f then 1 else 0) - if e.ended? = some f then 1 else 0) := by
  simp only [balance, List.countP_append, List.countP_singleton, decide_eq_true_eq]
  split <;> split <;> omega

theorem lowest_concat :
    f.lowest (past ++ [e]) = min (f.lowest past) (f.balance (past ++ [e])) := by
  simp [lowest, List.inits_append, List.foldl_append]

theorem lowest_le_balance (events : List Event) : f.lowest events ≤ f.balance events := by
  cases events using List.reverseRecOn with
  | nil => exact Int.le_refl 0
  | append_singleton past e =>
    rw [f.lowest_concat]
    exact Int.min_le_right _ _

end ItemFamily

/-! ## One event -/

namespace Layout

/-- All four families count alike. An end at depth zero stays there. -/
theorem depth_after (l : Layout) (e : Event) (f : ItemFamily) :
    (l.after e).depth f =
      l.depth f + (if e.begun? = some f then 1 else 0) - if e.ended? = some f then 1 else 0 := by
  cases e with
  | enter c =>
    cases f with
    | list => cases c <;> rfl
    | definition => exact Nested.after_enter_depth .definition l.definitions c
    | quotation => exact Nested.after_enter_depth .quotation l.quotations c
    | table => cases c <;> rfl
  | leave c =>
    cases f with
    | list =>
      cases c
      case list kind p =>
        change l.lists.leave.kinds.length = _
        rw [Lists.leave_kinds, List.length_tail]
        rfl
      all_goals rfl
    | definition => exact Nested.after_leave_depth .definition l.definitions c
    | quotation => exact Nested.after_leave_depth .quotation l.quotations c
    | table =>
      cases c
      case table p => exact List.length_tail
      case tableRow p =>
        obtain ⟨lists, definitions, quotations, ⟨rows⟩, begun⟩ := l
        cases rows <;> rfl
      all_goals rfl
  | content c => cases f <;> rfl

/-- The warnings of an event: an end complains if its family has no level, and the end of a row if
there is no table. -/
theorem complaints_eq (l : Layout) (e : Event) :
    l.complaints e =
      (e.ended?.toList.filter fun f => l.depth f = 0).map ItemFamily.unmatchedEnd ++
        if e.endsRow ∧ l.depth .table = 0 then [.rowOutsideTable] else [] := by
  cases e with
  | leave c =>
    cases c
    case list | definitionList | quotation | table | tableRow =>
      simp only [complaints, Event.ended?, Container.family?, Event.endsRow, depth]
      split <;> simp_all [ItemFamily.unmatchedEnd]
    all_goals rfl
  | _ => rfl

theorem count_unmatchedEnd_complaints (l : Layout) (e : Event) (f : ItemFamily) :
    (l.complaints e).count f.unmatchedEnd =
      if e.ended? = some f ∧ l.depth f = 0 then 1 else 0 := by
  have hrow : List.count f.unmatchedEnd
      (if e.endsRow ∧ l.depth .table = 0 then [.rowOutsideTable] else []) = 0 := by
    have hne := f.unmatchedEnd_ne_rowOutsideTable
    split <;> simp [hne.symm]
  rw [complaints_eq, List.count_append, hrow]
  cases e.ended? with
  | none => simp
  | some g =>
    by_cases hsame : g = f
    · subst hsame
      by_cases hdepth : l.depth g = 0 <;> simp [hdepth]
    · have hother : g.unmatchedEnd ≠ f.unmatchedEnd :=
        fun h => hsame (ItemFamily.unmatchedEnd_injective h)
      by_cases hdepth : l.depth g = 0 <;> simp [hdepth, hsame, hother]

theorem count_rowOutsideTable_complaints (l : Layout) (e : Event) :
    (l.complaints e).count .rowOutsideTable =
      if e.endsRow ∧ l.depth .table = 0 then 1 else 0 := by
  have hends : ∀ families : List ItemFamily,
      (families.map ItemFamily.unmatchedEnd).count .rowOutsideTable = 0 := by
    intro families
    rw [List.count_eq_zero, List.mem_map]
    rintro ⟨f, -, h⟩
    exact f.unmatchedEnd_ne_rowOutsideTable h
  rw [complaints_eq, List.count_append, hends]
  split <;> simp

/-- No event complains about anything else. -/
theorem of_mem_complaints {l : Layout} {e : Event} {w : Warning} (h : w ∈ l.complaints e) :
    w = .rowOutsideTable ∨ ∃ f : ItemFamily, w = f.unmatchedEnd := by
  rw [complaints_eq, List.mem_append, List.mem_map] at h
  rcases h with ⟨f, -, hf⟩ | hrow
  · exact .inr ⟨f, hf.symm⟩
  · split at hrow
    · exact .inl (List.mem_singleton.mp hrow)
    · cases hrow

theorem isBalanced_iff (l : Layout) : l.isBalanced = true ↔ ∀ f, l.depth f = 0 := by
  constructor
  · intro h f
    simp only [isBalanced, Bool.and_eq_true, decide_eq_true_eq] at h
    obtain ⟨⟨⟨hlists, hdefinitions⟩, hquotations⟩, htables⟩ := h
    cases f <;> assumption
  · intro h
    have hlists : l.lists.depth = 0 := h .list
    have hdefinitions : l.definitions.depth = 0 := h .definition
    have hquotations : l.quotations.depth = 0 := h .quotation
    have htables : l.tables.depth = 0 := h .table
    simp [isBalanced, hlists, hdefinitions, hquotations, htables]

end Layout

/-! ## Runs -/

namespace Renderer

/-- What fails leaves a layout as it is and complains about nothing. -/
theorem layout_of_error {r : Renderer} {e : Event} {err : RenderError}
    (h : r.deliver e = .error err) : r.layout.after e = r.layout ∧ r.layout.complaints e = [] := by
  obtain ⟨-, hscope⟩ := deliver_eq_error_iff.mp h
  cases e with
  | leave c =>
    cases c
    case link | macroMarker => exact ⟨by simp [Layout.after, Layout.owed]; rfl, rfl⟩
    all_goals cases hscope
  | _ => cases hscope

/-- The layout moves on with every event, whether or not it fails. -/
theorem attempt_layout (r : Renderer) (e : Event) : (r.attempt e).layout = r.layout.after e := by
  cases h : r.deliver e with
  | ok next => rw [attempt_of_ok h, deliver_layout h]
  | error err => rw [attempt_of_error h, (layout_of_error h).1]

/-- Whether or not events fail, the layout after them is that of the layout alone. -/
theorem attemptAll_layout (r : Renderer) (events : List Event) :
    (r.attemptAll events).layout = events.foldl Layout.after r.layout := by
  induction events generalizing r with
  | nil => rfl
  | cons e events ih => rw [attemptAll_cons, ih, attempt_layout, List.foldl_cons]

theorem attempt_warnings (r : Renderer) (e : Event) :
    (r.attempt e).warnings = r.warnings ++ r.layout.complaints e := by
  cases h : r.deliver e with
  | ok next => rw [attempt_of_ok h, deliver_warnings h]
  | error err => rw [attempt_of_error h, (layout_of_error h).2, List.append_nil]

/-- Each of the events with the state in which it is delivered. -/
def visits (r : Renderer) : List Event → List (Renderer × Event)
  | [] => []
  | e :: events => (r, e) :: (r.attempt e).visits events

theorem attemptAll_warnings (r : Renderer) (events : List Event) :
    (r.attemptAll events).warnings =
      r.warnings ++ (r.visits events).flatMap fun visit => visit.1.layout.complaints visit.2 := by
  induction events generalizing r with
  | nil => simp [attemptAll, visits]
  | cons e events ih =>
    rw [attemptAll_cons, ih, attempt_warnings, visits, List.flatMap_cons, List.append_assoc]

/-- The depth is the height of the balance above its lowest value, and each step down of the lowest
value is a warning. -/
theorem depth_attemptAll (f : ItemFamily) (events : List Event) :
    ((initial.attemptAll events).layout.depth f : Int) = f.balance events - f.lowest events ∧
      ((initial.attemptAll events).warnings.count f.unmatchedEnd : Int) = -f.lowest events := by
  induction events using List.reverseRecOn with
  | nil => cases f <;> exact ⟨rfl, rfl⟩
  | append_singleton past e ih =>
    obtain ⟨hdepth, hcount⟩ := ih
    have hone : e.begun? = some f → e.ended? ≠ some f := by
      cases e <;> simp [Event.begun?, Event.ended?]
    have hlast : initial.attemptAll (past ++ [e]) = (initial.attemptAll past).attempt e :=
      initial.attemptAll_append past [e]
    rw [hlast, attempt_layout, attempt_warnings, Layout.depth_after, List.count_append,
      Layout.count_unmatchedEnd_complaints, f.lowest_concat, f.balance_concat]
    generalize (initial.attemptAll past).layout.depth f = depth at hdepth ⊢
    by_cases hends : e.ended? = some f
    · have hbegins : e.begun? ≠ some f := fun h => hone h hends
      rw [if_pos hends, if_pos hends, if_neg hbegins, if_neg hbegins]
      by_cases hzero : depth = 0
      · rw [if_pos ⟨hends, hzero⟩]
        omega
      · rw [if_neg fun h => hzero h.2]
        omega
    · have hquiet : ¬ (e.ended? = some f ∧ depth = 0) := fun h => hends h.1
      rw [if_neg hends, if_neg hends, if_neg hquiet]
      split <;> omega

theorem finish_warnings (r : Renderer) :
    r.finish.warnings =
      r.warnings ++ (if r.sinks.depth = 0 then [] else [.openScopes r.sinks.depth]) ++
        if r.layout.isBalanced then [] else [.openContainers] := by
  simp only [finish, warnIf_eq]
  by_cases hdepth : r.sinks.depth = 0
  · cases r.layout.isBalanced <;> simp [hdepth]
  · cases r.layout.isBalanced <;> simp [hdepth, Nat.pos_of_ne_zero hdepth]

end Renderer

/-- Whatever the events, the depth of a family and the ends of it that were turned down are told by
its balances. There is one more warning for each row that ends outside of a table, and at the end
one if a scope is open and one if a family is, and no other. -/
theorem warnings_counted (events : List Event) :
    let r := Renderer.initial.attemptAll events
    (∀ f : ItemFamily,
      (r.layout.depth f : Int) = f.balance events - f.lowest events ∧
      (r.warnings.count f.unmatchedEnd : Int) = -f.lowest events ∧
      f.unmatchedEnd.message = "end of " ++ f.title ++ " without a matching begin") ∧
    r.warnings.count .rowOutsideTable = (Renderer.initial.visits events).countP
      (fun visit => visit.2.endsRow ∧ visit.1.layout.depth .table = 0) ∧
    (∀ w ∈ r.warnings, w = .rowOutsideTable ∨ ∃ f : ItemFamily, w = f.unmatchedEnd) ∧
    (r.finish.warnings =
      r.warnings ++ (if r.sinks.depth = 0 then [] else [.openScopes r.sinks.depth]) ++
        if r.layout.isBalanced then [] else [.openContainers]) ∧
    (r.layout.isBalanced = true ↔ ∀ f, r.layout.depth f = 0) := by
  intro r
  have hwarnings : r.warnings = (Renderer.initial.visits events).flatMap
      fun visit => visit.1.layout.complaints visit.2 := Renderer.initial.attemptAll_warnings events
  refine ⟨?_, ?_, ?_, r.finish_warnings, r.layout.isBalanced_iff⟩
  · intro f
    obtain ⟨hdepth, hcount⟩ := Renderer.depth_attemptAll f events
    exact ⟨hdepth, hcount, f.unmatchedEnd_message⟩
  · rw [hwarnings]
    induction Renderer.initial.visits events with
    | nil => rfl
    | cons visit visits ih =>
      rw [List.flatMap_cons, List.count_append, ih, Layout.count_rowOutsideTable_complaints,
        List.countP_cons, Nat.add_comm]
      simp
  · intro w hw
    rw [hwarnings, List.mem_flatMap] at hw
    obtain ⟨visit, -, hmem⟩ := hw
    exact Layout.of_mem_complaints hmem

end WikiMarkup
