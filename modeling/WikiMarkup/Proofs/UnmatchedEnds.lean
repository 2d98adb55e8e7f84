-- SUMMARY: Ends that find nothing to close: each is a warning and no more, except that the end of a list also forgets a list item that stood outside of all lists.
import WikiMarkup.Proofs.Observation
import WikiMarkup.Proofs.WarningCounts

/-!
# Unmatched ends

An end is unmatched if its family has no level to leave, or, for the end of a row, if no table is
open. It gives rise to a warning. Definition lists, quotations and tables stay as they are. Lists
are cleared, as they are whenever no level is left, and that can show: a list item outside of all
lists puts flags up, and once they are cleared the next item starts no new line.

`unmatched_end` says that this is the only way in which an unmatched end can be more than its
warning, and that some document that goes on from there will show it.
-/

namespace WikiMarkup

/-! ## What an unmatched end does -/

/-- The family of which an end closes a level or, of tables, a row. -/
def Event.closes? : Event → Option ItemFamily
  | leave (.tableRow _) => some .table
  | leave c => c.family?
  | _ => none

namespace Layout

/-- Whether an event is an end that finds no level of its family open. -/
def isUnmatched (l : Layout) (e : Event) : Bool := e.closes?.any fun f => l.depth f = 0

/-- What an unmatched end is, and what is empty where it comes. -/
theorem isUnmatched_cases {l : Layout} {e : Event} (h : l.isUnmatched e = true) :
    (∃ kind p, e = .leave (.list kind p) ∧ l.lists.kinds = []) ∨
    (∃ p, e = .leave (.definitionList p) ∧ l.definitions.depth = 0) ∨
    (∃ p, e = .leave (.quotation p) ∧ l.quotations.depth = 0) ∨
    (∃ p, (e = .leave (.table p) ∨ e = .leave (.tableRow p)) ∧ l.tables.rowsEnded = []) := by
  cases e with
  | leave c =>
    cases c with
    | list kind p => exact .inl ⟨kind, p, rfl, List.length_eq_zero_iff.mp (of_decide_eq_true h)⟩
    | definitionList p => exact .inr (.inl ⟨p, rfl, of_decide_eq_true h⟩)
    | quotation p => exact .inr (.inr (.inl ⟨p, rfl, of_decide_eq_true h⟩))
    | table p =>
      exact .inr (.inr (.inr ⟨p, .inl rfl, List.length_eq_zero_iff.mp (of_decide_eq_true h)⟩))
    | tableRow p =>
      exact .inr (.inr (.inr ⟨p, .inr rfl, List.length_eq_zero_iff.mp (of_decide_eq_true h)⟩))
    | _ => cases h
  | _ => cases h

theorem kinds_of_isUnmatched {l : Layout} {e : Event} (h : l.isUnmatched e = true)
    (hlist : e.ended? = some .list) : l.lists.kinds = [] := by
  obtain ⟨kind, p, rfl, hnone⟩ | ⟨p, rfl, -⟩ | ⟨p, rfl, -⟩ | ⟨p, rfl | rfl, -⟩ :=
    isUnmatched_cases h
  case inl => exact hnone
  all_goals cases hlist

/-- Whether an event is an unmatched end that is no more than its warning: it ends no list, or there
is no flag of a list item to clear. -/
def ignores (l : Layout) (e : Event) : Prop :=
  l.isUnmatched e = true ∧ (e.ended? = some .list → l.lists.items = .initial)

instance (l : Layout) (e : Event) : Decidable (l.ignores e) :=
  inferInstanceAs (Decidable (_ ∧ (_ → _)))

/-- The layout behind an unmatched end: the end of a list leaves the lists as in the beginning. -/
def afterUnmatched (l : Layout) (e : Event) : Layout :=
  if e.ended? = some .list then { l with lists := .initial } else l

theorem afterUnmatched_eq_iff {l : Layout} {e : Event} (h : l.isUnmatched e = true) :
    l.afterUnmatched e = l ↔ l.ignores e := by
  unfold afterUnmatched
  split
  · next hlist =>
    have hkinds := kinds_of_isUnmatched h hlist
    obtain ⟨⟨kinds, items⟩, definitions, quotations, tables, begun⟩ := l
    cases hkinds
    simp only [ignores, h, hlist, Lists.initial, mk.injEq, Lists.mk.injEq, true_and, and_true,
      forall_const]
    exact eq_comm
  · next hother => exact iff_of_true rfl ⟨h, fun hlist => absurd hlist hother⟩

end Layout

namespace Renderer

variable {r : Renderer} {e : Event}

/-- An unmatched end is delivered with a warning, and nothing else but the layout can differ. -/
theorem deliver_unmatched (h : r.layout.isUnmatched e = true) :
    ∃ w, r.deliver e = .ok { r.warn w with layout := r.layout.afterUnmatched e } := by
  obtain ⟨sinks, ⟨⟨kinds, items⟩, ⟨definitions, _⟩, ⟨quotations, _⟩, ⟨rows⟩, begun⟩, pending,
    warnings⟩ := r
  obtain ⟨kind, p, rfl, hnone⟩ | ⟨p, rfl, hnone⟩ | ⟨p, rfl, hnone⟩ | ⟨p, rfl | rfl, hnone⟩ :=
    Layout.isUnmatched_cases h
  all_goals
    cases hnone
    exact ⟨_, rfl⟩

end Renderer

/-! ## Stray list items -/

/-- Whether an event begins or ends an item of a family. -/
def Event.ofItem (f : ItemFamily) : Event → Bool
  | enter c | leave c => c.home? = some f
  | content _ => false

/-- Whether the last event of the family begins or ends an item. -/
def ItemFamily.lastOfItem (f : ItemFamily) (past : List Event) : Bool :=
  ((past.filter (·.concerns f)).getLast?).any (·.ofItem f)

theorem ItemFamily.lastOfItem_concat (f : ItemFamily) (past : List Event) (e : Event) :
    f.lastOfItem (past ++ [e]) = if e.concerns f then e.ofItem f else f.lastOfItem past := by
  cases h : e.concerns f <;> simp [lastOfItem, List.filter_append, h]

namespace Lists

theorem after_other {e : Event} (h : e.concerns .list = false) (l : Lists) : l.after e = l := by
  cases e with
  | enter c =>
    cases c
    case list | listItem => cases h
    all_goals rfl
  | leave c =>
    cases c
    case list | listItem => cases h
    all_goals rfl
  | content c => rfl

/-- An event of lists that leaves none open clears the flags of the items, unless it puts one up. -/
theorem after_items_iff {l : Lists} {e : Event} (hconcerns : e.concerns .list = true)
    (h : (l.after e).kinds = []) : (l.after e).items = .initial ↔ e.ofItem .list = false := by
  cases e with
  | enter c =>
    cases c
    case list kind p => cases h
    case listItem => exact iff_of_false (fun hitems => by cases hitems) (by decide)
    all_goals cases hconcerns
  | leave c =>
    cases c
    case list kind p =>
      have hcleared : l.leave.items = .initial := by
        obtain ⟨_ | ⟨inner, _ | ⟨outer, kinds⟩⟩, items⟩ := l
        · rfl
        · rfl
        · cases h
      exact iff_of_true hcleared rfl
    case listItem =>
      have hended : (l.after (.leave .listItem)).items.ended = true := rfl
      refine iff_of_false (fun hitems => ?_) (by decide)
      rw [hitems] at hended
      cases hended
    all_goals cases hconcerns
  | content c => cases hconcerns

/-- Where no list is open, the flags of list items are those of the beginning, unless the last event
of lists was the begin or the end of an item. -/
theorem foldl_items_iff (past : List Event) (h : (past.foldl after initial).kinds = []) :
    (past.foldl after initial).items = .initial ↔ ItemFamily.list.lastOfItem past = false := by
  induction past using List.reverseRecOn with
  | nil => exact ⟨fun _ => rfl, fun _ => rfl⟩
  | append_singleton past e ih =>
    rw [List.foldl_append] at h ⊢
    rw [ItemFamily.lastOfItem_concat]
    cases hconcerns : e.concerns .list with
    | true => exact after_items_iff hconcerns h
    | false =>
      change (after _ e).kinds = [] at h
      change (after _ e).items = .initial ↔ _
      rw [after_other hconcerns] at h ⊢
      exact ih h

end Lists

theorem Layout.foldl_lists (l : Layout) (events : List Event) :
    (events.foldl after l).lists = events.foldl Lists.after l.lists := by
  induction events generalizing l with
  | nil => rfl
  | cons e events ih => exact ih (l.after e)

/-- Where no list is open, the events tell whether a stray item has left a flag up. -/
theorem Renderer.lists_items_iff {past : List Event}
    (h : (initial.attemptAll past).layout.lists.kinds = []) :
    (initial.attemptAll past).layout.lists.items = .initial ↔
      ItemFamily.list.lastOfItem past = false := by
  rw [attemptAll_layout, Layout.foldl_lists] at h ⊢
  exact Lists.foldl_items_iff past h

/-- The flags of the beginning have no other flags that are as good as they are. -/
theorem Items.eq_initial_of_normal {i : Items} (h : i.normal = initial.normal) : i = initial := by
  obtain ⟨_ | _, _ | _⟩ := i
  · rfl
  all_goals cases h

/-! ## Leaving unmatched ends out -/

namespace Renderer

variable {r r₁ r₂ : Renderer} {e : Event}

/-- An ignored end is delivered with a warning and changes nothing else. -/
theorem deliver_ignored (h : r.layout.ignores e) : ∃ w, r.deliver e = .ok (r.warn w) := by
  obtain ⟨w, hw⟩ := deliver_unmatched h.1
  rw [(Layout.afterUnmatched_eq_iff h.1).mpr h] at hw
  exact ⟨w, hw⟩

theorem observed_attempt (h : r₁.observed = r₂.observed) (e : Event) :
    (r₁.attempt e).observed = (r₂.attempt e).observed := by
  obtain ⟨err, h₁, h₂⟩ | ⟨s₁, s₂, h₁, h₂, hnext⟩ := observed_deliver_cases h e
  · rw [attempt_of_error h₁, attempt_of_error h₂]
    exact h
  · rw [attempt_of_ok h₁, attempt_of_ok h₂]
    exact hnext

theorem observed_attemptAll (h : r₁.observed = r₂.observed) (events : List Event) :
    (r₁.attemptAll events).observed = (r₂.attemptAll events).observed := by
  induction events generalizing r₁ r₂ with
  | nil => exact h
  | cons e events ih => exact ih (observed_attempt h e)

/-- Of what is rendered the text can be observed. -/
theorem render_text_eq (events : List Event) :
    (render events).map Rendered.text =
      ((initial.deliverAll events).map observed).map fun s => s.sinks.base := by
  cases h : initial.deliverAll events with
  | error err => rw [render_eq_error_iff_deliverAll.mpr h]; rfl
  | ok r =>
    rw [render_eq_ok_iff.mpr ⟨r, h, rfl⟩]
    exact congrArg Except.ok r.finish_text

/-- The events without the unmatched ends that are ignored. -/
def heeded (r : Renderer) : List Event → List Event
  | [] => []
  | e :: events =>
    if r.layout.ignores e then (r.attempt e).heeded events else e :: (r.attempt e).heeded events

theorem attemptAll_heeded (h : r₁.observed = r₂.observed) (events : List Event) :
    (r₁.attemptAll (r₂.heeded events)).observed = (r₂.attemptAll events).observed := by
  induction events generalizing r₁ r₂ with
  | nil => exact h
  | cons e events ih =>
    rw [heeded, attemptAll_cons]
    split
    · next hignored =>
      obtain ⟨w, hw⟩ := deliver_ignored hignored
      rw [attempt_of_ok hw]
      exact ih h
    · exact ih (observed_attempt h e)

theorem deliverAll_heeded (h : r₁.observed = r₂.observed) (events : List Event) :
    (r₁.deliverAll (r₂.heeded events)).map observed = (r₂.deliverAll events).map observed := by
  induction events generalizing r₁ r₂ with
  | nil => exact congrArg Except.ok h
  | cons e events ih =>
    rw [heeded, deliverAll_cons]
    split
    · next hignored =>
      obtain ⟨w, hw⟩ := deliver_ignored hignored
      rw [attempt_of_ok hw, hw]
      exact ih h
    · rw [deliverAll_cons]
      obtain ⟨err, h₁, h₂⟩ | ⟨s₁, s₂, h₁, h₂, hnext⟩ := observed_deliver_cases h e
      · rw [h₁, h₂]
        rfl
      · rw [attempt_of_ok h₂, h₁, h₂]
        exact ih hnext

/-- What follows tells an unmatched end from no event at all unless it is ignored. -/
theorem unmatched_text_iff {next : Renderer} (h : r.layout.isUnmatched e = true)
    (hnext : r.deliver e = .ok next) :
    (∀ post, (next.attemptAll post).finish.text = (r.attemptAll post).finish.text) ↔
      r.layout.ignores e := by
  constructor
  · intro hsame
    refine ⟨h, fun hlist => ?_⟩
    have hindistinct : Indistinct next r := by
      intro events s₁ s₂ h₁ h₂
      have htext := hsame events
      rwa [attemptAll_of_ok h₁, attemptAll_of_ok h₂, finish_text, finish_text] at htext
    have hkinds := Layout.kinds_of_isUnmatched h hlist
    obtain ⟨w, hw⟩ := deliver_unmatched h
    rw [hnext, Layout.afterUnmatched, if_pos hlist] at hw
    cases hw
    obtain ⟨base, hbare⟩ := Indistinct.closed rfl rfl hindistinct
    have hnormal := hbare.normal_layout (hkinds.symm) rfl rfl rfl
    have hitems : Items.initial.normal = r.layout.lists.items.normal :=
      congrArg (fun l => l.lists.items) hnormal
    exact Items.eq_initial_of_normal hitems.symm
  · intro hignored post
    obtain ⟨w, hw⟩ := deliver_ignored hignored
    rw [hnext] at hw
    cases hw
    have hobserved : (r.warn w).observed = r.observed := rfl
    rw [finish_text, finish_text]
    exact congrArg (fun s => s.sinks.base) (observed_attemptAll hobserved post)

theorem ignores_iff {past : List Event}
    (h : (initial.attemptAll past).layout.isUnmatched e = true) :
    (initial.attemptAll past).layout.ignores e ↔
      (e.ended? = some .list → ItemFamily.list.lastOfItem past = false) := by
  have hitems : e.ended? = some .list →
      ((initial.attemptAll past).layout.lists.items = .initial ↔
        ItemFamily.list.lastOfItem past = false) :=
    fun hlist => lists_items_iff (Layout.kinds_of_isUnmatched h hlist)
  constructor
  · intro hignored hlist
    exact (hitems hlist).mp (hignored.2 hlist)
  · intro hstray
    exact ⟨h, fun hlist => (hitems hlist).mpr (hstray hlist)⟩

end Renderer

/-- Behind any events an unmatched end is delivered with a warning, and the end of a list clears the
lists besides. It is no more than the warning, and makes no difference to the text of any document
that goes on from there, if and only if it is not the end of a list behind the begin or the end of a
stray list item. Without the ends of which this holds the events have the same text. -/
theorem unmatched_end (past : List Event) :
    let r := Renderer.initial.attemptAll past
    (∀ e, r.layout.isUnmatched e = true →
      (r.layout.ignores e ↔ (e.ended? = some .list → ItemFamily.list.lastOfItem past = false)) ∧
      ∃ w next, r.deliver e = .ok next ∧
        next = { r.warn w with layout := r.layout.afterUnmatched e } ∧
        (next = r.warn w ↔ r.layout.ignores e) ∧
        ((∀ post, (Renderer.initial.attemptAll (past ++ e :: post)).finish.text =
          (Renderer.initial.attemptAll (past ++ post)).finish.text) ↔ r.layout.ignores e)) ∧
    (Renderer.initial.attemptAll (Renderer.initial.heeded past)).finish.text = r.finish.text ∧
    (render (Renderer.initial.heeded past)).map Rendered.text =
      (render past).map Rendered.text := by
  intro r
  refine ⟨fun e h => ?_, ?_, ?_⟩
  · obtain ⟨w, hw⟩ := Renderer.deliver_unmatched h
    refine ⟨Renderer.ignores_iff h, w, _, hw, rfl, ?_, ?_⟩
    · rw [← Layout.afterUnmatched_eq_iff h]
      exact ⟨congrArg Renderer.layout, fun hsame => by rw [hsame]; rfl⟩
    · rw [← Renderer.unmatched_text_iff h hw]
      apply forall_congr'
      intro post
      rw [Renderer.attemptAll_append, Renderer.attemptAll_append, Renderer.attemptAll_cons,
        Renderer.attempt_of_ok hw]
  · rw [Renderer.finish_text, Renderer.finish_text]
    exact congrArg (fun s => s.sinks.base) (Renderer.attemptAll_heeded rfl past)
  · rw [Renderer.render_text_eq, Renderer.render_text_eq, Renderer.deliverAll_heeded rfl past]

/-- The end of a quotation behind a stray list item is no more than its warning. -/
theorem unmatched_end_quotation :
    let past : List Event := [.enter .listItem, .content (.word "a"), .leave .listItem]
    let r := Renderer.initial.attemptAll past
    r.layout.isUnmatched (.leave (.quotation .empty)) = true ∧
      ∃ w, r.deliver (.leave (.quotation .empty)) = .ok (r.warn w) ∧
        ∀ post, (Renderer.initial.attemptAll
            (past ++ .leave (.quotation .empty) :: post)).finish.text =
          (Renderer.initial.attemptAll (past ++ post)).finish.text := by
  intro past r
  have h : r.layout.isUnmatched (.leave (.quotation .empty)) = true := by rfl
  obtain ⟨hiff, w, next, hnext, -, hwarn, htext⟩ := (unmatched_end past).1 _ h
  have hignored : r.layout.ignores (.leave (.quotation .empty)) := hiff.mpr nofun
  refine ⟨h, w, ?_, htext.mpr hignored⟩
  rw [hnext, hwarn.mpr hignored]

/-- The end of a list is more than its warning behind a stray list item: with it the next item does
not start a new line. -/
theorem unmatched_list_end_shows :
    ¬ ∀ (past post : List Event) (e : Event),
      (Renderer.initial.attemptAll past).layout.isUnmatched e = true →
        (Renderer.initial.attemptAll (past ++ e :: post)).finish.text =
          (Renderer.initial.attemptAll (past ++ post)).finish.text := by
  intro h
  have htext := h [.enter .listItem, .content (.word "a"), .leave .listItem]
    [.enter .listItem, .content (.word "b")] (.leave (.list .bulleted .empty)) (by rfl)
  exact absurd htext (by decide)

end WikiMarkup
