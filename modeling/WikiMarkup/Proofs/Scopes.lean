-- SUMMARY: When delivery fails, and that a failure changes nothing: for one event, for a list by counting, and for a list whose failures are ignored.
import WikiMarkup.Proofs.Frame

/-!
# Scopes

The begin of a link or of a macro marker opens a scope. The end of either closes the innermost one,
whichever of the two opened it, so only the number of open scopes decides whether an end fails. A
list of events therefore fails where its ends first outnumber its begins.

That a failing event changes nothing cannot be read off a result that is either a state or an error.
`deliverInPlace` makes one change after the other, and would keep what it has changed when it fails.
-/

namespace WikiMarkup

/-! ## Opening and closing -/

namespace Event

/-- Whether an event opens a scope. -/
def opensScope : Event → Bool
  | enter c => c.opensScope
  | _ => false

/-- Whether an event closes a scope. -/
def closesScope : Event → Bool
  | leave c => c.opensScope
  | _ => false

/-- What an event that closes a scope calls it. -/
def closedScope? : Event → Option String
  | leave (.link _ _ _) => some "capture"
  | leave (.macroMarker _) => some "discard"
  | _ => none

theorem closesScope_iff {e : Event} :
    e.closesScope = true ↔ ∃ name, e.closedScope? = some name := by
  cases e with
  | enter c => simp [closesScope, closedScope?]
  | leave c => cases c <;> simp [closesScope, closedScope?, Container.opensScope]
  | content c => simp [closesScope, closedScope?]

end Event

/-- What an error calls the scope that is missing. -/
def RenderError.scope : RenderError → String
  | noLabelScope => "capture"
  | noExpansionScope => "discard"

theorem RenderError.message_eq (err : RenderError) :
    err.message = "output sink stack underflow: no " ++ err.scope ++ " sink to close" := by
  cases err <;> simp [message, scope]

/-- The events close more scopes than they open. -/
def Overclosed (events : List Event) : Prop :=
  events.countP Event.opensScope < events.countP Event.closesScope

theorem RenderError.scope_injective {err err' : RenderError} (h : err.scope = err'.scope) :
    err = err' := by
  cases err <;> cases err' <;> simp [scope] at h ⊢

namespace Sinks

theorem leave?_eq_none_iff {s : Sinks} : s.leave? = none ↔ s.depth = 0 := by
  obtain ⟨base, scopes⟩ := s
  cases scopes <;> simp [leave?, depth]

theorem depth_enter (s : Sinks) (sink : Sink) : (s.enter sink).depth = s.depth + 1 := rfl

theorem depth_leave? {s s' : Sinks} {kept : String} (h : s.leave? = some (kept, s')) :
    s.depth = s'.depth + 1 := by
  obtain ⟨base, scopes⟩ := s
  cases scopes with
  | nil => cases h
  | cons top below =>
    cases h
    rfl

theorem Extends.depth_eq {start s : Sinks} (h : start.Extends s) : s.depth = start.depth := by
  obtain ⟨text, rfl⟩ := h
  obtain ⟨base, scopes⟩ := start
  cases scopes <;> rfl

end Sinks

namespace Renderer

/-! ## One event -/

theorem deliver_closing {r : Renderer} {e : Event} (hempty : r.sinks.depth = 0)
    (hcloses : e.closesScope = true) :
    ∃ err : RenderError, r.deliver e = .error err ∧ e.closedScope? = some err.scope := by
  have hleave : r.sinks.leave? = none := Sinks.leave?_eq_none_iff.mpr hempty
  cases e with
  | enter c => simp [Event.closesScope] at hcloses
  | content c => simp [Event.closesScope] at hcloses
  | leave c =>
    cases c
    case link l freeStanding p =>
      exact ⟨.noLabelScope, by simp [deliver, Renderer.leave, leaveLink, hleave], rfl⟩
    case macroMarker call =>
      exact ⟨.noExpansionScope, by simp [deliver, Renderer.leave, leaveMacroMarker, hleave], rfl⟩
    all_goals simp [Event.closesScope, Container.opensScope] at hcloses

/-- What an event can do to the sinks. -/
theorem deliver_cases (r : Renderer) (e : Event) :
    (e.opensScope = true ∧ e.closesScope = false ∧
      ∃ r' s sink, r.deliver e = .ok r' ∧ r.sinks.Extends s ∧ r'.sinks = s.enter sink) ∨
    (e.opensScope = false ∧ e.closesScope = true ∧ r.sinks.depth = 0 ∧
      ∃ err : RenderError, r.deliver e = .error err ∧ e.closedScope? = some err.scope) ∨
    (e.opensScope = false ∧ e.closesScope = true ∧
      ∃ kept s r', r.sinks.leave? = some (kept, s) ∧ r.deliver e = .ok r' ∧ s.Extends r'.sinks) ∨
    (e.opensScope = false ∧ e.closesScope = false ∧
      ∃ r', r.deliver e = .ok r' ∧ r.sinks.Extends r'.sinks) := by
  cases e with
  | enter c =>
    obtain ⟨r', s, hr', hs, hscope⟩ := r.deliver_enter c
    cases hc : c.opensScope with
    | true =>
      obtain ⟨sink, hsink⟩ := (if_pos hc).mp hscope
      exact .inl ⟨hc, rfl, r', s, sink, hr', hs, hsink⟩
    | false =>
      have hsame : r'.sinks = s := (if_neg (by simp [hc])).mp hscope
      exact .inr (.inr (.inr ⟨hc, rfl, r', hr', hsame ▸ hs⟩))
  | leave c =>
    cases hc : c.opensScope with
    | true =>
      cases hleave : r.sinks.leave? with
      | none =>
        have hempty := Sinks.leave?_eq_none_iff.mp hleave
        exact .inr (.inl ⟨rfl, hc, hempty, deliver_closing hempty hc⟩)
      | some found =>
        obtain ⟨kept, s⟩ := found
        obtain ⟨r', hr', hext⟩ := deliver_leave (c := c) ((if_pos hc).mpr ⟨kept, hleave⟩)
        exact .inr (.inr (.inl ⟨rfl, hc, kept, s, r', rfl, hr', hext⟩))
    | false =>
      obtain ⟨r', hr', hext⟩ := deliver_leave (r := r) (c := c) ((if_neg (by simp [hc])).mpr rfl)
      exact .inr (.inr (.inr ⟨rfl, hc, r', hr', hext⟩))
  | content c =>
    obtain ⟨r', hr', hext⟩ := r.deliver_content c
    exact .inr (.inr (.inr ⟨rfl, rfl, r', hr', hext⟩))

/-- An event fails exactly if it closes a scope and none is open. -/
theorem deliver_eq_error_iff {r : Renderer} {e : Event} {err : RenderError} :
    r.deliver e = .error err ↔ r.sinks.depth = 0 ∧ e.closedScope? = some err.scope := by
  constructor
  · intro h
    obtain ⟨-, -, r', -, -, hr', -⟩ | ⟨-, -, hempty, err', herr', hname⟩ |
      ⟨-, -, -, -, r', -, hr', -⟩ | ⟨-, -, r', hr', -⟩ := r.deliver_cases e
    · rw [hr'] at h
      cases h
    · rw [herr'] at h
      cases h
      exact ⟨hempty, hname⟩
    · rw [hr'] at h
      cases h
    · rw [hr'] at h
      cases h
  · intro h
    obtain ⟨hempty, hname⟩ := h
    obtain ⟨err', herr', hname'⟩ := deliver_closing hempty (Event.closesScope_iff.mpr ⟨_, hname⟩)
    rw [hname, Option.some.injEq] at hname'
    rw [RenderError.scope_injective hname', herr']

/-- A delivered event moves the number of open scopes by what it opens or closes. -/
theorem deliver_depth {r r' : Renderer} {e : Event} (h : r.deliver e = .ok r') :
    r'.sinks.depth + [e].countP Event.closesScope =
      r.sinks.depth + [e].countP Event.opensScope := by
  obtain ⟨hopens, hcloses, r', s, sink, hr', hs, hsink⟩ | ⟨-, -, -, err, herr, -⟩ |
    ⟨hopens, hcloses, kept, s, r', hleave, hr', hs⟩ | ⟨hopens, hcloses, r', hr', hs⟩ :=
      r.deliver_cases e
  · rw [h] at hr'
    cases hr'
    simp [hopens, hcloses, hsink, Sinks.depth_enter, hs.depth_eq]
  · rw [h] at herr
    cases herr
  · rw [h] at hr'
    cases hr'
    simp [hopens, hcloses, hs.depth_eq, Sinks.depth_leave? hleave]
  · rw [h] at hr'
    cases hr'
    simp [hopens, hcloses, hs.depth_eq]

/-! ## Lists of events -/

/-- After a delivered list the open scopes are those it opened and did not close. -/
theorem deliverAll_depth {r r' : Renderer} {events : List Event}
    (h : r.deliverAll events = .ok r') :
    r'.sinks.depth + events.countP Event.closesScope =
      r.sinks.depth + events.countP Event.opensScope := by
  induction events generalizing r with
  | nil =>
    cases h
    rfl
  | cons e events ih =>
    rw [deliverAll_cons] at h
    cases he : r.deliver e with
    | error err =>
      rw [he] at h
      cases h
    | ok next =>
      rw [he] at h
      have hhead := deliver_depth he
      have htail := ih h
      rw [← List.singleton_append, List.countP_append, List.countP_append]
      omega

/-- A list fails with the error of an event before which everything is delivered. -/
theorem deliverAll_eq_error_iff {r : Renderer} {events : List Event} {err : RenderError} :
    r.deliverAll events = .error err ↔
      ∃ past e r', past ++ [e] <+: events ∧ r.deliverAll past = .ok r' ∧
        r'.deliver e = .error err := by
  constructor
  · intro h
    induction events generalizing r with
    | nil => cases h
    | cons e events ih =>
      rw [deliverAll_cons] at h
      cases he : r.deliver e with
      | error failure =>
        rw [he] at h
        cases h
        exact ⟨[], e, r, ⟨events, rfl⟩, rfl, he⟩
      | ok next =>
        rw [he] at h
        obtain ⟨past, last, r', hprefix, hpast, hlast⟩ := ih h
        refine ⟨e :: past, last, r', ?_, ?_, hlast⟩
        · exact List.cons_prefix_cons.mpr ⟨rfl, hprefix⟩
        · rw [deliverAll_cons, he]
          exact hpast
  · intro h
    obtain ⟨past, e, r', ⟨rest, rfl⟩, hpast, hlast⟩ := h
    rw [List.append_assoc, deliverAll_append_of_ok hpast, List.singleton_append, deliverAll_cons,
      hlast]
    rfl

end Renderer

/-! ## Counting -/

theorem render_eq_error_iff_deliverAll {events : List Event} {err : RenderError} :
    render events = .error err ↔ Renderer.initial.deliverAll events = .error err := by
  cases h : Renderer.initial.deliverAll events with
  | error failure => simp [render, h, bind, Except.bind]
  | ok r => simp [render, h, bind, Except.bind]

/-- A list that is delivered from the beginning is nowhere overclosed. -/
theorem not_overclosed_of_deliverAll {r : Renderer} {events past : List Event}
    (h : Renderer.initial.deliverAll events = .ok r) (hpast : past <+: events) :
    ¬ Overclosed past := by
  obtain ⟨rest, rfl⟩ := hpast
  rw [Renderer.deliverAll_append] at h
  cases hrun : Renderer.initial.deliverAll past with
  | error err =>
    rw [hrun] at h
    cases h
  | ok next =>
    have hdepth : next.sinks.depth + past.countP Event.closesScope =
        0 + past.countP Event.opensScope := Renderer.deliverAll_depth hrun
    unfold Overclosed
    omega

/-- One more event makes a list overclosed exactly if it closes a scope and none is open. -/
theorem overclosed_append_iff {r : Renderer} {past : List Event} {e : Event}
    (h : Renderer.initial.deliverAll past = .ok r) :
    Overclosed (past ++ [e]) ↔ r.sinks.depth = 0 ∧ e.closesScope = true := by
  have hdepth : r.sinks.depth + past.countP Event.closesScope =
      0 + past.countP Event.opensScope := Renderer.deliverAll_depth h
  have hexclusive : e.closesScope = true → e.opensScope = false := by
    cases e <;> simp [Event.closesScope, Event.opensScope]
  simp only [Overclosed, List.countP_append, List.countP_singleton]
  cases hcloses : e.closesScope with
  | true =>
    rw [hexclusive hcloses]
    simp only [Bool.false_eq_true, if_false, if_true, and_true]
    omega
  | false =>
    simp only [Bool.false_eq_true, if_false, and_false, iff_false]
    split <;> omega

/-- Rendering fails at the first event with which the list is overclosed. -/
theorem render_eq_error_iff {events : List Event} {err : RenderError} :
    render events = .error err ↔
      ∃ past e, past ++ [e] <+: events ∧ (∀ earlier, earlier <+: past → ¬ Overclosed earlier) ∧
        Overclosed (past ++ [e]) ∧ e.closedScope? = some err.scope := by
  rw [render_eq_error_iff_deliverAll, Renderer.deliverAll_eq_error_iff]
  constructor
  · intro h
    obtain ⟨past, e, r, hprefix, hpast, hfails⟩ := h
    obtain ⟨hempty, hname⟩ := Renderer.deliver_eq_error_iff.mp hfails
    have hcloses := Event.closesScope_iff.mpr ⟨_, hname⟩
    have hover := (overclosed_append_iff hpast).mpr ⟨hempty, hcloses⟩
    exact ⟨past, e, hprefix, fun earlier => not_overclosed_of_deliverAll hpast, hover, hname⟩
  · intro h
    obtain ⟨past, e, hprefix, hearlier, hover, hname⟩ := h
    cases hpast : Renderer.initial.deliverAll past with
    | error failure =>
      -- An event of `past` would fail, and with it `past` would be overclosed before its end.
      obtain ⟨before, last, r, hbefore, hrun, hfails⟩ :=
        Renderer.deliverAll_eq_error_iff.mp hpast
      obtain ⟨hempty, hlast⟩ := Renderer.deliver_eq_error_iff.mp hfails
      have hcloses := Event.closesScope_iff.mpr ⟨_, hlast⟩
      exact absurd ((overclosed_append_iff hrun).mpr ⟨hempty, hcloses⟩) (hearlier _ hbefore)
    | ok r =>
      have hempty := ((overclosed_append_iff hpast).mp hover).1
      exact ⟨past, e, r, hprefix, hpast, Renderer.deliver_eq_error_iff.mpr ⟨hempty, hname⟩⟩

/-- Rendering fails exactly if some part at the front of the list is overclosed. -/
theorem render_fails_iff {events : List Event} :
    (∃ err, render events = .error err) ↔ ∃ past, past <+: events ∧ Overclosed past := by
  constructor
  · intro h
    obtain ⟨err, herr⟩ := h
    obtain ⟨past, e, hprefix, -, hover, -⟩ := render_eq_error_iff.mp herr
    exact ⟨past ++ [e], hprefix, hover⟩
  · intro h
    obtain ⟨past, hprefix, hover⟩ := h
    cases hrun : Renderer.initial.deliverAll events with
    | error err => exact ⟨err, render_eq_error_iff_deliverAll.mpr hrun⟩
    | ok r => exact absurd hover (not_overclosed_of_deliverAll hrun hprefix)

namespace Renderer

/-! ## Ignored failures -/

/-- The events that are delivered when failures are ignored: all but those that fail. -/
def accepted (r : Renderer) : List Event → List Event
  | [] => []
  | e :: events =>
    match r.deliver e with
    | .ok next => e :: next.accepted events
    | .error _ => r.accepted events

theorem attempt_of_ok {r r' : Renderer} {e : Event} (h : r.deliver e = .ok r') :
    r.attempt e = r' := by
  rw [attempt, h]

theorem attempt_of_error {r : Renderer} {e : Event} {err : RenderError}
    (h : r.deliver e = .error err) : r.attempt e = r := by
  rw [attempt, h]

theorem attemptAll_cons (r : Renderer) (e : Event) (events : List Event) :
    r.attemptAll (e :: events) = (r.attempt e).attemptAll events := rfl

/-- Where nothing fails, nothing is ignored. -/
theorem attemptAll_of_ok {r r' : Renderer} {events : List Event}
    (h : r.deliverAll events = .ok r') : r.attemptAll events = r' := by
  induction events generalizing r with
  | nil =>
    cases h
    rfl
  | cons e events ih =>
    rw [deliverAll_cons] at h
    cases he : r.deliver e with
    | error err =>
      rw [he] at h
      cases h
    | ok next =>
      rw [he] at h
      rw [attemptAll_cons, attempt_of_ok he]
      exact ih h

/-- Ignoring failures is the same as delivering only the events that do not fail. -/
theorem deliverAll_accepted (r : Renderer) (events : List Event) :
    r.deliverAll (r.accepted events) = .ok (r.attemptAll events) := by
  induction events generalizing r with
  | nil => rfl
  | cons e events ih =>
    cases he : r.deliver e with
    | ok next =>
      simp only [accepted, he]
      rw [deliverAll_cons, he, attemptAll_cons, attempt_of_ok he]
      exact ih next
    | error err =>
      simp only [accepted, he]
      rw [attemptAll_cons, attempt_of_error he]
      exact ih r

/-- The text and the warnings with failures ignored are those of the events that do not fail. -/
theorem render_accepted (events : List Event) :
    render (initial.accepted events) = .ok (initial.attemptAll events).finish :=
  render_eq_ok_iff.mpr ⟨_, deliverAll_accepted initial events, rfl⟩

/-! ## Delivery in place -/

/-- A change of the state in place. What was changed before a failure stays changed. -/
abbrev InPlace (α : Type) := EStateM RenderError Renderer α

/-- Closes the innermost scope and gives what it has kept. -/
def takeScope (failure : RenderError) : InPlace String := do
  match (← get).sinks.leave? with
  | none => throw failure
  | some (kept, sinks) =>
    modify fun r => { r with sinks }
    return kept

/-- Delivers an event in place. Of the ends, only those that close a scope can fail. -/
def deliverInPlace : Event → InPlace Unit
  | .enter c => modify (enter c)
  | .content c => modify (write c)
  | .leave (.link l freeStanding p) => do
    let label ← takeScope .noLabelScope
    modify (print (l.labelled freeStanding label))
    modify (print (l.closing freeStanding p))
  | .leave (.macroMarker call) => do
    let _ ← takeScope .noExpansionScope
    modify (print call.written)
  | .leave c => modify fun r => r.attempt (.leave c)

theorem takeScope_eq (failure : RenderError) (r : Renderer) :
    takeScope failure r =
      match r.sinks.leave? with
      | none => .error failure r
      | some (kept, sinks) => .ok kept { r with sinks } := by
  change (match r.sinks.leave? with
    | none => throw failure
    | some (kept, sinks) => do
      modify fun r => { r with sinks }
      return kept : InPlace String) r = _
  cases r.sinks.leave? <;> rfl

/-- Delivery in place fails where delivery does, with the state as it was. -/
theorem deliverInPlace_eq (e : Event) (r : Renderer) :
    deliverInPlace e r =
      match r.deliver e with
      | .ok next => .ok () next
      | .error err => .error err r := by
  cases e with
  | enter c => rfl
  | content c => rfl
  | leave c =>
    cases c
    case link l freeStanding p =>
      simp only [deliverInPlace, bind, EStateM.bind, takeScope_eq, deliver, Renderer.leave,
        leaveLink]
      cases r.sinks.leave? <;> rfl
    case macroMarker call =>
      simp only [deliverInPlace, bind, EStateM.bind, takeScope_eq, deliver, Renderer.leave,
        leaveMacroMarker]
      cases r.sinks.leave? <;> rfl
    all_goals rfl

end Renderer

/-! ## All of it together -/

/-- Only an end without a scope to close fails. It changes nothing and names the scope it misses. A
list fails where its ends first outnumber its begins, and ignoring failures is leaving them out. -/
theorem delivery_failure :
    (∀ (r left : Renderer) (e : Event) (err : RenderError),
      (r.deliver e = .error err ↔ r.sinks.depth = 0 ∧ e.closedScope? = some err.scope) ∧
      (Renderer.deliverInPlace e r = .error err left ↔ r.deliver e = .error err ∧ left = r)) ∧
    (∀ err : RenderError,
      err.message = "output sink stack underflow: no " ++ err.scope ++ " sink to close") ∧
    (∀ events, (∃ err, render events = .error err) ↔ ∃ past, past <+: events ∧ Overclosed past) ∧
    (∀ events err, render events = .error err ↔
      ∃ past e, past ++ [e] <+: events ∧ (∀ earlier, earlier <+: past → ¬ Overclosed earlier) ∧
        Overclosed (past ++ [e]) ∧ e.closedScope? = some err.scope) ∧
    (∀ (r : Renderer) (events : List Event),
      r.deliverAll (r.accepted events) = .ok (r.attemptAll events)) ∧
    (∀ events : List Event, render (Renderer.initial.accepted events) =
      .ok (Renderer.initial.attemptAll events).finish) := by
  refine ⟨?_, RenderError.message_eq, fun _ => render_fails_iff, fun _ _ => render_eq_error_iff,
    Renderer.deliverAll_accepted, Renderer.render_accepted⟩
  intro r left e err
  refine ⟨Renderer.deliver_eq_error_iff, ?_⟩
  rw [Renderer.deliverInPlace_eq]
  cases hrun : r.deliver e with
  | ok next => simp
  | error failure =>
    simp only [EStateM.Result.error.injEq, Except.error.injEq]
    exact and_congr_right fun _ => eq_comm

end WikiMarkup
