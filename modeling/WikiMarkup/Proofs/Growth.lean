-- SUMMARY: Text is only appended: sinks below the active one stay as they are, and what is rendered so far stands at the front of all that is rendered later.
import WikiMarkup.Proofs.Scopes
import WikiMarkup.Render.Trace

/-!
# Growth

As long as a run closes no scope that was open at its start, it appends to the sink that was active
there, and puts what scopes it opens on top. The sinks below it are out of reach. The base is below
all others, so its text grows whatever the events close: an end that closes a scope from before the
run appends to the sink below it, and one that finds no scope fails.
-/

namespace WikiMarkup

namespace Sinks

/-! ## All sinks -/

/-- The sinks from the innermost to the base. -/
def all (s : Sinks) : List Sink := s.scopes ++ [.collect s.base]

variable {start s s' : Sinks} {n : Nat}

theorem exists_active (s : Sinks) : ∃ active below, s.all = active :: below := by
  obtain ⟨base, scopes⟩ := s
  cases scopes with
  | nil => exact ⟨_, _, rfl⟩
  | cons top below => exact ⟨_, _, rfl⟩

/-- Writing appends to the active sink. -/
theorem all_write {active : Sink} {below : List Sink} (h : s.all = active :: below)
    (text : String) : (s.write text).all = active.write text :: below := by
  obtain ⟨base, scopes⟩ := s
  cases scopes with
  | nil =>
    cases h
    rfl
  | cons top scopes =>
    cases h
    rfl

theorem StandsOn.all_eq {active : Sink} {below : List Sink} (h : start.StandsOn n s)
    (hall : start.all = active :: below) :
    ∃ above text, s.all = above ++ active.write text :: below := by
  obtain ⟨middle, above, ⟨text, rfl⟩, -, rfl⟩ := h
  refine ⟨above, text, ?_⟩
  rw [← all_write hall text, all, all, List.append_assoc]

theorem StandsOn.depth_eq (h : start.StandsOn n s) : s.depth = start.depth + n := by
  obtain ⟨middle, above, hext, hlen, rfl⟩ := h
  have hmiddle : middle.scopes.length = start.depth := hext.depth_eq
  simp only [depth, List.length_append, hlen, hmiddle]
  exact Nat.add_comm n _

/-! ## The base -/

theorem base_write (s : Sinks) (text : String) :
    ∃ added, (s.write text).base = s.base ++ added := by
  obtain ⟨base, scopes⟩ := s
  cases scopes with
  | nil => exact ⟨text, rfl⟩
  | cons top below => exact ⟨"", by simp [write]⟩

theorem base_leave? {kept : String} (h : s.leave? = some (kept, s')) : s'.base = s.base := by
  obtain ⟨base, scopes⟩ := s
  cases scopes with
  | nil => cases h
  | cons top below =>
    cases h
    rfl

theorem Extends.base_eq (h : start.Extends s) : ∃ added, s.base = start.base ++ added := by
  obtain ⟨text, rfl⟩ := h
  exact base_write start text

end Sinks

namespace Renderer

/-! ## One event -/

/-- An event that does not reach below the start appends to the sinks that stand on it. -/
theorem attempt_standsOn {start : Sinks} {n : Nat} {r : Renderer} {e : Event}
    (h : start.StandsOn n r.sinks) (hdepth : start.depth ≤ (r.attempt e).sinks.depth) :
    ∃ m, start.StandsOn m (r.attempt e).sinks := by
  obtain ⟨-, -, r', s, sink, hr', hs, hsink⟩ | ⟨-, -, -, err, herr, -⟩ |
    ⟨-, -, kept, s, r', hleave, hr', hs⟩ | ⟨-, -, r', hr', hs⟩ := r.deliver_cases e
  · rw [attempt_of_ok hr', hsink]
    exact ⟨n + 1, (h.append hs).enter sink⟩
  · rw [attempt_of_error herr]
    exact ⟨n, h⟩
  · rw [attempt_of_ok hr'] at hdepth ⊢
    cases n with
    | zero =>
      -- The closed scope would be one of the start.
      have hstart := h.depth_eq
      have hclosed := Sinks.depth_leave? hleave
      have hgrown := hs.depth_eq
      omega
    | succ n =>
      obtain ⟨kept', s', hleave', hstands⟩ := h.leave
      rw [hleave] at hleave'
      cases hleave'
      exact ⟨n, hstands.append hs⟩
  · rw [attempt_of_ok hr']
    exact ⟨n, h.append hs⟩

/-- Whatever an event closes, the base is appended to. -/
theorem attempt_base (r : Renderer) (e : Event) :
    ∃ added, (r.attempt e).sinks.base = r.sinks.base ++ added := by
  obtain ⟨-, -, r', s, sink, hr', hs, hsink⟩ | ⟨-, -, -, err, herr, -⟩ |
    ⟨-, -, kept, s, r', hleave, hr', hs⟩ | ⟨-, -, r', hr', hs⟩ := r.deliver_cases e
  · rw [attempt_of_ok hr', hsink]
    exact hs.base_eq
  · rw [attempt_of_error herr]
    exact ⟨"", by simp⟩
  · rw [attempt_of_ok hr', ← Sinks.base_leave? hleave]
    exact hs.base_eq
  · rw [attempt_of_ok hr']
    exact hs.base_eq

/-! ## Runs -/

theorem attemptAll_append (r : Renderer) (past rest : List Event) :
    r.attemptAll (past ++ rest) = (r.attemptAll past).attemptAll rest :=
  List.foldl_append

/-- A run that never reaches below its start leaves sinks that stand on it. -/
theorem attemptAll_standsOn {start : Sinks} {events : List Event} {n : Nat} {r : Renderer}
    (h : start.StandsOn n r.sinks)
    (hdepth : ∀ past, past <+: events → start.depth ≤ (r.attemptAll past).sinks.depth) :
    ∃ m, start.StandsOn m (r.attemptAll events).sinks := by
  induction events generalizing n r with
  | nil => exact ⟨n, h⟩
  | cons e events ih =>
    have hfirst : start.depth ≤ (r.attempt e).sinks.depth := hdepth [e] ⟨events, rfl⟩
    obtain ⟨m, hnext⟩ := attempt_standsOn h hfirst
    apply ih hnext
    intro past hpast
    exact hdepth (e :: past) (List.cons_prefix_cons.mpr ⟨rfl, hpast⟩)

theorem attemptAll_base (r : Renderer) (events : List Event) :
    ∃ added, (r.attemptAll events).sinks.base = r.sinks.base ++ added := by
  induction events generalizing r with
  | nil => exact ⟨"", by simp [attemptAll]⟩
  | cons e events ih =>
    obtain ⟨first, hfirst⟩ := r.attempt_base e
    obtain ⟨later, hlater⟩ := ih (r.attempt e)
    refine ⟨first ++ later, ?_⟩
    rw [attemptAll_cons, hlater, hfirst, String.append_assoc]

/-- What is rendered so far stands at the front of what is rendered later. -/
theorem finish_text_attemptAll (r : Renderer) (events : List Event) :
    ∃ added, (r.attemptAll events).finish.text = r.finish.text ++ added := by
  rw [finish_text, finish_text]
  exact r.attemptAll_base events

end Renderer

/-! ## Steps of a trace -/

theorem Growth.between_append (before added : String) :
    Growth.between before (before ++ added) = .added added := by
  have hprefix : before.toList.isPrefixOf (before ++ added).toList = true := by
    rw [String.toList_append, List.isPrefixOf_iff_prefix]
    exact List.prefix_append _ _
  rw [Growth.between, if_pos hprefix, String.toList_append, ← String.length_toList, List.drop_left,
    String.ofList_toList]

/-- No step of a trace replaces text. -/
theorem trace_growth {r : Renderer} {events : List Event} {step : TraceStep}
    (h : step ∈ r.trace events) : ∃ added, step.growth = .added added := by
  induction events generalizing r with
  | nil => cases h
  | cons e events ih =>
    rcases List.mem_cons.mp h with rfl | hrest
    · obtain ⟨added, hadded⟩ := r.finish_text_attemptAll [e]
      refine ⟨added, ?_⟩
      change Growth.between r.finish.text (r.attemptAll [e]).finish.text = _
      rw [hadded, Growth.between_append]
    · exact ih hrest

/-- A run that closes no scope from before its start extends the sink that is active there and
changes none below it. The rendered text of any run, and in each step of its trace, is extended. -/
theorem attemptAll_appends (r : Renderer) (events : List Event) :
    ((∀ past, past <+: events → r.sinks.depth ≤ (r.attemptAll past).sinks.depth) →
      ∃ active below above text, r.sinks.all = active :: below ∧
        (r.attemptAll events).sinks.all = above ++ active.write text :: below) ∧
    (∀ past, past <+: events →
      ∃ added, (r.attemptAll events).finish.text = (r.attemptAll past).finish.text ++ added) ∧
    (∀ step ∈ r.trace events, ∃ added, step.growth = .added added) := by
  refine ⟨?_, ?_, fun step => trace_growth⟩
  · intro hdepth
    obtain ⟨active, below, hall⟩ := r.sinks.exists_active
    obtain ⟨m, hstands⟩ := Renderer.attemptAll_standsOn (.refl r.sinks) hdepth
    obtain ⟨above, text, hend⟩ := hstands.all_eq hall
    exact ⟨active, below, above, text, hall, hend⟩
  · intro past hpast
    obtain ⟨rest, rfl⟩ := hpast
    rw [Renderer.attemptAll_append]
    exact (r.attemptAll past).finish_text_attemptAll rest

/-- Inside the expansion of a macro, a link is opened, closed and opened again. -/
theorem attemptAll_appends_expansion :
    let call : MacroCall := ⟨"m", .empty, none⟩
    let l := Link.document "Doc"
    let start := Renderer.initial.attemptAll [.content (.word "a"), .enter (.macroMarker call)]
    let events : List Event := [.enter (.link l false .empty), .content (.word "b"),
      .leave (.link l false .empty), .enter (.link l false .empty), .content (.word "c")]
    (∀ past, past <+: events → start.sinks.depth ≤ (start.attemptAll past).sinks.depth) ∧
      (∃ above text, (start.attemptAll events).sinks.all =
        above ++ Sink.drop.write text :: [.collect "a"]) ∧
      ∀ step ∈ start.trace events, ∃ added, step.growth = .added added := by
  intro call l start events
  have hdepth : ∀ past, past <+: events →
      start.sinks.depth ≤ (start.attemptAll past).sinks.depth := by
    have htakes : ∀ n < 6, start.sinks.depth ≤ (start.attemptAll (events.take n)).sinks.depth := by
      decide
    intro past hpast
    rw [List.prefix_iff_eq_take.mp hpast]
    exact htakes _ (Nat.lt_succ_of_le hpast.length_le)
  obtain ⟨hframe, -, hsteps⟩ := attemptAll_appends start events
  obtain ⟨active, below, above, text, hall, hend⟩ := hframe hdepth
  cases hall
  exact ⟨hdepth, ⟨above, text, hend⟩, hsteps⟩

end WikiMarkup
