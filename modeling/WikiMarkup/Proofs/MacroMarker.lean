-- SUMMARY: When the content that a macro expanded to makes no difference to the rendered text: exactly if it leaves the same layout and the same need of a reset behind.
import WikiMarkup.Proofs.Observation

/-!
# Macro markers

The call of a macro is written in place of what the macro expanded to. The text of the expansion is
dropped, but its events are delivered all the same, and they change the layout and the pending
parameters. `marked_indistinct_iff` says which expansions can be exchanged for each other in a
document without a difference in any text: those that leave the same layout behind, and the same
need of a reset mark unless the marker itself is inside of a dropped text.
-/

namespace WikiMarkup

/-- A macro marker around what the macro expanded to. -/
def marked (call : MacroCall) (body : List Event) : List Event :=
  .enter (.macroMarker call) :: (body ++ [.leave (.macroMarker call)])

theorem MacroCall.written_ne_empty (call : MacroCall) : call.written ≠ "" := by
  rcases call with ⟨name, parameters, _ | content⟩ <;> simp [written]

namespace Renderer

/-- The state behind the begin of a macro marker. -/
def expanding (r : Renderer) : Renderer := { r with sinks := r.sinks.enter .drop }

/-- The state behind the end of the marker, if `inner` is the one before it. -/
def replacing (r inner : Renderer) (call : MacroCall) : Renderer :=
  { inner with sinks := r.sinks.write (inner.reset ++ call.written), pending := none }

/-- An expansion is delivered, writes nothing and keeps the levels. -/
theorem expanding_deliverAll {body : List Event} (h : WellNested body) (r : Renderer) :
    ∃ inner, r.expanding.deliverAll body = .ok inner ∧ inner.sinks = r.sinks.enter .drop ∧
      r.layout.StandsOn [] inner.layout := by
  obtain ⟨inner, hinner, ⟨text, hsinks⟩, hlayout⟩ := h.deliverAll r.expanding
  exact ⟨inner, hinner, hsinks, hlayout⟩

/-- Behind the marker only the layout and the reset mark remember the expansion. -/
theorem deliverAll_marked {r inner : Renderer} {body : List Event} (call : MacroCall)
    (h : r.expanding.deliverAll body = .ok inner) (hsinks : inner.sinks = r.sinks.enter .drop) :
    r.deliverAll (marked call body) = .ok (r.replacing inner call) := by
  have henter : r.deliver (.enter (.macroMarker call)) = .ok r.expanding := rfl
  have hleave : inner.deliver (.leave (.macroMarker call)) = .ok (r.replacing inner call) := by
    have hprint := print_of_ne_empty call.written_ne_empty { inner with sinks := r.sinks }
    refine Eq.trans ?_ (congrArg Except.ok hprint)
    refine (?_ : inner.leaveMacroMarker call = _)
    rw [leaveMacroMarker, hsinks]
    rfl
  rw [marked, deliverAll_cons, henter]
  refine (deliverAll_append_of_ok h _).trans ?_
  rw [deliverAll_cons, hleave]
  rfl

theorem deliverAll_around {r inner : Renderer} {pre body : List Event} (call : MacroCall)
    (hpre : initial.deliverAll pre = .ok r) (h : r.expanding.deliverAll body = .ok inner)
    (hsinks : inner.sinks = r.sinks.enter .drop) (post : List Event) :
    initial.deliverAll (pre ++ marked call body ++ post) =
      (r.replacing inner call).deliverAll post := by
  rw [List.append_assoc, deliverAll_append_of_ok hpre,
    deliverAll_append_of_ok (deliverAll_marked call h hsinks)]

/-- Exchanging the expansion keeps what is observed behind the marker, if the layouts are as good
as equal, and so are the reset marks where they show. -/
theorem observed_replacing {r r₁ r₂ : Renderer} (call : MacroCall)
    (hlayout : r₁.layout.normal = r₂.layout.normal)
    (hreset : ¬ r.sinks.Hidden → r₁.pending.isSome = r₂.pending.isSome) :
    (r.replacing r₁ call).observed = (r.replacing r₂ call).observed := by
  simp only [observed, replacing, hlayout, Sinks.veiled_write]
  by_cases hidden : r.sinks.Hidden
  · rw [hidden.veiled_write, hidden.veiled_write]
  · rw [reset, reset, hreset hidden]

/-- States behind the marker that nothing tells apart come from expansions with the same layout,
and with the same reset mark where it shows. -/
theorem Indistinct.of_replacing {r r₁ r₂ : Renderer} {call : MacroCall}
    (h₁ : r.layout.StandsOn [] r₁.layout) (h₂ : r.layout.StandsOn [] r₂.layout)
    (h : Indistinct (r.replacing r₁ call) (r.replacing r₂ call)) :
    r₁.layout.normal = r₂.layout.normal ∧
      (¬ r.sinks.Hidden → r₁.pending.isSome = r₂.pending.isSome) := by
  constructor
  · have hscopes := (r.sinks.write_length (r₁.reset ++ call.written)).trans
      (r.sinks.write_length (r₂.reset ++ call.written)).symm
    exact h.layout_of_standsOn hscopes h₁ h₂
  · intro hshown
    have htexts : r₁.reset ++ call.written = r₂.reset ++ call.written :=
      write_inj hshown (by simp [call.written_ne_empty]) (by simp [call.written_ne_empty]) h
    have hreset : r₁.reset = r₂.reset := (String.append_left_inj _).mp htexts
    unfold reset at hreset
    cases hp₁ : r₁.pending.isSome <;> cases hp₂ : r₂.pending.isSome <;>
      simp [hp₁, hp₂, resetMark] at hreset ⊢

end Renderer

/-! ## Exchanging expansions -/

/-- Two expansions of a macro call can be exchanged in every document, whatever follows, if and
only if they leave the same layout behind, and agree on whether parameters are pending unless the
call itself is dropped. -/
theorem marked_indistinct_iff {pre : List Event} {r : Renderer}
    (hpre : Renderer.initial.deliverAll pre = .ok r) (call : MacroCall) {b₁ b₂ : List Event}
    (h₁ : WellNested b₁) (h₂ : WellNested b₂) :
    ∃ r₁ r₂, r.expanding.deliverAll b₁ = .ok r₁ ∧ r.expanding.deliverAll b₂ = .ok r₂ ∧
      ((∀ post t₁ t₂, render (pre ++ marked call b₁ ++ post) = .ok t₁ →
          render (pre ++ marked call b₂ ++ post) = .ok t₂ → t₁.text = t₂.text) ↔
        r₁.layout.normal = r₂.layout.normal ∧
          (¬ r.sinks.Hidden → r₁.pending.isSome = r₂.pending.isSome)) := by
  obtain ⟨r₁, hr₁, hsinks₁, hlevels₁⟩ := Renderer.expanding_deliverAll h₁ r
  obtain ⟨r₂, hr₂, hsinks₂, hlevels₂⟩ := Renderer.expanding_deliverAll h₂ r
  have hrun₁ := Renderer.deliverAll_around call hpre hr₁ hsinks₁
  have hrun₂ := Renderer.deliverAll_around call hpre hr₂ hsinks₂
  refine ⟨r₁, r₂, hr₁, hr₂, ?_, ?_⟩
  · intro hsame
    have hindistinct : Renderer.Indistinct (r.replacing r₁ call) (r.replacing r₂ call) := by
      intro post s₁ s₂ hs₁ hs₂
      rw [← s₁.finish_text, ← s₂.finish_text]
      exact hsame post s₁.finish s₂.finish
        (render_eq_ok_iff.mpr ⟨s₁, (hrun₁ post).trans hs₁, rfl⟩)
        (render_eq_ok_iff.mpr ⟨s₂, (hrun₂ post).trans hs₂, rfl⟩)
    exact hindistinct.of_replacing hlevels₁ hlevels₂
  · rintro ⟨hlayout, hreset⟩ post t₁ t₂ ht₁ ht₂
    obtain ⟨s₁, hs₁, rfl⟩ := render_eq_ok_iff.mp ht₁
    obtain ⟨s₂, hs₂, rfl⟩ := render_eq_ok_iff.mp ht₂
    rw [s₁.finish_text, s₂.finish_text]
    exact Renderer.Indistinct.of_observed (Renderer.observed_replacing call hlayout hreset) post
      s₁ s₂ ((hrun₁ post).symm.trans hs₁) ((hrun₂ post).symm.trans hs₂)

/-- Behind a span with parameters an expansion with text in it cannot be exchanged for an empty one:
the text that nobody sees takes up the reset mark. -/
theorem marked_indistinct_span :
    let p := Parameters.ofList [("a", "1")]
    let pre : List Event :=
      [.enter (.format .bold p), .content (.word "x"), .leave (.format .bold p)]
    let call : MacroCall := ⟨"m", .empty, none⟩
    WellNested [.content (.word "y")] ∧ WellNested [] ∧
      ¬ ∀ post t₁ t₂, render (pre ++ marked call [.content (.word "y")] ++ post) = .ok t₁ →
        render (pre ++ marked call [] ++ post) = .ok t₂ → t₁.text = t₂.text := by
  intro p pre call
  have hpre : Renderer.initial.deliverAll pre =
      .ok ⟨⟨"**(% a=\"1\" %)x**", []⟩, .initial, some p, []⟩ := by rfl
  have h₁ : WellNested [.content (.word "y")] := by decide
  have h₂ : WellNested [] := by decide
  refine ⟨h₁, h₂, fun hsame => ?_⟩
  obtain ⟨r₁, r₂, hr₁, hr₂, hiff⟩ := marked_indistinct_iff hpre call h₁ h₂
  have hpending := (hiff.mp hsame).2 (by decide)
  cases hr₁
  cases hr₂
  exact absurd hpending (by decide)

/-- The expansion shows: behind a span with parameters the text of a paragraph takes up the reset
mark that an empty expansion leaves to the call. -/
theorem marked_not_indistinct :
    ¬ ∀ (pre post b₁ b₂ : List Event) (call : MacroCall) (t₁ t₂ : Rendered),
      WellNested b₁ → WellNested b₂ → render (pre ++ marked call b₁ ++ post) = .ok t₁ →
        render (pre ++ marked call b₂ ++ post) = .ok t₂ → t₁.text = t₂.text := by
  intro h
  let p := Parameters.ofList [("a", "1")]
  have htext := h [.enter (.format .bold p), .content (.word "x"), .leave (.format .bold p)] []
    [.enter (.paragraph .empty), .content (.word "y"), .leave (.paragraph .empty)] []
    ⟨"m", .empty, none⟩ ⟨"**(% a=\"1\" %)x**\x7b\x7bm/\x7d\x7d", []⟩
    ⟨"**(% a=\"1\" %)x**(%%)\x7b\x7bm/\x7d\x7d", []⟩ (by decide) (by decide) (by rfl) (by rfl)
  exact absurd htext (by decide)

end WikiMarkup
