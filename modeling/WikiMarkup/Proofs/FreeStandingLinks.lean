-- SUMMARY: When the label of a free-standing link makes no difference to the rendered text: exactly if it leaves the same layout and the same pending parameters behind.
import WikiMarkup.Proofs.FormatReset
import WikiMarkup.Proofs.InlineTrees

/-!
# Free-standing links

A free-standing link is written as its reference, and that when it begins. The text of its label is
collected and then dropped, but the events of the label are delivered all the same: what they do to
the layout and to the pending parameters is there behind the link, and has an effect on the text
that follows. `freeStanding_indistinct_iff` says which labels can be exchanged for each other in a
document without a difference in any text.

Pending parameters are looked at as a mapping only, so `Renderer.view` forgets their order.
-/

namespace WikiMarkup

/-! ## States up to the order of pending parameters -/

namespace Renderer

/-- What later events can tell about a state: the sinks and the layout as they are observed, and of
the pending parameters what is stored under each name. -/
def view (r : Renderer) : Sinks × Layout × Option (String → Option String) :=
  (r.sinks.veiled, r.layout.normal, r.pending.map Parameters.get?)

theorem view_observed (r : Renderer) : r.observed.view = r.view := by
  simp only [view, observed, Sinks.veiled_veiled, Layout.normal_normal]

theorem map_view_observed {ε : Type} (x : Except ε Renderer) :
    (x.map observed).map view = x.map view := by
  cases x with
  | error err => rfl
  | ok r => exact congrArg Except.ok r.view_observed

/-- The same state with other pending parameters. -/
def repend (q : Option Parameters) (r : Renderer) : Renderer := { r with pending := q }

section

variable {r : Renderer} {q : Option Parameters}
  (h : r.pending.map Parameters.get? = q.map Parameters.get?)
include h

theorem isSome_pending_eq : r.pending.isSome = q.isSome := by
  have hsome := congrArg Option.isSome h
  rwa [Option.isSome_map, Option.isSome_map] at hsome

theorem view_repend : (r.repend q).view = r.view := by
  simp only [view, repend, h]

/-- Text takes up the pending parameters, whatever they are. -/
theorem print_repend {text : String} (hne : text ≠ "") :
    (r.repend q).print text = r.print text := by
  rw [print_of_ne_empty hne, print_of_ne_empty hne, reset, reset, isSome_pending_eq h]
  rfl

theorem view_print_repend (text : String) :
    ((r.repend q).print text).view = (r.print text).view := by
  by_cases hne : text = ""
  · rw [hne, print_empty, print_empty, view_repend h]
  · rw [print_repend h hne]

/-- A span compares its parameters with the pending ones as mappings. -/
theorem enterFormat_repend (f : Format) (p : Parameters) :
    (r.repend q).enterFormat f p = r.enterFormat f p := by
  change (r.repend q).emit (.span f p) = r.emit (.span f p)
  rw [emit_span, emit_span]
  obtain ⟨sinks, layout, pending, warnings⟩ := r
  cases pending with
  | none =>
    cases q with
    | none => rfl
    | some q => cases h
  | some p' =>
    cases q with
    | none => cases h
    | some q =>
      have hget : p'.get? = q.get? := Option.some.inj h
      have hsame : q.SameMapping p ↔ p'.SameMapping p := by
        unfold Parameters.SameMapping
        rw [hget]
      simp only [repend, hsame]

theorem leaveFormat_repend (f : Format) (p : Parameters) :
    (r.repend q).leaveFormat f p = r.leaveFormat f p := by
  unfold leaveFormat
  rw [print_repend h f.delimiter_ne_empty]

/-- An effect leaves states of the same view if the pending parameters are the same mapping. -/
theorem view_perform_repend (x : Effect) :
    ((r.repend q).perform x).map view = (r.perform x).map view := by
  cases x with
  | print texts =>
    refine congrArg Except.ok ?_
    rw [printAll_eq, printAll_eq]
    exact view_print_repend h _
  | settle => rfl
  | enterFormat f p => exact congrArg (Except.ok ∘ view) (enterFormat_repend h f p)
  | leaveFormat f p => exact congrArg (Except.ok ∘ view) (leaveFormat_repend h f p)
  | openScope opening sink =>
    refine congrArg Except.ok ?_
    by_cases hne : opening = ""
    · subst hne
      exact view_repend (r := { r with sinks := r.sinks.enter sink }) h
    · rw [print_repend h hne]
  | leaveLink l freeStanding p =>
    have hleave : (r.repend q).sinks.leave? = r.sinks.leave? := rfl
    simp only [perform, leaveLink, hleave]
    cases r.sinks.leave? with
    | none => rfl
    | some closed =>
      refine congrArg Except.ok ?_
      rw [print_print, print_print]
      exact view_print_repend (r := { r with sinks := closed.2 }) h _
  | leaveMacroMarker call =>
    have hleave : (r.repend q).sinks.leave? = r.sinks.leave? := rfl
    simp only [perform, leaveMacroMarker, hleave]
    cases r.sinks.leave? with
    | none => rfl
    | some closed =>
      exact congrArg Except.ok (view_print_repend (r := { r with sinks := closed.2 }) h _)

end

/-- One event on states of the same view fails on both, or leaves such states. -/
theorem view_deliver_cases {r₁ r₂ : Renderer} (h : r₁.view = r₂.view) (e : Event) :
    (∃ err, r₁.deliver e = .error err ∧ r₂.deliver e = .error err) ∨
    ∃ s₁ s₂, r₁.deliver e = .ok s₁ ∧ r₂.deliver e = .ok s₂ ∧ s₁.view = s₂.view := by
  obtain ⟨hsinks, hlayout, hpending⟩ :
      r₁.sinks.veiled = r₂.sinks.veiled ∧ r₁.layout.normal = r₂.layout.normal ∧
        r₁.pending.map Parameters.get? = r₂.pending.map Parameters.get? := by
    simpa only [view, Prod.mk.injEq] using h
  have hobserved : r₂.observed = r₁.observed.repend r₂.pending := by
    simp only [observed, repend, hsinks, hlayout]
  have hlook (r : Renderer) : (r.deliver e).map view = (r.observed.deliver e).map view := by
    have hmap := congrArg (Except.map view) (r.observed_deliver e)
    rw [map_view_observed, map_view_observed] at hmap
    exact hmap.symm
  apply cases_of_map_eq
  calc (r₁.deliver e).map view
      = (r₁.observed.deliver e).map view := hlook r₁
    _ = ((r₁.observed.repend r₂.pending).deliver e).map view := by
        rw [deliver_eq, deliver_eq]
        exact (view_perform_repend (r := r₁.observed.advance e) hpending _).symm
    _ = (r₂.deliver e).map view := by rw [← hobserved, hlook r₂]

/-- States of the same view are told apart by no events. -/
theorem Indistinct.of_view {r₁ r₂ : Renderer} (h : r₁.view = r₂.view) : Indistinct r₁ r₂ := by
  intro events
  induction events generalizing r₁ r₂ with
  | nil =>
    intro s₁ s₂ h₁ h₂
    cases h₁
    cases h₂
    exact congrArg (fun seen => seen.1.base) h
  | cons e events ih =>
    intro s₁ s₂ h₁ h₂
    rw [deliverAll_cons] at h₁ h₂
    obtain ⟨err, he₁, -⟩ | ⟨t₁, t₂, he₁, he₂, hnext⟩ := view_deliver_cases h e
    · rw [he₁] at h₁
      cases h₁
    · rw [he₁] at h₁
      rw [he₂] at h₂
      exact ih hnext s₁ s₂ h₁ h₂

/-! ## Pending parameters show -/

/-- Where all scopes are closed, a word tells whether parameters are pending, and a span with the
parameters that one state has pending tells whether the other has them too. -/
theorem Indistinct.pending_of_unscoped {base : String} {l₁ l₂ : Layout}
    {q₁ q₂ : Option Parameters} {w₁ w₂ : List Warning}
    (h : Indistinct ⟨⟨base, []⟩, l₁, q₁, w₁⟩ ⟨⟨base, []⟩, l₂, q₂, w₂⟩) :
    q₁.map Parameters.get? = q₂.map Parameters.get? := by
  have hnone : q₁ = none ↔ q₂ = none := by
    have hword := (h.deliver (e := .content (.word "x")) rfl rfl).base
    change (print "x" _).sinks.base = (print "x" _).sinks.base at hword
    rw [print_of_ne_empty (by decide), print_of_ne_empty (by decide)] at hword
    have hreset := (String.append_left_inj "x").mp ((String.append_right_inj base).mp hword)
    calc q₁ = none ↔ _ := (reset_eq_empty_iff ⟨⟨base, []⟩, l₁, q₁, w₁⟩).symm
      _ ↔ _ := by rw [hreset]
      _ ↔ q₂ = none := reset_eq_empty_iff ⟨⟨base, []⟩, l₂, q₂, w₂⟩
  cases q₁ with
  | none => rw [hnone.mp rfl]
  | some p =>
    cases q₂ with
    | none => cases hnone.mpr rfl
    | some q =>
      have hself : p.SameMapping p := fun _ => rfl
      have hsame : q.SameMapping p := by
        by_contra hdiffer
        have hspan := (h.deliver (e := .enter (.format .bold p)) rfl rfl).base
        change (emit _ (.span .bold p)).sinks.base = (emit _ (.span .bold p)).sinks.base at hspan
        rw [emit_span, emit_span] at hspan
        simp only [Sinks.write, hself, hdiffer, if_true, if_false] at hspan
        -- Only the second state writes a mark before the same span.
        have hlength := congrArg String.length ((String.append_right_inj base).mp hspan)
        have hmark : resetMark.length = 4 := by decide
        rw [String.length_append, String.length_append] at hlength
        omega
      exact congrArg some (funext fun name => (hsame name).symm)

/-- The same holds with scopes open, as they can be closed without a text. -/
theorem Indistinct.pending {r₁ r₂ : Renderer} (h : Indistinct r₁ r₂)
    (hn : r₁.sinks.scopes.length = r₂.sinks.scopes.length) :
    r₁.pending.map Parameters.get? = r₂.pending.map Parameters.get? := by
  obtain ⟨base, hbase⟩ := unscoped hn rfl h
  exact hbase.pending_of_unscoped

end Renderer

/-! ## Free-standing links with a label -/

/-- A free-standing link around the events of its label. -/
def freeStanding (l : Link) (p : Parameters) (label : List Event) : List Event :=
  .enter (.link l true p) :: (label ++ [.leave (.link l true p)])

namespace Renderer

/-- The state behind the begin of a free-standing link. -/
def labelling (r : Renderer) (l : Link) : Renderer := (r.print l.reference).collecting ""

/-- The state behind the end of the link, if `inner` is the one before it. -/
def referring (r inner : Renderer) (l : Link) : Renderer :=
  { inner with sinks := (r.print l.reference).sinks }

/-- The link adds its reference to the sink around it, behind the reset mark if one was due. -/
theorem referring_sinks (r inner : Renderer) (l : Link) :
    (r.referring inner l).sinks =
      r.sinks.write (if l.reference = "" then "" else r.reset ++ l.reference) := by
  rw [referring, print_eq]

/-- A label is delivered, and leaves the levels as they were. The state behind the link has the
reference of the link as its text, and the rest from the label. -/
theorem deliverAll_freeStanding {label : List Event} (h : WellNested label) (r : Renderer)
    (l : Link) (p : Parameters) :
    ∃ inner, (r.labelling l).deliverAll label = .ok inner ∧
      r.layout.StandsOn [] inner.layout ∧
      r.deliverAll (freeStanding l p label) = .ok (r.referring inner l) := by
  obtain ⟨inner, hinner, ⟨text, hsinks⟩, hlayout⟩ := h.deliverAll (r.labelling l)
  have hstart : (r.labelling l).layout = r.layout := print_layout ..
  have henter : r.deliver (.enter (.link l true p)) = .ok (r.labelling l) := rfl
  have hleave : inner.deliver (.leave (.link l true p)) = .ok (r.referring inner l) := by
    refine (?_ : inner.leaveLink l true p = _)
    rw [leaveLink, hsinks]
    rfl
  exact ⟨inner, hinner, hstart ▸ hlayout, deliverAll_enclosed henter hinner hleave⟩

/-- States behind the link are told apart by what the labels left behind, and by nothing else. -/
theorem indistinct_referring_iff {r r₁ r₂ : Renderer} {l : Link}
    (h₁ : r.layout.StandsOn [] r₁.layout) (h₂ : r.layout.StandsOn [] r₂.layout) :
    Indistinct (r.referring r₁ l) (r.referring r₂ l) ↔
      r₁.layout.normal = r₂.layout.normal ∧
        r₁.pending.map Parameters.get? = r₂.pending.map Parameters.get? := by
  constructor
  · intro h
    have hscopes : (r.referring r₁ l).sinks.scopes.length =
        (r.referring r₂ l).sinks.scopes.length := rfl
    exact ⟨h.layout_of_standsOn hscopes h₁ h₂, h.pending hscopes⟩
  · rintro ⟨hlayout, hpending⟩
    apply Indistinct.of_view
    simp only [view, referring, hlayout, hpending]

end Renderer

/-! ## Exchanging labels -/

/-- With a well-nested label a free-standing link writes its reference, behind the reset mark if
one is due, and nothing of its label. Two labels can be exchanged in every document, whatever
follows, if and only if they leave the same layout and the same parameters pending. -/
theorem freeStanding_indistinct_iff {pre : List Event} {r : Renderer}
    (hpre : Renderer.initial.deliverAll pre = .ok r) (l : Link) (p : Parameters)
    {b₁ b₂ : List Event} (h₁ : WellNested b₁) (h₂ : WellNested b₂) :
    ∃ r₁ r₂ s₁ s₂, (r.labelling l).deliverAll b₁ = .ok r₁ ∧
      (r.labelling l).deliverAll b₂ = .ok r₂ ∧
      Renderer.initial.deliverAll (pre ++ freeStanding l p b₁) = .ok s₁ ∧
      Renderer.initial.deliverAll (pre ++ freeStanding l p b₂) = .ok s₂ ∧
      s₁.sinks = r.sinks.write (if l.reference = "" then "" else r.reset ++ l.reference) ∧
      s₂.sinks = s₁.sinks ∧
      ((∀ post t₁ t₂, render (pre ++ freeStanding l p b₁ ++ post) = .ok t₁ →
          render (pre ++ freeStanding l p b₂ ++ post) = .ok t₂ → t₁.text = t₂.text) ↔
        r₁.layout.normal = r₂.layout.normal ∧
          r₁.pending.map Parameters.get? = r₂.pending.map Parameters.get?) := by
  obtain ⟨r₁, hr₁, hlevels₁, hlink₁⟩ := Renderer.deliverAll_freeStanding h₁ r l p
  obtain ⟨r₂, hr₂, hlevels₂, hlink₂⟩ := Renderer.deliverAll_freeStanding h₂ r l p
  have hrun₁ := (Renderer.deliverAll_append_of_ok hpre _).trans hlink₁
  have hrun₂ := (Renderer.deliverAll_append_of_ok hpre _).trans hlink₂
  refine ⟨r₁, r₂, _, _, hr₁, hr₂, hrun₁, hrun₂, r.referring_sinks r₁ l, rfl, ?_⟩
  rw [← Renderer.indistinct_referring_iff hlevels₁ hlevels₂,
    Renderer.Indistinct.iff_render hrun₁ hrun₂]

/-- Labels with other marks and other words can be exchanged if they leave the same parameters
pending, in whatever order. -/
theorem freeStanding_indistinct_spans :
    let pre : List Event := [.enter (.format .bold (.ofList [("c", "3")])), .content (.word "v"),
      .leave (.format .bold (.ofList [("c", "3")]))]
    let label (f : Format) (text : String) (p : Parameters) : List Event :=
      [.enter (.format f p), .content (.word text), .leave (.format f p)]
    let b₁ := label .bold "x" (.ofList [("a", "1"), ("b", "2")])
    let b₂ := label .italic "y" (.ofList [("b", "2"), ("a", "1")])
    let l := Link.uri "http://x"
    (∃ r, Renderer.initial.deliverAll pre = .ok r) ∧ WellNested b₁ ∧ WellNested b₂ ∧
      ∀ post t₁ t₂, render (pre ++ freeStanding l .empty b₁ ++ post) = .ok t₁ →
        render (pre ++ freeStanding l .empty b₂ ++ post) = .ok t₂ → t₁.text = t₂.text := by
  intro pre label b₁ b₂ l
  have hpre : Renderer.initial.deliverAll pre =
      .ok ⟨⟨"**(% c=\"3\" %)v**", []⟩, .initial, some (.ofList [("c", "3")]), []⟩ := by rfl
  have h₁ : WellNested b₁ := by decide
  have h₂ : WellNested b₂ := by decide
  obtain ⟨r₁, r₂, s₁, s₂, hr₁, hr₂, -, -, -, -, hiff⟩ :=
    freeStanding_indistinct_iff hpre l .empty h₁ h₂
  refine ⟨⟨_, hpre⟩, h₁, h₂, hiff.mpr ?_⟩
  let base : String := "**(% c=\"3\" %)v**(%%)http://x"
  have hinner₁ : r₁ = ⟨⟨base, [.collect "**(% a=\"1\" b=\"2\" %)x**"]⟩, .initial,
      some (.ofList [("a", "1"), ("b", "2")]), []⟩ := Except.ok.inj (hr₁.symm.trans (by rfl))
  have hinner₂ : r₂ = ⟨⟨base, [.collect "//(% b=\"2\" a=\"1\" %)y//"]⟩, .initial,
      some (.ofList [("b", "2"), ("a", "1")]), []⟩ := Except.ok.inj (hr₂.symm.trans (by rfl))
  have hsame : (Parameters.ofList [("a", "1"), ("b", "2")]).SameMapping
      (.ofList [("b", "2"), ("a", "1")]) := by decide
  rw [hinner₁, hinner₂]
  exact ⟨rfl, congrArg some (funext hsame)⟩

/-- The label shows: the parameters of a span in it are reset behind the link. -/
theorem freeStanding_not_indistinct :
    ¬ ∀ (pre post b₁ b₂ : List Event) (l : Link) (p : Parameters) (t₁ t₂ : Rendered),
      WellNested b₁ → WellNested b₂ → render (pre ++ freeStanding l p b₁ ++ post) = .ok t₁ →
        render (pre ++ freeStanding l p b₂ ++ post) = .ok t₂ → t₁.text = t₂.text := by
  intro h
  let p := Parameters.ofList [("a", "1")]
  have htext := h [] [.content (.word "y")]
    [.enter (.format .bold p), .content (.word "x"), .leave (.format .bold p)]
    [.content (.word "x")] (.uri "http://x") .empty ⟨"http://x(%%)y", []⟩ ⟨"http://xy", []⟩
    (by decide) (by decide) (by rfl) (by rfl)
  exact absurd htext (by decide)

end WikiMarkup
