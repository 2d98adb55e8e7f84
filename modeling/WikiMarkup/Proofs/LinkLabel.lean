-- SUMMARY: What a link adds to the sink around it: the reset mark of its label comes before the label, and otherwise the label stands right behind the opening brackets.
import WikiMarkup.Proofs.Frame

/-!
# Link labels

The label of a link is collected in a scope of its own and written to the sink around it when the
link ends. Pending parameters do not belong to a scope: those of a span at the end of the label are
still pending when the label is written, and then the reset mark stands in front of the label and
not behind the span. `link_written` says exactly what is written, and that this is the only way in
which it can differ from `Link.written`.
-/

namespace WikiMarkup

/-- The sink that text goes to. -/
def Sinks.active (s : Sinks) : Sink :=
  match s.scopes with
  | [] => .collect s.base
  | top :: _ => top

theorem Sinks.active_write (s : Sinks) (text : String) :
    (s.write text).active = s.active.write text := by
  rcases s with ⟨base, _ | ⟨top, below⟩⟩ <;> rfl

namespace Link

/-- A link with a label: the label is left out if it is empty or the reference itself. -/
def written (l : Link) (label : String) (p : Parameters) : String :=
  if label = "" ∨ label = l.reference then "[[" ++ l.closing false p
  else "[[" ++ label ++ ">>" ++ l.closing false p

theorem written_eq (l : Link) (label : String) (p : Parameters) :
    l.written label p = "[[" ++ (l.labelled false label ++ l.closing false p) := by
  by_cases h : label = "" ∨ label = l.reference
  · simp [written, labelled, h]
  · simp [written, labelled, h, String.append_assoc]

end Link

namespace Renderer

/-- With nothing pending, a link begins with its brackets and an empty scope for the label. -/
theorem deliver_enter_link {r : Renderer} (h : r.pending = none) (l : Link) (p : Parameters) :
    r.deliver (.enter (.link l false p)) =
      .ok { r with sinks := (r.sinks.write "[[").enter (.collect "") } := by
  have hprint : r.print "[[" = { r with sinks := r.sinks.write "[[" } := by
    rw [print_of_ne_empty (by decide), reset, h]
    rfl
  change Except.ok { r.print "[[" with sinks := (r.print "[[").sinks.enter (.collect "") } = _
  rw [hprint]

/-- The end of a link writes the label between the reset mark and the closing part. -/
theorem deliver_leave_link {r : Renderer} {label : String} {sinks : Sinks}
    (h : r.sinks.leave? = some (label, sinks)) (l : Link) (p : Parameters) :
    r.deliver (.leave (.link l false p)) = .ok { r with
      sinks := sinks.write (r.reset ++ (l.labelled false label ++ l.closing false p))
      pending := none } := by
  have hne : l.labelled false label ++ l.closing false p ≠ "" := by
    simp [l.closing_ne_empty p]
  refine (?_ : r.leaveLink l false p = _)
  rw [leaveLink, h]
  exact congrArg Except.ok ((print_print _ _ _).trans (print_of_ne_empty hne _))

end Renderer

/-- What a link with a well-nested label adds to the sink around it. It is the written form of the
link with that label if and only if the label leaves no parameters pending. -/
theorem link_written {r : Renderer} {before : String} (hpending : r.pending = none)
    (hactive : r.sinks.active = .collect before) (l : Link) (p : Parameters) {body : List Event}
    (h : WellNested body) :
    ∃ inner label sinks after gained,
      r.deliverAll (.enter (.link l false p) :: body) = .ok inner ∧
      inner.sinks.leave? = some (label, sinks) ∧
      r.deliverAll (.enter (.link l false p) :: body ++ [.leave (.link l false p)]) = .ok after ∧
      after.sinks.active = .collect (before ++ gained) ∧
      gained = "[[" ++ (inner.reset ++ (l.labelled false label ++ l.closing false p)) ∧
      (gained = l.written label p ↔ inner.pending = none) := by
  have henter := Renderer.deliver_enter_link hpending l p
  obtain ⟨inner, hinner, ⟨label, hsinks⟩, -⟩ :=
    h.deliverAll { r with sinks := (r.sinks.write "[[").enter (.collect "") }
  have hbody : r.deliverAll (.enter (.link l false p) :: body) = .ok inner := by
    rw [Renderer.deliverAll_cons, henter]
    exact hinner
  have hscope : inner.sinks.leave? = some ("" ++ label, r.sinks.write "[[") := by
    rw [hsinks]
    rfl
  rw [String.empty_append] at hscope
  let rest : String := inner.reset ++ (l.labelled false label ++ l.closing false p)
  let after : Renderer :=
    { inner with sinks := (r.sinks.write "[[").write rest, pending := none }
  have hend : r.deliverAll (.enter (.link l false p) :: body ++ [.leave (.link l false p)]) =
      .ok after := by
    rw [Renderer.deliverAll_append_of_ok hbody, Renderer.deliverAll_cons,
      Renderer.deliver_leave_link hscope l p]
    rfl
  refine ⟨inner, label, _, after, "[[" ++ rest, hbody, hscope, hend, ?_, rfl, ?_⟩
  · have hsinks : after.sinks = r.sinks.write ("[[" ++ rest) := Sinks.write_write ..
    rw [hsinks, Sinks.active_write, hactive]
    rfl
  · rw [Link.written_eq, String.append_right_inj, ← inner.reset_eq_empty_iff]
    constructor
    · intro hrest
      have hcancel : inner.reset ++ (l.labelled false label ++ l.closing false p) =
          "" ++ (l.labelled false label ++ l.closing false p) := by
        rwa [String.empty_append]
      exact (String.append_left_inj _).mp hcancel
    · intro hreset
      change inner.reset ++ _ = _
      rw [hreset, String.empty_append]

/-- A span inside a label, followed by a word that takes up its reset mark. -/
theorem link_written_span_word :
    let p := Parameters.ofList [("a", "1")]
    let body : List Event := [.enter (.format .bold p), .content (.word "x"),
      .leave (.format .bold p), .content (.word "y")]
    let l := Link.document "Doc"
    Renderer.initial.pending = none ∧ Renderer.initial.sinks.active = .collect "" ∧
      WellNested body ∧ ∃ after,
        Renderer.initial.deliverAll (.enter (.link l false .empty) :: body ++
          [.leave (.link l false .empty)]) = .ok after ∧
        after.sinks.active = .collect ("" ++ l.written "**(% a=\"1\" %)x**(%%)y" .empty) := by
  intro p body l
  have h : WellNested body := by decide
  obtain ⟨inner, label, sinks, after, gained, hinner, hlabel, hafter, hactive, -, hwritten⟩ :=
    link_written (r := .initial) rfl rfl l .empty h
  refine ⟨rfl, rfl, h, after, hafter, ?_⟩
  cases hinner
  cases hlabel
  rw [hactive, hwritten.mpr rfl]
  rfl

/-- The label does not always stand behind the brackets: if it ends with a span that has
parameters, the reset mark comes between. -/
theorem link_not_written :
    ¬ ∀ (r inner after : Renderer) (before label : String) (sinks : Sinks) (l : Link)
        (p : Parameters) (body : List Event), r.pending = none →
      r.sinks.active = .collect before → WellNested body →
        r.deliverAll (.enter (.link l false p) :: body) = .ok inner →
          inner.sinks.leave? = some (label, sinks) →
            r.deliverAll (.enter (.link l false p) :: body ++ [.leave (.link l false p)]) =
              .ok after → after.sinks.active = .collect (before ++ l.written label p) := by
  intro h
  let p := Parameters.ofList [("a", "1")]
  have hactive := h .initial
    ⟨⟨"[[", [.collect "**(% a=\"1\" %)x**"]⟩, .initial, some p, []⟩
    ⟨⟨"[[(%%)**(% a=\"1\" %)x**>>Doc]]", []⟩, .initial, none, []⟩ "" "**(% a=\"1\" %)x**"
    ⟨"[[", []⟩ (.document "Doc") .empty
    [.enter (.format .bold p), .content (.word "x"), .leave (.format .bold p)] rfl rfl (by decide)
    (by rfl) rfl (by rfl)
  exact absurd hactive (by decide)

end WikiMarkup
