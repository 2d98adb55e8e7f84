-- SUMMARY: Inline content as a tree: delivering the events of a tree writes what a recursive printer prints for it, and changes nothing else.
import WikiMarkup.Proofs.FormatReset
import WikiMarkup.Proofs.LinkLabel
import WikiMarkup.Proofs.MacroMarker

/-!
# Inline trees

Links and macro markers open scopes, and inside of each other they pile up scopes without bound. For
a tree this need not be followed. Printing it takes one look at each node: a link is printed around
what is printed for its label, and a macro marker as its call. `Inline.deliverAll_events` says that
the events of a node append just that to the sink around it, whatever that sink is. The proof goes
along the tree: what is inside of a node is appended to the scope that the begin of the node opens,
so that the end of the node finds the printed label there, or nothing.
-/

namespace WikiMarkup

/-! ## Trees -/

/-- A node of inline content. -/
inductive Inline where
  /-- Content inside of a line. -/
  | content (c : Content) (isInline : (Event.content c).isInline = true)
  /-- A formatting span without parameters. -/
  | span (format : Format) (inside : List Inline)
  | link (link : Link) (freeStanding : Bool) (parameters : Parameters) (label : List Inline)
  /-- The call of a macro, with what the macro expanded to. -/
  | expanded (call : MacroCall) (expansion : List Inline)

namespace Inline

mutual

/-- The events of a node. -/
def events : Inline → List Event
  | content c _ => [.content c]
  | span f inside => .enter (.format f .empty) :: (eventsAll inside ++ [.leave (.format f .empty)])
  | link l freeStanding p label =>
    .enter (.link l freeStanding p) :: (eventsAll label ++ [.leave (.link l freeStanding p)])
  | expanded call expansion =>
    .enter (.macroMarker call) :: (eventsAll expansion ++ [.leave (.macroMarker call)])

/-- The events of nodes, one after the other. -/
def eventsAll : List Inline → List Event
  | [] => []
  | node :: rest => node.events ++ eventsAll rest

end

mutual

/-- The printed form of a node. A free-standing link is its reference alone, and of what a macro
expanded to only the call is printed. -/
def printed : Inline → String
  | content c _ => String.join c.texts
  | span f inside => f.delimiter ++ printedAll inside ++ f.delimiter
  | link l freeStanding p label =>
    if freeStanding then l.reference else l.written (printedAll label) p
  | expanded call _ => call.written

/-- The printed form of nodes, one after the other. -/
def printedAll : List Inline → String
  | [] => ""
  | node :: rest => node.printed ++ printedAll rest

end

end Inline

/-! ## Single events -/

/-- The three parts of a link, with its label between them. -/
theorem Link.parts_eq (l : Link) (freeStanding : Bool) (label : String) (p : Parameters) :
    l.opening freeStanding ++ (l.labelled freeStanding label ++ l.closing freeStanding p) =
      if freeStanding then l.reference else l.written label p := by
  cases freeStanding with
  | true => simp [opening, labelled, closing]
  | false => exact (l.written_eq label p).symm

namespace Renderer

/-- The state after text is appended to the active sink, with no mark before it. -/
def append (r : Renderer) (text : String) : Renderer := { r with sinks := r.sinks.write text }

@[simp] theorem append_empty (r : Renderer) : r.append "" = r := by
  rw [append, Sinks.write_empty]

theorem append_append (r : Renderer) (before text : String) :
    (r.append before).append text = r.append (before ++ text) := by
  rw [append, append, append, Sinks.write_write]

variable {r : Renderer}

/-- With nothing pending, text is appended as it is. -/
theorem print_eq_append (h : r.pending = none) (text : String) : r.print text = r.append text := by
  rcases r with ⟨sinks, layout, pending, warnings⟩
  cases h
  by_cases htext : text = ""
  · rw [htext, print_empty, append_empty]
  · rw [print_of_ne_empty htext, reset, append]
    simp

theorem deliver_inline_content (h : r.pending = none) {c : Content}
    (hc : (Event.content c).isInline = true) :
    r.deliver (.content c) = .ok (r.append (String.join c.texts)) := by
  rw [deliver_inline r hc, Event.tokens, List.foldl_map, ← print_eq_append h, ← printAll_eq]
  rfl

theorem deliver_enter_plain_format (h : r.pending = none) (f : Format) :
    r.deliver (.enter (.format f .empty)) = .ok (r.append f.delimiter) := by
  have hblock : Parameters.empty.block false = "" := rfl
  refine congrArg Except.ok (?_ : r.enterFormat f .empty = _)
  rw [enterFormat, h]
  dsimp only
  rw [printBlock, hblock, print_empty, print_eq_append h]

theorem deliver_leave_plain_format (h : r.pending = none) (f : Format) :
    r.deliver (.leave (.format f .empty)) = .ok (r.append f.delimiter) := by
  refine congrArg Except.ok (?_ : r.leaveFormat f .empty = _)
  rw [leaveFormat, print_eq_append h]
  rfl

/-- The state inside of a link of whose label so much is written. -/
def collecting (r : Renderer) (label : String) : Renderer :=
  { r with sinks := r.sinks.enter (.collect label) }

theorem append_collecting (label text : String) :
    (r.collecting label).append text = r.collecting (label ++ text) := rfl

theorem append_expanding (text : String) : r.expanding.append text = r.expanding := rfl

theorem deliver_begin_link (h : r.pending = none) (l : Link) (freeStanding : Bool)
    (p : Parameters) :
    r.deliver (.enter (.link l freeStanding p)) =
      .ok ((r.append (l.opening freeStanding)).collecting "") := by
  change Except.ok ((r.print (l.opening freeStanding)).collecting "") = _
  rw [print_eq_append h]

theorem deliver_end_link (h : r.pending = none) (l : Link) (freeStanding : Bool)
    (label : String) (p : Parameters) :
    (r.collecting label).deliver (.leave (.link l freeStanding p)) =
      .ok (r.append (l.labelled freeStanding label ++ l.closing freeStanding p)) := by
  change Except.ok ((r.print (l.labelled freeStanding label)).print (l.closing freeStanding p)) = _
  rw [print_print, print_eq_append h]

theorem deliver_end_macroMarker (h : r.pending = none) (call : MacroCall) :
    r.expanding.deliver (.leave (.macroMarker call)) = .ok (r.append call.written) := by
  change Except.ok (r.print call.written) = _
  rw [print_eq_append h]

/-- One more event is delivered behind those before it. -/
theorem deliverAll_concat {inner after : Renderer} {events : List Event} {e : Event}
    (h : r.deliverAll events = .ok inner) (hlast : inner.deliver e = .ok after) :
    r.deliverAll (events ++ [e]) = .ok after := by
  rw [deliverAll_append_of_ok h, deliverAll_cons, hlast]
  rfl

/-- A container is delivered as its begin, what is inside, and its end. -/
theorem deliverAll_enclosed {begun inner after : Renderer} {c : Container} {inside : List Event}
    (henter : r.deliver (.enter c) = .ok begun) (hinside : begun.deliverAll inside = .ok inner)
    (hleave : inner.deliver (.leave c) = .ok after) :
    r.deliverAll (.enter c :: (inside ++ [.leave c])) = .ok after := by
  rw [deliverAll_cons, henter]
  exact deliverAll_concat hinside hleave

end Renderer

/-! ## Trees of events -/

namespace Inline

mutual

/-- The events of a node append its printed form, and change nothing else. -/
theorem deliverAll_events (node : Inline) {r : Renderer} (h : r.pending = none) :
    r.deliverAll node.events = .ok (r.append node.printed) := by
  cases node with
  | content c isInline =>
    rw [events, Renderer.deliverAll_cons, Renderer.deliver_inline_content h isInline, printed]
    rfl
  | span f inside =>
    have henter := Renderer.deliver_enter_plain_format h f
    have hinside := deliverAll_eventsAll inside (r := r.append f.delimiter) h
    rw [Renderer.append_append] at hinside
    have hleave := Renderer.deliver_leave_plain_format
      (r := r.append (f.delimiter ++ printedAll inside)) h f
    rw [Renderer.append_append] at hleave
    exact Renderer.deliverAll_enclosed henter hinside hleave
  | link l freeStanding p label =>
    have henter := Renderer.deliver_begin_link h l freeStanding p
    have hlabel := deliverAll_eventsAll label
      (r := (r.append (l.opening freeStanding)).collecting "") h
    rw [Renderer.append_collecting, String.empty_append] at hlabel
    have hleave := Renderer.deliver_end_link (r := r.append (l.opening freeStanding)) h
      l freeStanding (printedAll label) p
    rw [Renderer.append_append, Link.parts_eq] at hleave
    exact Renderer.deliverAll_enclosed henter hlabel hleave
  | expanded call expansion =>
    have hexpansion := deliverAll_eventsAll expansion (r := r.expanding) h
    rw [Renderer.append_expanding] at hexpansion
    have hleave := Renderer.deliver_end_macroMarker h call
    exact Renderer.deliverAll_enclosed rfl hexpansion hleave

/-- The events of nodes append their printed forms, and change nothing else. -/
theorem deliverAll_eventsAll (nodes : List Inline) {r : Renderer} (h : r.pending = none) :
    r.deliverAll (eventsAll nodes) = .ok (r.append (printedAll nodes)) := by
  cases nodes with
  | nil =>
    rw [eventsAll, printedAll, Renderer.append_empty]
    rfl
  | cons node rest =>
    rw [eventsAll, printedAll, Renderer.deliverAll_append_of_ok (deliverAll_events node h),
      deliverAll_eventsAll rest (r := r.append node.printed) h, Renderer.append_append]

end

end Inline

/-- With nothing pending, the events of inline trees append the printed form of the trees to the
active sink, and change nothing else. -/
theorem deliverAll_inline_trees (nodes : List Inline) {r : Renderer} (h : r.pending = none) :
    ∃ after, r.deliverAll (Inline.eventsAll nodes) = .ok after ∧
      after = { r with sinks := r.sinks.write (Inline.printedAll nodes) } ∧
      ∀ before, r.sinks.active = .collect before →
        after.sinks.active = .collect (before ++ Inline.printedAll nodes) := by
  refine ⟨_, Inline.deliverAll_eventsAll nodes h, rfl, ?_⟩
  intro before hactive
  rw [Renderer.append, Sinks.active_write, hactive]
  rfl

/-- A link whose label holds a link in a span, and a macro marker with a link inside of it. -/
theorem deliverAll_inline_trees_nested :
    let word : String → Inline := fun text => .content (.word text) rfl
    let call : MacroCall := ⟨"m", .empty, none⟩
    let inner : Inline := .link (.document "In") false .empty [word "In"]
    let nodes : List Inline := [.link (.document "Out") false (.ofList [("a", "1")])
      [.span .bold [word "x", inner], .expanded call [word "y", inner]]]
    Renderer.initial.pending = none ∧ Renderer.initial.sinks.active = .collect "" ∧
      ∃ after, Renderer.initial.deliverAll (Inline.eventsAll nodes) = .ok after ∧
        after.sinks.active =
          .collect "[[**x[[In]]**\x7b\x7bm/\x7d\x7d>>Out||a=\"1\"]]" := by
  intro word call inner nodes
  obtain ⟨after, hafter, -, hactive⟩ := deliverAll_inline_trees nodes (r := .initial) rfl
  refine ⟨rfl, rfl, after, hafter, (hactive "" rfl).trans ?_⟩
  decide +kernel

end WikiMarkup
