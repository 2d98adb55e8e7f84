-- SUMMARY: Delivering an event in two halves: the layout moves on by itself, and the texts it makes due go through sinks and pending parameters.
import WikiMarkup.Proofs.Nesting
import WikiMarkup.Render.Renderer

/-!
# Delivery in two halves

What an event does to the layout depends on the layout alone. What it does to the sinks and to the
pending parameters is one of seven effects, whose texts depend on the layout alone. `deliver_eq`
takes each event apart in this way; later proofs are about the layout, or about the effects, and
look at single events no more.
-/

namespace WikiMarkup

/-! ## The layout -/

/-- The lists after an event. -/
def Lists.after (l : Lists) : Event → Lists
  | .enter (.list kind _) => l.enter kind
  | .leave (.list _ _) => l.leave
  | .enter .listItem => { l with items := l.items.beginItem }
  | .leave .listItem => { l with items := l.items.endItem }
  | _ => l

/-- The definition lists or the quotations after an event. -/
def Nested.after (f : ItemFamily) (n : Nested) : Event → Nested
  | .enter c =>
    if c.family? = some f then n.enter
    else if c.home? = some f then { n with items := n.items.beginItem }
    else n
  | .leave c =>
    if c.family? = some f then n.leave
    else if c.home? = some f then { n with items := n.items.endItem }
    else n
  | .content _ => n

/-- The tables after an event. -/
def Tables.after (t : Tables) : Event → Tables
  | .enter (.table _) => t.enter
  | .leave (.table _) => t.leave
  | .leave (.tableRow _) => t.endRow
  | _ => t

/-- The texts of content. They do not depend on the layout. -/
def Content.texts : Content → List String
  | word text => [text]
  | space => [" "]
  | specialSymbol symbol => [String.singleton symbol]
  | escape text => text.toList.map escaped
  | lineBreak => ["\n"]
  | newLine => ["\\"]
  | emptyLines count => [String.ofList (List.replicate count.toNat '\n')]
  | horizontalLine p => [p.block true, "----"]
  | inlineMacro call | standaloneMacro call => [call.written]
  | image i freeStanding p => [i.toLink.opening freeStanding, i.toLink.closing freeStanding p]
  | id name => [idMacro name]
  | verbatimInline text => [verbatim text]
  | verbatimStandalone text p => [p.block true, verbatim text]

namespace Layout

/-- What is due before an event. -/
def owed (l : Layout) : Event → Separator
  | .enter (.paragraph _) | .enter (.heading _ _) | .enter (.table _) => .block
  | .enter (.list _ _) => l.lists.items.containerSeparator
  | .enter .listItem => l.lists.items.itemSeparator
  | .enter (.definitionList _) => l.definitionSeparator
  | .enter .definitionTerm | .enter .definitionDescription => l.definitions.items.itemSeparator
  | .enter (.quotation _) => l.quotations.items.containerSeparator
  | .enter .quotationLine => l.quotations.items.itemSeparator
  | .enter (.tableRow _) => l.tables.rowSeparator
  | .content (.horizontalLine _) | .content (.standaloneMacro _)
  | .content (.verbatimStandalone _ _) => .block
  | _ => .none

/-- The layout after an event. -/
def after (l : Layout) (e : Event) : Layout where
  lists := l.lists.after e
  definitions := l.definitions.after .definition e
  quotations := l.quotations.after .quotation e
  tables := l.tables.after e
  blockBegun := l.blockBegun || l.owed e = .block

/-- The texts of an event behind its separator, scopes and formatting spans apart. -/
def texts (l : Layout) : Event → List String
  | .enter (.paragraph p) | .enter (.list _ p) | .enter (.definitionList p)
  | .enter (.quotation p) | .enter (.table p) => [p.block true]
  | .enter (.heading level p) => [p.block true, level.marker ++ " "]
  | .leave (.heading level _) => [" " ++ level.marker]
  | .enter .listItem => [l.lists.marker ++ " "]
  | .enter .definitionTerm => [l.definitionMarker "; "]
  | .enter .definitionDescription => [l.definitionMarker ": "]
  | .enter .quotationLine => [l.quotationMarker]
  | .enter (.tableRow p) => [p.block false]
  | .enter (.tableCell p) => ["|", p.block false]
  | .enter (.tableHeadCell p) => ["|=", p.block false]
  | .content c => c.texts
  | _ => []

/-- The warnings an event gives rise to. -/
def complaints (l : Layout) : Event → List Warning
  | .leave (.list _ _) => if l.lists.depth = 0 then [.unmatchedListEnd] else []
  | .leave (.definitionList _) =>
    if l.definitions.depth = 0 then [.unmatchedDefinitionListEnd] else []
  | .leave (.quotation _) => if l.quotations.depth = 0 then [.unmatchedQuotationEnd] else []
  | .leave (.table _) => if l.tables.depth = 0 then [.unmatchedTableEnd] else []
  | .leave (.tableRow _) => if l.tables.depth = 0 then [.rowOutsideTable] else []
  | _ => []

theorem afterSeparator_eq (l : Layout) (s : Separator) :
    l.afterSeparator s = { l with blockBegun := l.blockBegun || s = .block } := by
  cases s <;> simp [afterSeparator]

end Layout

/-! ## The effects -/

/-- What an event does to the sinks and to the pending parameters. -/
inductive Effect where
  /-- Writes texts, one after the other. -/
  | print (texts : List String)
  /-- Forgets the pending parameters. -/
  | settle
  | enterFormat (format : Format) (parameters : Parameters)
  | leaveFormat (format : Format) (parameters : Parameters)
  /-- Writes a text and opens a scope behind it. -/
  | openScope (opening : String) (sink : Sink)
  | leaveLink (link : Link) (freeStanding : Bool) (parameters : Parameters)
  | leaveMacroMarker (call : MacroCall)

/-- Which effect an event has. -/
def Layout.effect (l : Layout) : Event → Effect
  | .enter (.link link freeStanding _) => .openScope (link.opening freeStanding) (.collect "")
  | .leave (.link link freeStanding p) => .leaveLink link freeStanding p
  | .enter (.macroMarker _) => .openScope "" .drop
  | .leave (.macroMarker call) => .leaveMacroMarker call
  | .enter (.format f p) => .enterFormat f p
  | .leave (.format f p) => .leaveFormat f p
  | .leave (.paragraph _) | .leave (.tableCell _) | .leave (.tableHeadCell _) => .settle
  | e => .print (l.separatorText (l.owed e) :: l.texts e)

namespace Renderer

/-- Writes texts, one after the other. -/
def printAll (texts : List String) (r : Renderer) : Renderer :=
  texts.foldl (fun r text => r.print text) r

/-- Carries out an effect. -/
def perform (r : Renderer) : Effect → Except RenderError Renderer
  | .print texts => .ok (r.printAll texts)
  | .settle => .ok r.dropPending
  | .enterFormat f p => .ok (r.enterFormat f p)
  | .leaveFormat f p => .ok (r.leaveFormat f p)
  | .openScope opening sink =>
    .ok { r.print opening with sinks := (r.print opening).sinks.enter sink }
  | .leaveLink link freeStanding p => r.leaveLink link freeStanding p
  | .leaveMacroMarker call => r.leaveMacroMarker call

/-- The renderer with the layout and the warnings of after an event. -/
def advance (r : Renderer) (e : Event) : Renderer :=
  { r with layout := r.layout.after e, warnings := r.warnings ++ r.layout.complaints e }

/-! ## Printing -/

/-- The mark that the next text is preceded by. -/
def reset (r : Renderer) : String := if r.pending.isSome then resetMark else ""

end Renderer

namespace Sinks

@[simp] theorem write_empty (s : Sinks) : s.write "" = s := by
  rcases s with ⟨base, _ | ⟨_ | _, below⟩⟩ <;> simp [write, Sink.write]

@[simp] theorem write_write (s : Sinks) (t u : String) :
    (s.write t).write u = s.write (t ++ u) := by
  rcases s with ⟨base, _ | ⟨_ | _, below⟩⟩ <;> simp [write, Sink.write, String.append_assoc]

end Sinks

/-- A link that is not free-standing is always closed. -/
theorem Link.closing_ne_empty (l : Link) (p : Parameters) : l.closing false p ≠ "" := by
  simp [closing]

namespace Renderer

theorem reset_eq_empty_iff (r : Renderer) : r.reset = "" ↔ r.pending = none := by
  rcases r with ⟨sinks, layout, _ | p, warnings⟩ <;> simp [reset, resetMark]

@[simp] theorem print_empty (r : Renderer) : r.print "" = r := rfl

theorem print_of_ne_empty {text : String} (h : text ≠ "") (r : Renderer) :
    r.print text = { r with sinks := r.sinks.write (r.reset ++ text), pending := none } := by
  have hempty : text.isEmpty = false := by simpa using h
  rcases r with ⟨sinks, layout, _ | p, warnings⟩ <;> simp [print, reset, hempty]

/-- Printing changes the sinks and the pending parameters, and looks at nothing else. -/
theorem print_eq (text : String) (r : Renderer) :
    r.print text = { r with
      sinks := r.sinks.write (if text = "" then "" else r.reset ++ text)
      pending := if text = "" then r.pending else none } := by
  by_cases h : text = ""
  · subst h
    simp
  · simp [print_of_ne_empty h, h]

/-- Texts can be joined before they are printed. -/
theorem print_print (before text : String) (r : Renderer) :
    (r.print before).print text = r.print (before ++ text) := by
  by_cases hbefore : before = ""
  · rw [hbefore, print_empty, String.empty_append]
  · by_cases htext : text = ""
    · rw [htext, print_empty, String.append_empty]
    · have hjoin : before ++ text ≠ "" := by simp [hbefore]
      rw [print_of_ne_empty htext, print_of_ne_empty hbefore, print_of_ne_empty hjoin]
      simp [reset, String.append_assoc]

theorem printAll_eq (texts : List String) (r : Renderer) :
    r.printAll texts = r.print (String.join texts) := by
  induction texts generalizing r with
  | nil => rfl
  | cons text texts ih =>
    rw [String.join_cons, ← print_print, ← ih]
    rfl

@[simp] theorem print_layout (text : String) (r : Renderer) :
    (r.print text).layout = r.layout := by
  rw [print_eq]

@[simp] theorem print_warnings (text : String) (r : Renderer) :
    (r.print text).warnings = r.warnings := by
  rw [print_eq]

theorem print_mapLayout (text : String) (f : Layout → Layout) (r : Renderer) :
    (r.print text).mapLayout f = (r.mapLayout f).print text := by
  rw [print_eq, print_eq]
  rfl

/-! ## Both halves together -/

theorem separate_eq (s : Separator) (r : Renderer) :
    r.separate s =
      { r with layout := { r.layout with
          blockBegun := r.layout.blockBegun || s = Separator.block } }.print
        (r.layout.separatorText s) := by
  rw [separate, Layout.afterSeparator_eq]

theorem warnIf_eq (condition : Bool) (w : Warning) (r : Renderer) :
    r.warnIf condition w =
      { r with warnings := r.warnings ++ if condition then [w] else [] } := by
  cases condition <;> simp [warnIf, warn]

section

attribute [local simp] Lists.after Nested.after Tables.after Layout.after Layout.owed Layout.texts
  Content.texts Layout.complaints Layout.effect Layout.separatorText Container.family?
  Container.home? perform advance printAll

private theorem enter_eq (r : Renderer) (c : Container) :
    .ok (r.enter c) = (r.advance (.enter c)).perform (r.layout.effect (.enter c)) := by
  cases c with
  | document | markupNode _ | error _ _ => simp [enter]
  | paragraph p | heading level p => simp [enter, separate_eq, printBlock]
  | list _ p | definitionList p | quotation p =>
    simp [enter, separate_eq, printBlock, mapLayout]
    rfl
  | listItem | definitionTerm | definitionDescription | quotationLine =>
    simp [enter, enterDefinitionItem, separate_eq, mapLayout]
    rfl
  | table p =>
    -- The tables change after the texts are written, and the texts do not see it.
    simp [enter, separate_eq, printBlock, print_mapLayout]
    rfl
  | tableRow p =>
    simp [enter, separate_eq, printBlock]
    rfl
  | tableCell p | tableHeadCell p => simp [enter, printBlock]
  | link l freeStanding p => simp [enter]
  | format f p => simp [enter]
  | macroMarker call => simp [enter]

private theorem leave_eq (r : Renderer) (c : Container) :
    r.leave c = (r.advance (.leave c)).perform (r.layout.effect (.leave c)) := by
  cases c with
  | list _ _ | definitionList _ | quotation _ | table _ | tableRow _ =>
    simp [leave, warnIf_eq, mapLayout]
  | listItem | definitionTerm | definitionDescription | quotationLine => simp [leave, mapLayout]
  | _ => simp [leave]

private theorem write_eq (r : Renderer) (c : Content) :
    .ok (r.write c) = (r.advance (.content c)).perform (r.layout.effect (.content c)) := by
  cases c with
  | escape text => simp [write, List.foldl_map]
  | horizontalLine p | standaloneMacro call | verbatimStandalone text p =>
    simp [write, separate_eq, printBlock]
  | _ => simp [write]

end

/-- An event moves the layout on by itself, and its effect is all that it does besides. -/
theorem deliver_eq (r : Renderer) (e : Event) :
    r.deliver e = (r.advance e).perform (r.layout.effect e) := by
  cases e with
  | enter c => exact enter_eq r c
  | leave c => exact leave_eq r c
  | content c => exact write_eq r c

/-- An effect leaves the layout and the warnings alone. -/
theorem perform_frame {r r' : Renderer} {x : Effect} (h : r.perform x = .ok r') :
    r'.layout = r.layout ∧ r'.warnings = r.warnings := by
  cases x with
  | print texts =>
    cases h
    rw [printAll_eq]
    exact ⟨print_layout _ r, print_warnings _ r⟩
  | settle =>
    cases h
    exact ⟨rfl, rfl⟩
  | enterFormat f p =>
    cases h
    unfold enterFormat
    repeat' split
    all_goals simp [printBlock, dropPending]
  | leaveFormat f p =>
    cases h
    unfold leaveFormat
    dsimp only
    split <;> simp
  | openScope opening sink =>
    cases h
    simp
  | leaveLink l freeStanding p =>
    simp only [perform, leaveLink] at h
    split at h <;> cases h
    simp
  | leaveMacroMarker call =>
    simp only [perform, leaveMacroMarker] at h
    split at h <;> cases h
    simp

theorem deliver_layout {r r' : Renderer} {e : Event} (h : r.deliver e = .ok r') :
    r'.layout = r.layout.after e := by
  rw [deliver_eq] at h
  exact (perform_frame h).1

theorem deliver_warnings {r r' : Renderer} {e : Event} (h : r.deliver e = .ok r') :
    r'.warnings = r.warnings ++ r.layout.complaints e := by
  rw [deliver_eq] at h
  exact (perform_frame h).2

/-! ## Maps of states -/

/-- A map of states that printing and pending parameters pass through. What only prints and looks at
pending parameters commutes with it. -/
structure Transparent (g : Renderer → Renderer) : Prop where
  print : ∀ text r, g (r.print text) = (g r).print text
  pending : ∀ r, (g r).pending = r.pending
  withPending : ∀ r q, g { r with pending := q } = { g r with pending := q }

namespace Transparent

variable {g : Renderer → Renderer}

theorem printAll (h : Transparent g) (texts : List String) (r : Renderer) :
    g (r.printAll texts) = (g r).printAll texts := by
  rw [printAll_eq, printAll_eq, h.print]

theorem enterFormat (h : Transparent g) (f : Format) (p : Parameters) (r : Renderer) :
    g (r.enterFormat f p) = (g r).enterFormat f p := by
  have hfull : g ((r.print f.delimiter).printBlock p false) =
      ((g r).print f.delimiter).printBlock p false := by
    rw [printBlock, h.print, h.print, printBlock]
  unfold Renderer.enterFormat
  rw [h.pending]
  split
  · split
    · rw [h.print, dropPending, h.withPending, dropPending]
    · exact hfull
  · exact hfull

theorem leaveFormat (h : Transparent g) (f : Format) (p : Parameters) (r : Renderer) :
    g (r.leaveFormat f p) = (g r).leaveFormat f p := by
  simp only [Renderer.leaveFormat, ← h.print]
  split
  · rfl
  · exact h.withPending _ _

end Transparent

/-! ## Lists of events -/

theorem deliverAll_cons (r : Renderer) (e : Event) (events : List Event) :
    r.deliverAll (e :: events) = (r.deliver e).bind fun r => r.deliverAll events := rfl

theorem deliverAll_append (r : Renderer) (past rest : List Event) :
    r.deliverAll (past ++ rest) = (r.deliverAll past).bind fun r => r.deliverAll rest := by
  induction past generalizing r with
  | nil => rfl
  | cons e past ih =>
    rw [List.cons_append, deliverAll_cons, deliverAll_cons]
    cases r.deliver e with
    | error error => rfl
    | ok r' => exact ih r'

theorem deliverAll_append_of_ok {r r' : Renderer} {past : List Event}
    (h : r.deliverAll past = .ok r') (rest : List Event) :
    r.deliverAll (past ++ rest) = r'.deliverAll rest := by
  rw [deliverAll_append, h]
  rfl

/-- The layout after a list of events is that of the layout alone. -/
theorem deliverAll_layout {r r' : Renderer} {events : List Event}
    (h : r.deliverAll events = .ok r') : r'.layout = events.foldl Layout.after r.layout := by
  induction events generalizing r with
  | nil =>
    cases h
    rfl
  | cons e events ih =>
    rw [deliverAll_cons] at h
    cases he : r.deliver e with
    | error error =>
      rw [he] at h
      cases h
    | ok next =>
      rw [he] at h
      rw [ih h, deliver_layout he, List.foldl_cons]

/-- The rendered text is the base text. -/
theorem finish_text (r : Renderer) : r.finish.text = r.sinks.base := by
  simp only [finish, warnIf_eq]

end Renderer

theorem render_eq_ok_iff {events : List Event} {t : Rendered} :
    render events = .ok t ↔ ∃ r, Renderer.initial.deliverAll events = .ok r ∧ r.finish = t := by
  cases h : Renderer.initial.deliverAll events with
  | error error => simp [render, h, bind, Except.bind]
  | ok r => simp [render, h, bind, Except.bind]

end WikiMarkup
