-- SUMMARY: Formatting spans in inline text: keeping parameters pending until the next text writes what a second pass over eagerly written tokens would.
import WikiMarkup.Proofs.Delivery
import WikiMarkup.Proofs.Mapping

/-!
# Resets of formatting spans

Where a span with parameters ends, a reset mark is due unless the next span continues with the same
parameters, or the paragraph ends. The renderer decides this when the next text comes. The
reference decides it afterwards: `Event.tokens` writes everything at once and keeps the places of
possible resets, and `resolve` then looks at what stands behind each. `deliverAll_inline` says that
both write the same.
-/

namespace WikiMarkup

/-! ## The reference -/

/-- A piece of inline text. -/
inductive Token where
  | text (text : String)
  /-- The begin of a span, with its parameters. -/
  | span (format : Format) (parameters : Parameters)
  /-- The place behind a span where its parameters may have to be reset. -/
  | reset (parameters : Parameters)
  deriving DecidableEq

/-- Whether an event is content inside of a line, or begins or ends a formatting span. -/
def Event.isInline : Event → Bool
  | .content (.horizontalLine _) | .content (.standaloneMacro _)
  | .content (.verbatimStandalone _ _) => false
  | .content _ | .enter (.format _ _) | .leave (.format _ _) => true
  | _ => false

/-- What an inline event writes at once. -/
def Event.tokens : Event → List Token
  | .content c => c.texts.map .text
  | .enter (.format f p) => [.span f p]
  | .leave (.format f p) => .text f.delimiter :: if p.isEmpty then [] else [.reset p]
  | _ => []

/-- The written form of tokens. A reset is left out at the end, and in front of a span with the same
parameters, which are then not repeated. -/
def resolve : List Token → String
  | [] => ""
  | .text text :: rest => text ++ resolve rest
  | .span f p :: rest => f.delimiter ++ p.block false ++ resolve rest
  | [.reset _] => ""
  | .reset q :: .span f p :: rest =>
    if q.SameMapping p then f.delimiter ++ resolve rest
    else resetMark ++ (f.delimiter ++ p.block false ++ resolve rest)
  | .reset _ :: rest => resetMark ++ resolve rest

/-- Drops texts that are empty. -/
def visible (tokens : List Token) : List Token := tokens.filter (· ≠ .text "")

/-- The written form of inline events. -/
def inlineText (events : List Event) : String := resolve (visible (events.flatMap Event.tokens))

/-! ## One token -/

theorem Format.delimiter_ne_empty (f : Format) : f.delimiter ≠ "" := by
  cases f <;> decide

namespace Renderer

/-- Writes a token. -/
def emit (r : Renderer) : Token → Renderer
  | .text text => r.print text
  | .span f p => r.enterFormat f p
  | .reset p => { r with sinks := r.sinks.write r.reset, pending := some p }

theorem deliver_inline (r : Renderer) {e : Event} (h : e.isInline = true) :
    r.deliver e = .ok (e.tokens.foldl emit r) := by
  cases e with
  | enter c =>
    cases c with
    | format f p => rfl
    | _ => cases h
  | leave c =>
    cases c with
    | format f p =>
      have hreset : (r.print f.delimiter).reset = "" := by
        rw [print_of_ne_empty f.delimiter_ne_empty]
        rfl
      refine congrArg Except.ok (?_ : r.leaveFormat f p = _)
      by_cases hp : p.isEmpty = true
      · simp [leaveFormat, Event.tokens, hp, emit]
      · simp [leaveFormat, Event.tokens, hp, emit, hreset]
    | _ => cases h
  | content c =>
    cases c with
    | horizontalLine p | standaloneMacro call | verbatimStandalone text p => cases h
    | escape text =>
      refine congrArg Except.ok ?_
      simp only [write, Event.tokens, Content.texts, List.foldl_map]
      rfl
    | _ => rfl

theorem emit_text {text : String} (h : text ≠ "") (r : Renderer) :
    r.emit (.text text) = { r with sinks := r.sinks.write (r.reset ++ text), pending := none } :=
  print_of_ne_empty h r

/-- A span writes its parameters unless the pending ones are the same. -/
theorem emit_span (f : Format) (p : Parameters) (r : Renderer) :
    r.emit (.span f p) = { r with
      sinks := r.sinks.write (match r.pending with
        | some q =>
          if q.SameMapping p then f.delimiter else resetMark ++ (f.delimiter ++ p.block false)
        | none => f.delimiter ++ p.block false)
      pending := none } := by
  have hfull : (r.print f.delimiter).printBlock p false = { r with
      sinks := r.sinks.write (r.reset ++ (f.delimiter ++ p.block false)), pending := none } := by
    have hne : f.delimiter ++ p.block false ≠ "" := by simp [f.delimiter_ne_empty]
    rw [printBlock, print_print, print_of_ne_empty hne]
  rcases r with ⟨sinks, layout, _ | q, warnings⟩
  · exact hfull
  · by_cases h : q.agrees p = true
    · have hsame : q.SameMapping p := Parameters.agrees_iff.mp h
      simp only [emit, enterFormat, if_pos h, if_pos hsame, dropPending]
      exact print_of_ne_empty f.delimiter_ne_empty _
    · have hdiffer : ¬ q.SameMapping p := fun hsame => h (Parameters.agrees_iff.mpr hsame)
      simp only [emit, enterFormat, if_neg h, if_neg hdiffer]
      exact hfull

/-! ## All tokens -/

/-- The reset that pending parameters stand for. -/
def owedReset (pending : Option Parameters) : List Token :=
  match pending with
  | some q => [.reset q]
  | none => []

/-- The pending parameters are a reset in front of the tokens to come. -/
theorem emitAll_settled (tokens : List Token) (r : Renderer) :
    (tokens.foldl emit r).dropPending = { r with
      sinks := r.sinks.write (resolve (owedReset r.pending ++ visible tokens))
      pending := none } := by
  induction tokens generalizing r with
  | nil =>
    rcases r with ⟨sinks, layout, _ | q, warnings⟩
    · simp [visible, owedReset, resolve, dropPending]
    · simp [visible, owedReset, resolve, dropPending]
  | cons token rest ih =>
    rw [List.foldl_cons, ih]
    cases token with
    | text text =>
      by_cases h : text = ""
      · subst h
        simp [visible, emit]
      · have hvisible : visible (.text text :: rest) = .text text :: visible rest := by
          simp [visible, h]
        rw [hvisible, emit_text h]
        rcases r with ⟨sinks, layout, _ | q, warnings⟩
        · simp [owedReset, resolve, reset]
        · simp [owedReset, resolve, reset, String.append_assoc]
    | span f p =>
      have hvisible : visible (.span f p :: rest) = .span f p :: visible rest := by
        simp [visible]
      rw [hvisible, emit_span]
      rcases r with ⟨sinks, layout, _ | q, warnings⟩
      · simp [owedReset, resolve]
      · by_cases hsame : q.SameMapping p
        · simp [owedReset, resolve, hsame]
        · simp [owedReset, resolve, hsame, String.append_assoc]
    | reset p =>
      have hvisible : visible (.reset p :: rest) = .reset p :: visible rest := by
        simp [visible]
      rw [hvisible]
      rcases r with ⟨sinks, layout, _ | q, warnings⟩
      · simp [owedReset, emit, reset]
      · simp [owedReset, resolve, emit, reset]

theorem deliverAll_tokens {events : List Event} (h : ∀ e ∈ events, e.isInline = true)
    (r : Renderer) :
    r.deliverAll events = .ok ((events.flatMap Event.tokens).foldl emit r) := by
  induction events generalizing r with
  | nil => rfl
  | cons e events ih =>
    rw [deliverAll_cons, deliver_inline r (h e List.mem_cons_self), List.flatMap_cons,
      List.foldl_append]
    exact ih (fun e' he' => h e' (List.mem_cons_of_mem e he')) _

end Renderer

/-! ## Inline text of a paragraph -/

/-- With nothing pending before, inline events up to the end of a paragraph append what the
reference writes, and change nothing else. -/
theorem deliverAll_inline {events : List Event} (h : ∀ e ∈ events, e.isInline = true)
    {r : Renderer} (hpending : r.pending = none) (p : Parameters) :
    r.deliverAll (events ++ [.leave (.paragraph p)]) =
      .ok { r with sinks := r.sinks.write (inlineText events) } := by
  have hsettled := Renderer.emitAll_settled (events.flatMap Event.tokens) r
  rw [Renderer.deliverAll_append_of_ok (Renderer.deliverAll_tokens h r)]
  refine congrArg Except.ok (hsettled.trans ?_)
  simp only [hpending, Renderer.owedReset, List.nil_append, inlineText]

/-- The same parameters in another order carry over to the next span, also across an empty word. -/
theorem deliverAll_inline_spans :
    let p := Parameters.ofList [("a", "1"), ("b", "2")]
    let q := Parameters.ofList [("b", "2"), ("a", "1")]
    let events : List Event := [.enter (.format .bold p), .content (.word "x"),
      .leave (.format .bold p), .content (.word ""), .enter (.format .italic q),
      .content (.word "y"), .leave (.format .italic q), .content .space]
    (∀ e ∈ events, e.isInline = true) ∧ Renderer.initial.pending = none ∧
      Renderer.initial.deliverAll (events ++ [.leave (.paragraph .empty)]) =
        .ok { Renderer.initial with
          sinks := Sinks.empty.write "**(% a=\"1\" b=\"2\" %)x**//y//(%%) " } := by
  intro p q events
  have hinline : ∀ e ∈ events, e.isInline = true := by decide
  refine ⟨hinline, rfl, (deliverAll_inline hinline rfl .empty).trans ?_⟩
  rfl

end WikiMarkup
