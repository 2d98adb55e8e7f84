-- SUMMARY: Families of containers with their items, and the lists of events in which every container is closed where it was opened.
import WikiMarkup.Document.Event

/-!
# Nesting

Lists, definition lists, quotations and tables each have items of their own. A list of events is
well nested if each end closes the innermost container still open, nothing stays open, and every
item stands somewhere inside a container of its family. The parameters of an end need not be those
of the begin: most ends come without any, and equal parameters may stand in another order.

The definition runs: it follows the events with the stack of the open containers. An invariant of
a run is therefore stated beside that stack, and proved for one event.
-/

namespace WikiMarkup

/-! ## Families -/

/-- The constructs that consist of items. -/
inductive ItemFamily where
  | list
  | definition
  | quotation
  | table
  deriving DecidableEq, Repr

/-- The same node with its attributes taken away. -/
def MarkupNode.bare : MarkupNode → MarkupNode
  | element name _ => element name .empty
  | node => node

namespace Container

/-- The family of which a container opens one more level. -/
def family? : Container → Option ItemFamily
  | list _ _ => some .list
  | definitionList _ => some .definition
  | quotation _ => some .quotation
  | table _ => some .table
  | _ => none

/-- The family of which a container is an item. -/
def home? : Container → Option ItemFamily
  | listItem => some .list
  | definitionTerm | definitionDescription => some .definition
  | quotationLine => some .quotation
  | tableRow _ => some .table
  | _ => none

/-- Whether a container belongs to a family, as one of its levels or as one of its items. -/
def concerns (f : ItemFamily) (c : Container) : Bool := c.family? = some f || c.home? = some f

/-- Whether a container may be opened inside those of the stack: an item needs its family there. -/
def fits (stack : List Container) (c : Container) : Bool :=
  match c.home? with
  | some f => stack.any fun outer => outer.family? = some f
  | none => true

/-- No container is both a level and an item. -/
theorem home?_eq_none_of_family? {c : Container} {f : ItemFamily} (h : c.family? = some f) :
    c.home? = none := by
  cases c <;> first | rfl | cases h

/-! ## Ends -/

/-- The same container with all parameters taken away. -/
def bare : Container → Container
  | paragraph _ => paragraph .empty
  | heading level _ => heading level .empty
  | list kind _ => list kind .empty
  | definitionList _ => definitionList .empty
  | quotation _ => quotation .empty
  | table _ => table .empty
  | tableRow _ => tableRow .empty
  | tableCell _ => tableCell .empty
  | tableHeadCell _ => tableHeadCell .empty
  | link target freeStanding _ => link target freeStanding .empty
  | format f _ => format f .empty
  | macroMarker call => macroMarker { call with parameters := .empty }
  | markupNode node => markupNode node.bare
  | c => c

/-- The end of the one closes the other: they are the same, whatever their parameters. -/
def Closes (c top : Container) : Prop := c.bare = top.bare

instance (c top : Container) : Decidable (c.Closes top) :=
  inferInstanceAs (Decidable (c.bare = top.bare))

theorem family?_bare (c : Container) : c.bare.family? = c.family? := by
  cases c <;> rfl

theorem home?_bare (c : Container) : c.bare.home? = c.home? := by
  cases c <;> rfl

namespace Closes

variable {c top : Container}

/-- What does not look at parameters does not tell an end from its begin. -/
theorem congr {α : Type} (h : c.Closes top) {f : Container → α} (hf : ∀ c, f c.bare = f c) :
    f c = f top := by
  rw [← hf c, h, hf]

theorem family? (h : c.Closes top) : c.family? = top.family? := h.congr family?_bare

theorem home? (h : c.Closes top) : c.home? = top.home? := h.congr home?_bare

theorem fits (h : c.Closes top) (stack : List Container) : c.fits stack = top.fits stack := by
  rw [Container.fits, Container.fits, h.home?]

theorem concerns (h : c.Closes top) (f : ItemFamily) : c.concerns f = top.concerns f := by
  rw [Container.concerns, Container.concerns, h.family?, h.home?]

end Closes

end Container

/-! ## The stack of open containers -/

/-- The open containers after an event, innermost first, if the event nests. -/
def nest (stack : List Container) : Event → Option (List Container)
  | .enter c => if c.fits stack then some (c :: stack) else none
  | .leave c =>
    match stack with
    | [] => none
    | top :: below => if c.Closes top then some below else none
  | .content _ => some stack

/-- The open containers after a list of events, if every event nests. -/
def nestAll (stack : List Container) : List Event → Option (List Container)
  | [] => some stack
  | e :: events => (nest stack e).bind fun stack => nestAll stack events

/-- Every container is closed where it was opened, and every item is inside its family. -/
def WellNested (events : List Event) : Prop := nestAll [] events = some []

instance (events : List Event) : Decidable (WellNested events) :=
  inferInstanceAs (Decidable (nestAll [] events = some []))

/-- An end without parameters closes what began with some. -/
example : WellNested [.enter (.paragraph (.ofList [("a", "1")])), .leave (.paragraph .empty)] := by
  decide

theorem nestAll_append (stack : List Container) (past rest : List Event) :
    nestAll stack (past ++ rest) = (nestAll stack past).bind fun stack => nestAll stack rest := by
  induction past generalizing stack with
  | nil => rfl
  | cons e past ih =>
    simp only [List.cons_append, nestAll, Option.bind_assoc]
    exact congrArg (nest stack e).bind (funext fun stack => ih stack)

/-- Before each of its events, a well-nested list has a stack of open containers. -/
theorem WellNested.stack_of_append {past rest : List Event} (h : WellNested (past ++ rest)) :
    ∃ stack, nestAll [] past = some stack ∧ nestAll stack rest = some [] := by
  rw [WellNested, nestAll_append] at h
  exact Option.bind_eq_some_iff.mp h

/-- What an event that nests is, and what it leaves open. -/
theorem nest_cases {stack stack' : List Container} {e : Event} (h : nest stack e = some stack') :
    (∃ c, e = .enter c ∧ c.fits stack = true ∧ stack' = c :: stack) ∨
    (∃ c top, e = .leave c ∧ c.Closes top ∧ stack = top :: stack') ∨
    (∃ c, e = .content c ∧ stack' = stack) := by
  cases e with
  | enter c =>
    simp only [nest, Option.ite_none_right_eq_some, Option.some.injEq] at h
    exact .inl ⟨c, rfl, h.1, h.2.symm⟩
  | leave c =>
    cases stack with
    | nil => cases h
    | cons top below =>
      simp only [nest, Option.ite_none_right_eq_some, Option.some.injEq] at h
      exact .inr (.inl ⟨c, top, rfl, h.1, by rw [h.2]⟩)
  | content c =>
    simp only [nest, Option.some.injEq] at h
    exact .inr (.inr ⟨c, rfl, h.symm⟩)

/-- Each item of the stack has its family below it. -/
def Grounded : List Container → Prop
  | [] => True
  | c :: below => c.fits below = true ∧ Grounded below

theorem Grounded.nest {stack stack' : List Container} {e : Event} (h : Grounded stack)
    (hn : nest stack e = some stack') : Grounded stack' := by
  obtain ⟨c, -, hfits, rfl⟩ | ⟨c, top, -, -, rfl⟩ | ⟨c, -, rfl⟩ := nest_cases hn
  · exact ⟨hfits, h⟩
  · exact h.2
  · exact h

/-- What every event preserves holds after the whole run. The invariant sees the events so far. -/
theorem nestAll_invariant {P : List Event → List Container → Prop}
    (step : ∀ {past stack e stack'}, P past stack → nest stack e = some stack' →
      P (past ++ [e]) stack')
    {past events : List Event} {stack stack' : List Container} (h : P past stack)
    (hn : nestAll stack events = some stack') : P (past ++ events) stack' := by
  induction events generalizing past stack with
  | nil =>
    cases hn
    rwa [List.append_nil]
  | cons e events ih =>
    obtain ⟨middle, he, hrest⟩ := Option.bind_eq_some_iff.mp hn
    rw [List.append_cons]
    exact ih (step h he) hrest

end WikiMarkup
