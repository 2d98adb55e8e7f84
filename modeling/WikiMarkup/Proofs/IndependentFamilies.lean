-- SUMMARY: Each family remembers its own events only, and what an event of a family writes follows from those, for definition lists also from the events of lists.
import WikiMarkup.Proofs.UnmatchedEnds

/-!
# Independent families

What is remembered of a family is moved on by the events of the family and left alone by all others.
So of any events, however the families are mixed, only its own count for it, and the separator and
the texts of an event can be told from the earlier events of its family. Definition lists are the
one exception: inside of a list item they look at what is remembered of lists. And a blank line is
left out if none has been owed before, whatever the family.
-/

namespace WikiMarkup

/-! ## What is remembered of a family -/

/-- What a layout holds of a family. -/
def ItemFamily.Memory : ItemFamily → Type
  | .list => Lists
  | .definition | .quotation => Nested
  | .table => Tables

/-- What is remembered of a family. -/
def Layout.memory (l : Layout) : (f : ItemFamily) → f.Memory
  | .list => l.lists
  | .definition => l.definitions
  | .quotation => l.quotations
  | .table => l.tables

/-- What is remembered of a family after an event. -/
def ItemFamily.after : (f : ItemFamily) → f.Memory → Event → f.Memory
  | .list => Lists.after
  | .definition => Nested.after .definition
  | .quotation => Nested.after .quotation
  | .table => Tables.after

theorem Layout.memory_after (l : Layout) (e : Event) (f : ItemFamily) :
    (l.after e).memory f = f.after (l.memory f) e := by
  cases f <;> rfl

theorem Nested.after_other {f : ItemFamily} {e : Event} (h : e.concerns f = false) (n : Nested) :
    n.after f e = n := by
  cases e with
  | enter c | leave c =>
    obtain ⟨hlevel, hitem⟩ : ¬ c.family? = some f ∧ ¬ c.home? = some f := by
      simpa [Event.concerns, Container.concerns] using h
    simp only [after, if_neg hlevel, if_neg hitem]
  | content c => rfl

theorem Tables.after_other {e : Event} (h : e.concerns .table = false) (t : Tables) :
    t.after e = t := by
  cases e with
  | enter c =>
    cases c
    case table => cases h
    all_goals rfl
  | leave c =>
    cases c
    case table | tableRow => cases h
    all_goals rfl
  | content c => rfl

namespace ItemFamily

variable {f : ItemFamily} {e : Event}

/-- An event of other families, or of none, changes nothing. -/
theorem after_other (h : e.concerns f = false) (m : f.Memory) : f.after m e = m := by
  cases f with
  | list => exact Lists.after_other h m
  | definition => exact Nested.after_other h m
  | quotation => exact Nested.after_other h m
  | table => exact Tables.after_other h m

/-- Only the events of the family count. -/
theorem foldl_after_filter (events : List Event) (m : f.Memory) :
    (events.filter (·.concerns f)).foldl f.after m = events.foldl f.after m := by
  induction events generalizing m with
  | nil => rfl
  | cons e events ih =>
    cases h : e.concerns f with
    | true =>
      rw [List.filter_cons_of_pos h, List.foldl_cons, List.foldl_cons]
      exact ih _
    | false =>
      rw [List.filter_cons_of_neg (by simp [h]), List.foldl_cons, after_other h]
      exact ih m

end ItemFamily

namespace Renderer

variable (r : Renderer)

theorem memory_attempt (e : Event) (f : ItemFamily) :
    (r.attempt e).layout.memory f =
      if e.concerns f then f.after (r.layout.memory f) e else r.layout.memory f := by
  rw [attempt_layout, Layout.memory_after]
  split
  · rfl
  · next h => exact ItemFamily.after_other (by simpa using h) _

theorem memory_attemptAll (events : List Event) (f : ItemFamily) :
    (r.attemptAll events).layout.memory f = events.foldl f.after (r.layout.memory f) := by
  rw [attemptAll_layout]
  generalize r.layout = l
  induction events generalizing l with
  | nil => rfl
  | cons e events ih => rw [List.foldl_cons, List.foldl_cons, ih, Layout.memory_after]

/-- Events that are the same for a family leave the same behind. -/
theorem memory_attemptAll_congr {f : ItemFamily} {past past' : List Event}
    (h : past.filter (·.concerns f) = past'.filter (·.concerns f)) :
    (r.attemptAll past).layout.memory f = (r.attemptAll past').layout.memory f := by
  rw [memory_attemptAll, memory_attemptAll, ← ItemFamily.foldl_after_filter past, h,
    ItemFamily.foldl_after_filter]

end Renderer

/-! ## What an event writes -/

/-- The families that separators and texts of a family depend on. -/
def ItemFamily.looksAt : ItemFamily → List ItemFamily
  | .definition => [.definition, .list]
  | f => [f]

namespace Layout

/-- Whether a blank line is owed before one of the events. -/
def owesBlock (l : Layout) : List Event → Bool
  | [] => false
  | e :: events => l.owed e = .block || (l.after e).owesBlock events

theorem blockBegun_foldl_after (l : Layout) (events : List Event) :
    (events.foldl after l).blockBegun = (l.blockBegun || l.owesBlock events) := by
  induction events generalizing l with
  | nil => exact (Bool.or_false _).symm
  | cons e events ih =>
    rw [List.foldl_cons, ih, owesBlock, ← Bool.or_assoc]
    rfl

variable {l l' : Layout} {e : Event}

/-- What is due before an event and what stands behind it follow from what is remembered of the
families that the family of the event looks at. An event of no family needs nothing. -/
theorem owed_texts_congr
    (h : ∀ f : ItemFamily, e.concerns f = true → ∀ g ∈ f.looksAt, l.memory g = l'.memory g) :
    l.owed e = l'.owed e ∧ l.texts e = l'.texts e := by
  cases e with
  | content c => cases c <;> exact ⟨rfl, rfl⟩
  | leave c => cases c <;> exact ⟨rfl, rfl⟩
  | enter c =>
    cases c
    case list | listItem =>
      have hlists : l.lists = l'.lists := h .list rfl .list (by decide)
      simp [owed, texts, hlists]
    case definitionList | definitionTerm | definitionDescription =>
      have hdefinitions : l.definitions = l'.definitions :=
        h .definition rfl .definition (by decide)
      have hlists : l.lists = l'.lists := h .definition rfl .list (by decide)
      simp [owed, texts, definitionSeparator, definitionMarker, hdefinitions, hlists]
    case quotation | quotationLine =>
      have hquotations : l.quotations = l'.quotations := h .quotation rfl .quotation (by decide)
      simp [owed, texts, quotationMarker, hquotations]
    case table | tableRow =>
      have htables : l.tables = l'.tables := h .table rfl .table (by decide)
      simp [owed, texts, htables]
    all_goals exact ⟨rfl, rfl⟩

/-- A separator is written alike unless it is a blank line that only one layout has room for. -/
theorem separatorText_congr {s : Separator} (h : s = .block → l.blockBegun = l'.blockBegun) :
    l.separatorText s = l'.separatorText s := by
  cases s with
  | none | newline => rfl
  | block => rw [separatorText, separatorText, h rfl]

/-- Of the layout an effect has the separator and the texts only. -/
theorem effect_congr (howed : l.owed e = l'.owed e) (htexts : l.texts e = l'.texts e)
    (hbegun : l.owed e = .block → l.blockBegun = l'.blockBegun) : l.effect e = l'.effect e := by
  have hprint : Effect.print (l.separatorText (l.owed e) :: l.texts e) =
      .print (l'.separatorText (l'.owed e) :: l'.texts e) := by
    rw [← howed, htexts, separatorText_congr hbegun]
  cases e with
  | enter c | leave c => cases c <;> first | rfl | exact hprint
  | content c => exact hprint

end Layout

/-- What is remembered of a family is moved on by its own events, in a way that follows from it
alone, and left alone by every other event, so that behind any events, failing ones among them, it
is what the events of the family by themselves would leave behind. An event owes the same separator
and has the same texts behind all events that are the same for its family, or, for a definition
list, term or description, for definition lists and for lists. Unless it owes a blank line, and one
has been owed before in only one case, its effect is the same. -/
theorem families_independent (r : Renderer) :
    (∀ f e, (r.attempt e).layout.memory f =
      if e.concerns f then f.after (r.layout.memory f) e else r.layout.memory f) ∧
    (∀ f events, (r.attemptAll events).layout.memory f =
      (r.attemptAll (events.filter (·.concerns f))).layout.memory f) ∧
    ∀ past past' e, (∀ f : ItemFamily, e.concerns f = true → ∀ g ∈ f.looksAt,
        past.filter (·.concerns g) = past'.filter (·.concerns g)) →
      let s := r.attemptAll past
      let s' := r.attemptAll past'
      s.layout.owed e = s'.layout.owed e ∧ s.layout.texts e = s'.layout.texts e ∧
        ((s.layout.owed e = .block → r.layout.owesBlock past = r.layout.owesBlock past') →
          s.deliver e = (s.advance e).perform (s.layout.effect e) ∧
          s'.deliver e = (s'.advance e).perform (s.layout.effect e)) := by
  refine ⟨fun f e => r.memory_attempt e f, fun f events => ?_, fun past past' e hpast => ?_⟩
  · apply r.memory_attemptAll_congr
    rw [List.filter_filter]
    simp only [Bool.and_self]
  · intro s s'
    have hmemory : ∀ f : ItemFamily, e.concerns f = true → ∀ g ∈ f.looksAt,
        s.layout.memory g = s'.layout.memory g :=
      fun f hf g hg => r.memory_attemptAll_congr (hpast f hf g hg)
    obtain ⟨howed, htexts⟩ := Layout.owed_texts_congr hmemory
    refine ⟨howed, htexts, fun hblock => ⟨s.deliver_eq e, ?_⟩⟩
    have hbegun : s.layout.owed e = .block → s.layout.blockBegun = s'.layout.blockBegun := by
      intro h
      simp only [s, s', Renderer.attemptAll_layout, Layout.blockBegun_foldl_after, hblock h]
    rw [Layout.effect_congr howed htexts hbegun]
    exact s'.deliver_eq e

/-- A description inside of a numbered list item, in a link label behind a paragraph, a row and an
end that fails, is written as it is without all these. -/
theorem families_independent_mixture :
    let past : List Event := [.enter (.paragraph .empty), .enter (.list .numbered .empty),
      .leave (.macroMarker ⟨"m", .empty, none⟩), .enter (.link (.document "D") false .empty),
      .enter (.definitionList .empty), .enter (.tableRow .empty), .enter .definitionTerm,
      .enter (.quotation .empty), .leave .definitionTerm, .enter .listItem]
    let past' : List Event := [.enter (.list .numbered .empty), .enter .listItem,
      .enter (.definitionList .empty), .enter .definitionTerm, .leave .definitionTerm]
    let e : Event := .enter .definitionDescription
    let s := Renderer.initial.attemptAll past
    let s' := Renderer.initial.attemptAll past'
    (∀ f : ItemFamily, e.concerns f = true → ∀ g ∈ f.looksAt,
        past.filter (·.concerns g) = past'.filter (·.concerns g)) ∧
      s.deliver e = .ok ((s.advance e).printAll ["\n", "1.: "]) ∧
      s'.deliver e = .ok ((s'.advance e).printAll ["\n", "1.: "]) := by
  intro past past' e s s'
  have hpast : ∀ f : ItemFamily, e.concerns f = true → ∀ g ∈ f.looksAt,
      past.filter (·.concerns g) = past'.filter (·.concerns g) := by
    intro f
    cases f <;> decide
  obtain ⟨-, -, hevent⟩ := families_independent .initial
  obtain ⟨howed, htexts, hdeliver⟩ := hevent past past' e hpast
  have hnewline : s.layout.owed e = .newline := howed.trans (by decide)
  have hmarker : s.layout.texts e = ["1.: "] := htexts.trans (by decide)
  have heffect : s.layout.effect e = .print ["\n", "1.: "] := by
    change Effect.print (s.layout.separatorText (s.layout.owed e) :: s.layout.texts e) = _
    rw [hnewline, hmarker]
    rfl
  obtain ⟨hs, hs'⟩ := hdeliver fun h => by cases hnewline.symm.trans h
  rw [heffect] at hs hs'
  exact ⟨hpast, hs, hs'⟩

end WikiMarkup
