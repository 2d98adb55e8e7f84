-- SUMMARY: Nested quotations, definition lists and lists with definitions: however deep an item stands, it is one line behind the marker of its depth.
import WikiMarkup.Proofs.Outlines

/-!
# Nested items

Quotations, definition lists and lists have the same shape. A container holds at least one item, and
an item has a head and at most one container of the same family behind the head. One pair of flags
serves all depths of a family, so what must be seen is that an item ends with the same flags whether
or not a container stands in it, and that a container in an item finds the flags of an item that has
just begun.

A `Grammar` says which events a family has, and `Laid` what they do to a state with some containers
open. From this the induction along the tree is made once. The families differ in their markers, and
in that an item of a list may hold a definition list behind its text: with the flags of the
definitions clear before and behind, the lists do not notice it.
-/

namespace WikiMarkup

/-! ## Trees and their lines -/

mutual

/-- A container of some kind with its items. -/
inductive Nesting (κ ι : Type) where
  | container (kind : κ) (items : NestingItems κ ι)

/-- At least one item. -/
inductive NestingItems (κ ι : Type) where
  | last (item : NestingItem κ ι)
  | cons (item : NestingItem κ ι) (rest : NestingItems κ ι)

/-- An item: its head, and the container behind the head if there is one. -/
inductive NestingItem (κ ι : Type) where
  | plain (head : ι)
  | parent (head : ι) (inner : Nesting κ ι)

end

/-- The events of a family of containers and items. -/
structure Grammar (κ ι : Type) where
  container : κ → Container
  item : ι → Container
  /-- The events of the head of an item. -/
  head : ι → List Event

variable {κ ι : Type}

mutual

def Nesting.events (G : Grammar κ ι) : Nesting κ ι → List Event
  | .container kind items =>
    .enter (G.container kind) :: (items.events G ++ [.leave (G.container kind)])

def NestingItems.events (G : Grammar κ ι) : NestingItems κ ι → List Event
  | .last item => item.events G
  | .cons item rest => item.events G ++ rest.events G

def NestingItem.events (G : Grammar κ ι) : NestingItem κ ι → List Event
  | .plain head => .enter (G.item head) :: (G.head head ++ [.leave (G.item head)])
  | .parent head inner =>
    .enter (G.item head) :: ((G.head head ++ inner.events G) ++ [.leave (G.item head)])

end

mutual

/-- The lines of a container inside of those kinds, innermost first, where `headLines` are those of
the head of an item. -/
def Nesting.lines (headLines : List κ → ι → List String) (around : List κ) :
    Nesting κ ι → List String
  | .container kind items => items.lines headLines (kind :: around)

def NestingItems.lines (headLines : List κ → ι → List String) (around : List κ) :
    NestingItems κ ι → List String
  | .last item => item.lines headLines around
  | .cons item rest => item.lines headLines around ++ rest.lines headLines around

def NestingItem.lines (headLines : List κ → ι → List String) (around : List κ) :
    NestingItem κ ι → List String
  | .plain head => headLines around head
  | .parent head inner => headLines around head ++ inner.lines headLines around

end

/-! ## Runs -/

/-- What the events of a family do to a state: `place r kinds i` is the state `r` with containers of
these kinds open, innermost first, and with these flags of their items. -/
structure Grammar.Laid (G : Grammar κ ι) (headLines : List κ → ι → List String)
    (Ready : Renderer → Prop) (place : Renderer → List κ → Items → Renderer) : Prop where
  headLines_ne_nil (around : List κ) (head : ι) : headLines around head ≠ []
  append {r : Renderer} (h : Ready r) (text : String) : Ready (r.append text)
  /-- The lines of a head stand behind the line end that is due before its item. -/
  begin_item {r : Renderer} (h : Ready r) (kinds : List κ) (i : Items) (head : ι) :
    (place r kinds i).deliverAll (.enter (G.item head) :: G.head head) =
      .ok (place (r.append (i.lineEnd ++ "\n".intercalate (headLines kinds head))) kinds
        ⟨true, false⟩)
  end_item (r : Renderer) (kinds : List κ) (i : Items) (head : ι) :
    (place r kinds i).deliver (.leave (G.item head)) = .ok (place r kinds i.endItem)
  /-- Behind the head of an item a container starts a new line. -/
  begin_inner {r : Renderer} (h : Ready r) (kinds : List κ) (kind : κ) :
    (place r kinds ⟨true, false⟩).deliver (.enter (G.container kind)) =
      .ok (place (r.append "\n") (kind :: kinds) ⟨false, false⟩)
  /-- The end of a container inside of another keeps the flags of its last item. -/
  end_inner (r : Renderer) (outer : κ) (kinds : List κ) (kind : κ) (i : Items) :
    (place r (kind :: outer :: kinds) i).deliver (.leave (G.container kind)) =
      .ok (place r (outer :: kinds) i)
  end_outermost (r : Renderer) (kind : κ) (i : Items) :
    (place r [kind] i).deliver (.leave (G.container kind)) = .ok (place r [] .initial)

section

variable {G : Grammar κ ι} {headLines : List κ → ι → List String} {Ready : Renderer → Prop}
  {place : Renderer → List κ → Items → Renderer}

theorem NestingItem.lines_ne_nil (L : G.Laid headLines Ready place) (around : List κ)
    (item : NestingItem κ ι) : item.lines headLines around ≠ [] := by
  have hhead := L.headLines_ne_nil around
  cases item with
  | plain head => exact hhead head
  | parent head inner => simp [lines, hhead]

theorem NestingItems.lines_ne_nil (L : G.Laid headLines Ready place) (around : List κ)
    (items : NestingItems κ ι) : items.lines headLines around ≠ [] := by
  cases items with
  | last item => exact item.lines_ne_nil L around
  | cons item rest => simp [lines, item.lines_ne_nil L]

theorem Nesting.lines_ne_nil (L : G.Laid headLines Ready place) (around : List κ)
    (n : Nesting κ ι) : n.lines headLines around ≠ [] := by
  cases n with
  | container kind items => exact items.lines_ne_nil L (kind :: around)

mutual

/-- A container inside of an item writes its lines below those of the head, and ends with the flags
of an item that has ended. -/
theorem Nesting.deliverAll_events (L : G.Laid headLines Ready place) (n : Nesting κ ι) (outer : κ)
    (kinds : List κ) {r : Renderer} (h : Ready r) :
    (place r (outer :: kinds) ⟨true, false⟩).deliverAll (n.events G) =
      .ok (place (r.append ("\n" ++ "\n".intercalate (n.lines headLines (outer :: kinds))))
        (outer :: kinds) ⟨true, true⟩) := by
  cases n with
  | container kind items =>
    have henter := L.begin_inner h (outer :: kinds) kind
    have hitems := items.deliverAll_events L kind (outer :: kinds) ⟨false, false⟩
      (L.append h "\n")
    rw [Items.lineEnd_fresh, String.empty_append, Renderer.append_append] at hitems
    exact Renderer.deliverAll_enclosed henter hitems (L.end_inner _ outer kinds kind ⟨true, true⟩)

/-- Items write their lines, the first behind the line end that it finds due. -/
theorem NestingItems.deliverAll_events (L : G.Laid headLines Ready place)
    (items : NestingItems κ ι) (kind : κ) (kinds : List κ) (i : Items) {r : Renderer}
    (h : Ready r) :
    (place r (kind :: kinds) i).deliverAll (items.events G) =
      .ok (place (r.append (i.lineEnd ++ "\n".intercalate (items.lines headLines (kind :: kinds))))
        (kind :: kinds) ⟨true, true⟩) := by
  cases items with
  | last item => exact item.deliverAll_events L kind kinds i h
  | cons item rest =>
    have hitem := item.deliverAll_events L kind kinds i h
    have hrest := rest.deliverAll_events L kind kinds ⟨true, true⟩
      (L.append h (i.lineEnd ++ "\n".intercalate (item.lines headLines (kind :: kinds))))
    rw [Renderer.append_append, Items.lineEnd_ended] at hrest
    rw [NestingItems.lines, String.intercalate_append_of_ne_nil (item.lines_ne_nil L _)
      (rest.lines_ne_nil L _), NestingItems.events, Renderer.deliverAll_append_of_ok hitem, hrest]
    simp only [String.append_assoc]

/-- An item writes its lines behind the line end that it finds due, and ends with the flags of an
item that has ended, whether or not it holds a container. -/
theorem NestingItem.deliverAll_events (L : G.Laid headLines Ready place)
    (item : NestingItem κ ι) (kind : κ) (kinds : List κ) (i : Items) {r : Renderer}
    (h : Ready r) :
    (place r (kind :: kinds) i).deliverAll (item.events G) =
      .ok (place (r.append (i.lineEnd ++ "\n".intercalate (item.lines headLines (kind :: kinds))))
        (kind :: kinds) ⟨true, true⟩) := by
  cases item with
  | plain head =>
    have hhead := L.begin_item h (kind :: kinds) i head
    exact Renderer.deliverAll_concat hhead (L.end_item _ (kind :: kinds) ⟨true, false⟩ head)
  | parent head inner =>
    have hhead := L.begin_item h (kind :: kinds) i head
    have hinner := inner.deliverAll_events L kind kinds
      (L.append h (i.lineEnd ++ "\n".intercalate (headLines (kind :: kinds) head)))
    rw [Renderer.append_append] at hinner
    have hinside := (Renderer.deliverAll_append_of_ok hhead (inner.events G)).trans hinner
    rw [NestingItem.lines, String.intercalate_append_of_ne_nil (L.headLines_ne_nil _ _)
      (inner.lines_ne_nil L _)]
    simp only [String.append_assoc] at hinside ⊢
    exact Renderer.deliverAll_concat hinside (L.end_item _ (kind :: kinds) ⟨true, true⟩ head)

end

/-- A tree that is in no container of its family writes its lines, and leaves nothing open. -/
theorem Nesting.deliverAll_outermost (L : G.Laid headLines Ready place) (n : Nesting κ ι)
    {start r : Renderer} (h : Ready r)
    (hbegin : ∀ kind, start.deliver (.enter (G.container kind)) = .ok (place r [kind] .initial)) :
    start.deliverAll (n.events G) =
      .ok (place (r.append ("\n".intercalate (n.lines headLines []))) [] .initial) := by
  cases n with
  | container kind items =>
    have hitems := items.deliverAll_events L kind [] .initial h
    have hfirst : Items.initial.lineEnd = "" := rfl
    rw [hfirst, String.empty_append] at hitems
    exact Renderer.deliverAll_enclosed (hbegin kind) hitems (L.end_outermost _ kind ⟨true, true⟩)

/-- A tree at the begin of a document is rendered to its lines, without a warning. -/
theorem Nesting.render_events (L : G.Laid headLines Ready place) (n : Nesting κ ι)
    (h : Ready (.restored "" true none))
    (hbegin : ∀ kind, Renderer.initial.deliver (.enter (G.container kind)) =
      .ok (place (.restored "" true none) [kind] .initial))
    (hend : ∀ text, place (.restored text true none) [] .initial = .restored text true none) :
    render (n.events G) = .ok ⟨"\n".intercalate (n.lines headLines []), []⟩ := by
  have hrun := n.deliverAll_outermost L h hbegin
  rw [Renderer.restored_append, hend] at hrun
  exact render_eq_ok_iff.mpr ⟨_, hrun, rfl⟩

end

/-- An item that begins is followed by its text. -/
theorem Renderer.deliverAll_begin_text {r begun : Renderer} {c : Container}
    (hbegin : r.deliver (.enter c) = .ok begun) (h : begun.pending = none) (text : List Inline) :
    r.deliverAll (.enter c :: Inline.eventsAll text) =
      .ok (begun.append (Inline.printedAll text)) := by
  rw [deliverAll_cons, hbegin]
  exact Inline.deliverAll_eventsAll text h

/-! ## Quotations -/

/-- Quotations hold lines of text. -/
def quotationGrammar : Grammar Unit (List Inline) where
  container _ := .quotation .empty
  item _ := .quotationLine
  head := Inline.eventsAll

/-- A line of a quotation: a sign for each quotation around it, and its text. -/
def quotationLines (around : List Unit) (text : List Inline) : List String :=
  [String.ofList (List.replicate around.length '>') ++ Inline.printedAll text]

namespace Renderer

/-- The same state with so many quotations open, and these flags of their lines. -/
def inQuotations (r : Renderer) (around : List Unit) (i : Items) : Renderer :=
  { r with layout := { r.layout with quotations := ⟨around.length, i⟩ } }

variable {r : Renderer}

theorem deliver_begin_quotationLine (h : r.pending = none) (around : List Unit) (i : Items) :
    (r.inQuotations around i).deliver (.enter .quotationLine) =
      .ok ((r.append (i.lineEnd ++ String.ofList (List.replicate around.length '>'))).inQuotations
        around ⟨true, false⟩) := by
  exact congrArg Except.ok (separate_print (r := r.inQuotations around ⟨true, false⟩) h i
    Layout.quotationMarker)

end Renderer

theorem quotationGrammar_laid :
    quotationGrammar.Laid quotationLines (·.pending = none) Renderer.inQuotations where
  headLines_ne_nil around text := List.cons_ne_nil _ _
  append h _ := h
  begin_item {r} h around i text := by
    have hbegin := Renderer.deliver_begin_quotationLine h around i
    have htext := Renderer.deliverAll_begin_text hbegin h text
    rw [quotationLines, String.intercalate_singleton, ← String.append_assoc,
      ← Renderer.append_append]
    exact htext
  end_item r around i text := rfl
  begin_inner {r} h around kind := by
    let inner : Renderer := r.inQuotations (kind :: around) ⟨false, false⟩
    exact congrArg Except.ok (Renderer.print_eq_append (r := inner) h "\n")
  end_inner r outer around kind i := rfl
  end_outermost r kind i := rfl

/-! ## Definition lists -/

/-- A term or a description. -/
structure Definition where
  isTerm : Bool
  text : List Inline

/-- Definition lists hold terms and descriptions. -/
def definitionGrammar : Grammar Unit Definition where
  container _ := .definitionList .empty
  item d := if d.isTerm then .definitionTerm else .definitionDescription
  head d := Inline.eventsAll d.text

/-- A term or description behind the marker of the list around the definitions: a sign for each
definition list around the innermost, one for what it is, and its text. -/
def definitionLines (marker : String) (around : List Unit) (d : Definition) : List String :=
  [marker ++ String.ofList (List.replicate (around.length - 1) ':') ++
    (if d.isTerm then "; " else ": ") ++ Inline.printedAll d.text]

namespace Renderer

/-- The same state with so many definition lists open, and these flags of their items. -/
def inDefinitions (r : Renderer) (around : List Unit) (i : Items) : Renderer :=
  { r with layout := { r.layout with definitions := ⟨around.length, i⟩ } }

variable {r : Renderer}

theorem enterDefinitionItem_eq (h : r.pending = none) (around : List Unit) (i : Items)
    (sign : String) :
    (r.inDefinitions around i).enterDefinitionItem sign =
      (r.append (i.lineEnd ++ (r.layout.lists.marker ++
        String.ofList (List.replicate (around.length - 1) ':') ++ sign))).inDefinitions
          around ⟨true, false⟩ := by
  exact separate_print (r := r.inDefinitions around ⟨true, false⟩) h i (·.definitionMarker sign)

theorem deliver_begin_definition (h : r.pending = none) (around : List Unit) (i : Items)
    (d : Definition) :
    (r.inDefinitions around i).deliver (.enter (definitionGrammar.item d)) =
      .ok ((r.append (i.lineEnd ++ (r.layout.lists.marker ++
        String.ofList (List.replicate (around.length - 1) ':') ++
          if d.isTerm then "; " else ": "))).inDefinitions around ⟨true, false⟩) := by
  obtain ⟨isTerm, text⟩ := d
  cases isTerm with
  | true => exact congrArg Except.ok (enterDefinitionItem_eq h around i "; ")
  | false => exact congrArg Except.ok (enterDefinitionItem_eq h around i ": ")

/-- Inside of a list item as behind a term, a definition list starts a new line. -/
theorem deliver_begin_definitionList (h : r.pending = none) (around : List Unit) {i : Items}
    (hopen : r.layout.lists.items.isOpen = true ∨ i.isOpen = true) :
    (r.inDefinitions around i).deliver (.enter (.definitionList .empty)) =
      .ok ((r.append "\n").inDefinitions (() :: around) i.enterContainer) := by
  have hseparator : (r.inDefinitions around i).layout.definitionSeparator = .newline := by
    change (if r.layout.lists.items.isOpen then Separator.newline else i.containerSeparator) = _
    rcases hopen with hlist | hitem
    · exact if_pos hlist
    · rw [Items.containerSeparator, if_pos hitem, ite_self]
  let inner : Renderer := r.inDefinitions (() :: around) i.enterContainer
  change Except.ok (inner.separate (r.inDefinitions around i).layout.definitionSeparator) = _
  rw [hseparator]
  exact congrArg Except.ok (print_eq_append (r := inner) h "\n")

end Renderer

theorem definitionGrammar_laid (marker : String) :
    definitionGrammar.Laid (definitionLines marker)
      (fun r => r.pending = none ∧ r.layout.lists.marker = marker) Renderer.inDefinitions where
  headLines_ne_nil around d := List.cons_ne_nil _ _
  append h _ := h
  begin_item {r} h around i d := by
    obtain ⟨hpending, rfl⟩ := h
    have hbegin := Renderer.deliver_begin_definition hpending around i d
    have htext := Renderer.deliverAll_begin_text hbegin hpending d.text
    rw [definitionLines, String.intercalate_singleton, ← String.append_assoc,
      ← Renderer.append_append]
    exact htext
  end_item r around i d := by
    obtain ⟨isTerm, text⟩ := d
    cases isTerm <;> rfl
  begin_inner h around kind := Renderer.deliver_begin_definitionList h.1 around (.inr rfl)
  end_inner r outer around kind i := rfl
  end_outermost r kind i := rfl

/-! ## Lists with definitions -/

/-- The head of a list item: its text, and the definition list behind the text if there is one. -/
structure ListHead where
  text : List Inline
  definitions : Option (Nesting Unit Definition)

/-- The lists of an item stand behind its definition list. -/
def listGrammar : Grammar ListKind ListHead where
  container kind := .list kind .empty
  item _ := .listItem
  head e := Inline.eventsAll e.text ++ (e.definitions.map (·.events definitionGrammar)).getD []

/-- The lines of an item: its own, with the marker of the lists around it, and those of its
definitions behind the same marker. -/
def listLines (around : List ListKind) (e : ListHead) : List String :=
  let marker := outlineMarker around.reverse
  (marker ++ " " ++ Inline.printedAll e.text) ::
    (e.definitions.map (·.lines (definitionLines marker) [])).getD []

/-- A definition list behind the text of a list item writes its lines below it, and the flags of the
definitions are clear again. -/
theorem Renderer.deliverAll_definitions {r : Renderer} (h : r.pending = none)
    (hopen : r.layout.lists.items.isOpen = true) (hclear : r.layout.definitions = .initial)
    (d : Nesting Unit Definition) :
    r.deliverAll (d.events definitionGrammar) = .ok (r.append
      ("\n" ++ "\n".intercalate (d.lines (definitionLines r.layout.lists.marker) []))) := by
  have hplace (text : String) : (r.append text).inDefinitions [] .initial = r.append text := by
    unfold inDefinitions append
    rw [List.length_nil, ← Nested.initial, ← hclear]
  have hbegin := deliver_begin_definitionList h [] (i := .initial) (.inl hopen)
  rw [← append_empty r, hplace, append_empty] at hbegin
  have hrun := d.deliverAll_outermost (definitionGrammar_laid r.layout.lists.marker)
    (r := r.append "\n") ⟨h, rfl⟩ (fun _ => hbegin)
  rw [append_append, hplace] at hrun
  exact hrun

/-- An item of a list begins with its lines, whether or not there are definitions among them. -/
theorem ListHead.deliverAll_begin {r : Renderer} (h : r.pending = none)
    (hclear : r.layout.definitions = .initial) (kinds : List ListKind) (i : Items)
    (e : ListHead) :
    (r.inLists kinds i).deliverAll (.enter .listItem :: listGrammar.head e) =
      .ok ((r.append (i.lineEnd ++ "\n".intercalate (listLines kinds e))).inLists kinds
        ⟨true, false⟩) := by
  obtain ⟨text, definitions⟩ := e
  let marker : String := outlineMarker kinds.reverse
  let line : String := marker ++ " " ++ Inline.printedAll text
  let opened : Renderer := (r.append (i.lineEnd ++ line)).inLists kinds ⟨true, false⟩
  have htext : (r.inLists kinds i).deliverAll (.enter .listItem :: Inline.eventsAll text) =
      .ok opened := by
    have hbegin := Renderer.deliver_begin_item kinds h i
    refine (Renderer.deliverAll_begin_text hbegin h text).trans (congrArg Except.ok ?_)
    change ((r.append _).append _).inLists kinds ⟨true, false⟩ = opened
    rw [Renderer.append_append, String.append_assoc]
  cases definitions with
  | none =>
    have hhead : listGrammar.head ⟨text, none⟩ = Inline.eventsAll text := List.append_nil _
    have hlines : listLines kinds ⟨text, none⟩ = [line] := rfl
    rw [hhead, hlines, String.intercalate_singleton]
    exact htext
  | some d =>
    have hmarker : opened.layout.lists.marker = marker := Lists.marker_eq kinds ⟨true, false⟩
    have hdefinitions := Renderer.deliverAll_definitions (r := opened) h rfl hclear d
    rw [hmarker] at hdefinitions
    have hlines :
        listLines kinds ⟨text, some d⟩ = line :: d.lines (definitionLines marker) [] := rfl
    have hne := d.lines_ne_nil (definitionGrammar_laid marker) []
    refine ((Renderer.deliverAll_append_of_ok htext _).trans hdefinitions).trans
      (congrArg Except.ok ?_)
    change ((r.append _).append _).inLists kinds ⟨true, false⟩ = _
    rw [Renderer.append_append, hlines, String.intercalate_cons_of_ne_nil hne]
    simp only [String.append_assoc]

theorem listGrammar_laid :
    listGrammar.Laid listLines (fun r => r.pending = none ∧ r.layout.definitions = .initial)
      Renderer.inLists where
  headLines_ne_nil around e := List.cons_ne_nil _ _
  append h _ := h
  begin_item h kinds i e := e.deliverAll_begin h.1 h.2 kinds i
  end_item r kinds i e := rfl
  begin_inner {r} h kinds kind := by
    let inner : Renderer := r.inLists (kind :: kinds) ⟨false, false⟩
    exact congrArg Except.ok (Renderer.print_eq_append (r := inner) h.1 "\n")
  end_inner r outer kinds kind i := rfl
  end_outermost r kind i := rfl

/-! ## Documents -/

/-- Trees of quotations, of definition lists and of lists with definitions behind the text of items
are rendered to their lines, with a line end between two of them and without a warning. -/
theorem render_nested_items :
    (∀ q : Nesting Unit (List Inline), render (q.events quotationGrammar) =
      .ok ⟨"\n".intercalate (q.lines quotationLines []), []⟩) ∧
    (∀ d : Nesting Unit Definition, render (d.events definitionGrammar) =
      .ok ⟨"\n".intercalate (d.lines (definitionLines "") []), []⟩) ∧
    ∀ l : Nesting ListKind ListHead, render (l.events listGrammar) =
      .ok ⟨"\n".intercalate (l.lines listLines []), []⟩ := by
  refine ⟨fun q => ?_, fun d => ?_, fun l => ?_⟩
  · exact q.render_events quotationGrammar_laid rfl (fun _ => rfl) (fun _ => rfl)
  · exact d.render_events (definitionGrammar_laid "") ⟨rfl, rfl⟩ (fun _ => rfl) (fun _ => rfl)
  · exact l.render_events listGrammar_laid ⟨rfl, rfl⟩ (fun _ => rfl) (fun _ => rfl)

/-- Definitions in a list item, and a list behind them. -/
example :
    let text : String → List Inline := fun word => [.content (.word word) rfl]
    let definitions : Nesting Unit Definition := .container () (.cons (.plain ⟨true, text "t"⟩)
      (.last (.parent ⟨false, text "d"⟩ (.container () (.last (.plain ⟨true, text "u"⟩))))))
    let inner : Nesting ListKind ListHead :=
      .container .numbered (.last (.plain ⟨text "b", none⟩))
    (Nesting.container ListKind.bulleted (.cons (.parent ⟨text "a", some definitions⟩ inner)
      (.last (.plain ⟨text "c", none⟩)))).lines listLines [] =
        ["* a", "*; t", "*: d", "*:; u", "*1. b", "* c"] := by
  rfl

end WikiMarkup
