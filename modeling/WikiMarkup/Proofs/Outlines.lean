-- SUMMARY: Nested lists: however lists are nested in items, every item is one line, with the signs of all lists around it.
import WikiMarkup.Proofs.InlineTrees
import WikiMarkup.Proofs.Restoration

/-!
# Outlines

An outline is a list of items, each with its text and at most one list behind it. Its lines are
those of its items from the top down. The flags that decide about line ends do not know how deep
they stand, and the end of a sublist leaves them as its last item did. What makes this right is that
every item, with a sublist or without, ends with the same flags up: a line end is then due before
the next item, on whatever level it stands. The induction goes along the outline with the flags
before and behind.
-/

namespace WikiMarkup

/-! ## Outlines and their lines -/

mutual

/-- A list with its items. -/
inductive Outline where
  | list (kind : ListKind) (items : OutlineItems)

/-- At least one item. -/
inductive OutlineItems where
  | last (item : OutlineItem)
  | cons (item : OutlineItem) (rest : OutlineItems)

/-- An item: its text, and the list behind the text if there is one. -/
inductive OutlineItem where
  | plain (text : List Inline)
  | parent (text : List Inline) (sublist : Outline)

end

mutual

def Outline.events : Outline → List Event
  | .list kind items =>
    .enter (.list kind .empty) :: (items.events ++ [.leave (.list kind .empty)])

def OutlineItems.events : OutlineItems → List Event
  | .last item => item.events
  | .cons item rest => item.events ++ rest.events

def OutlineItem.events : OutlineItem → List Event
  | .plain text => .enter .listItem :: (Inline.eventsAll text ++ [.leave .listItem])
  | .parent text sublist =>
    .enter .listItem :: ((Inline.eventsAll text ++ sublist.events) ++ [.leave .listItem])

end

/-- The marker of an item: a sign for each list around it, from the outermost on, and a point if any
of them is numbered. -/
def outlineMarker (around : List ListKind) : String :=
  String.ofList (around.map fun
    | .bulleted => '*'
    | .numbered => '1') ++ if .numbered ∈ around then "." else ""

mutual

/-- The lines of a list inside of those lists, from the outermost on. -/
def Outline.lines (around : List ListKind) : Outline → List String
  | .list kind items => items.lines (around ++ [kind])

def OutlineItems.lines (around : List ListKind) : OutlineItems → List String
  | .last item => item.lines around
  | .cons item rest => item.lines around ++ rest.lines around

def OutlineItem.lines (around : List ListKind) : OutlineItem → List String
  | .plain text => [outlineMarker around ++ " " ++ Inline.printedAll text]
  | .parent text sublist =>
    (outlineMarker around ++ " " ++ Inline.printedAll text) :: sublist.lines around

end

variable (around : List ListKind)

theorem OutlineItem.lines_ne_nil (item : OutlineItem) : item.lines around ≠ [] := by
  cases item with
  | plain text => simp [lines]
  | parent text sublist => simp [lines]

theorem OutlineItems.lines_ne_nil (items : OutlineItems) : items.lines around ≠ [] := by
  cases items with
  | last item => exact item.lines_ne_nil around
  | cons item rest => simp [lines, item.lines_ne_nil around]

theorem Outline.lines_ne_nil (o : Outline) : o.lines around ≠ [] := by
  cases o with
  | list kind items => exact items.lines_ne_nil (around ++ [kind])

/-- The open lists stand innermost first. -/
theorem Lists.marker_eq (kinds : List ListKind) (i : Items) :
    (⟨kinds, i⟩ : Lists).marker = outlineMarker kinds.reverse := by
  have hsign : sign = fun
      | .bulleted => '*'
      | .numbered => '1' := by
    funext kind
    cases kind <;> rfl
  rw [marker, outlineMarker, hsign]
  simp

/-! ## Single events -/

namespace Items

/-- What is written before an item: a line end if an item has ended. -/
def lineEnd (i : Items) : String := if i.ended then "\n" else ""

theorem lineEnd_fresh : (⟨false, false⟩ : Items).lineEnd = "" := rfl

theorem lineEnd_ended : (⟨true, true⟩ : Items).lineEnd = "\n" := rfl

end Items

namespace Renderer

/-- The same state with these lists open, and these flags of their items. -/
def inLists (r : Renderer) (kinds : List ListKind) (i : Items) : Renderer :=
  { r with layout := { r.layout with lists := ⟨kinds, i⟩ } }

/-- Text behind nothing. -/
theorem restored_append (text : String) (begun : Bool) (pending : Option Parameters) :
    (restored "" begun pending).append text = restored text begun pending :=
  congrArg (restored · begun pending) String.empty_append

variable {r : Renderer} (kinds : List ListKind)

theorem separate_item (h : r.pending = none) (i : Items) :
    r.separate i.itemSeparator = r.append i.lineEnd := by
  unfold Items.itemSeparator Items.lineEnd
  split
  · exact print_eq_append h "\n"
  · exact r.append_empty.symm

/-- The marker of an item stands behind the line end that is due. -/
theorem separate_print (h : r.pending = none) (i : Items) (marker : Layout → String) :
    (r.separate i.itemSeparator).print (marker (r.separate i.itemSeparator).layout) =
      r.append (i.lineEnd ++ marker r.layout) := by
  have hlayout : (r.append i.lineEnd).layout = r.layout := rfl
  rw [separate_item h, print_eq_append (r := r.append i.lineEnd) h, append_append, hlayout]

theorem deliver_begin_item (h : r.pending = none) (i : Items) :
    (r.inLists kinds i).deliver (.enter .listItem) =
      .ok ((r.append (i.lineEnd ++ (outlineMarker kinds.reverse ++ " "))).inLists
        kinds ⟨true, false⟩) := by
  rw [← Lists.marker_eq kinds ⟨true, false⟩]
  exact congrArg Except.ok (separate_print (r := r.inLists kinds ⟨true, false⟩) h i
    (·.lists.marker ++ " "))

theorem deliver_end_item (i : Items) :
    (r.inLists kinds i).deliver (.leave .listItem) = .ok (r.inLists kinds i.endItem) := rfl

/-- A list that begins behind the text of an item starts a new line. -/
theorem deliver_begin_sublist (h : r.pending = none) (kind : ListKind) :
    (r.inLists kinds ⟨true, false⟩).deliver (.enter (.list kind .empty)) =
      .ok ((r.append "\n").inLists (kind :: kinds) ⟨false, false⟩) := by
  change Except.ok ((r.inLists (kind :: kinds) ⟨false, false⟩).print "\n") = _
  rw [print_eq_append (r := r.inLists (kind :: kinds) ⟨false, false⟩) h]
  rfl

/-- The end of a list inside of an item keeps the flags of its last item. -/
theorem deliver_end_sublist (kind outer : ListKind) (i : Items) :
    (r.inLists (kind :: outer :: kinds) i).deliver (.leave (.list kind .empty)) =
      .ok (r.inLists (outer :: kinds) i) := by
  rfl

end Renderer

/-! ## Runs -/

mutual

/-- A list inside of an item writes its lines below the text of the item, and ends with the flags
of an item that has ended. -/
theorem Outline.deliverAll_events (o : Outline) (outer : ListKind) (kinds : List ListKind)
    {r : Renderer} (h : r.pending = none) :
    (r.inLists (outer :: kinds) ⟨true, false⟩).deliverAll o.events =
      .ok ((r.append ("\n" ++ "\n".intercalate (o.lines (outer :: kinds).reverse))).inLists
        (outer :: kinds) ⟨true, true⟩) := by
  cases o with
  | list kind items =>
    have henter := Renderer.deliver_begin_sublist (outer :: kinds) h kind
    have hitems := items.deliverAll_events kind (outer :: kinds) ⟨false, false⟩
      (r := r.append "\n") h
    have hleave := Renderer.deliver_end_sublist kinds kind outer ⟨true, true⟩
      (r := r.append ("\n" ++ "\n".intercalate (items.lines (kind :: outer :: kinds).reverse)))
    rw [Items.lineEnd_fresh, String.empty_append, Renderer.append_append] at hitems
    rw [Outline.lines, ← List.reverse_cons]
    exact Renderer.deliverAll_enclosed henter hitems hleave

/-- Items write their lines, the first behind the separator that it finds due. -/
theorem OutlineItems.deliverAll_events (items : OutlineItems) (kind : ListKind)
    (kinds : List ListKind) (i : Items) {r : Renderer} (h : r.pending = none) :
    (r.inLists (kind :: kinds) i).deliverAll items.events =
      .ok ((r.append (i.lineEnd ++ "\n".intercalate (items.lines (kind :: kinds).reverse))).inLists
        (kind :: kinds) ⟨true, true⟩) := by
  cases items with
  | last item => exact item.deliverAll_events kind kinds i h
  | cons item rest =>
    have hitem := item.deliverAll_events kind kinds i h
    have hrest := rest.deliverAll_events kind kinds ⟨true, true⟩ (r := r.append
      (i.lineEnd ++ "\n".intercalate (item.lines (kind :: kinds).reverse))) h
    rw [Renderer.append_append, Items.lineEnd_ended] at hrest
    rw [OutlineItems.lines, String.intercalate_append_of_ne_nil
      (item.lines_ne_nil _) (rest.lines_ne_nil _), OutlineItems.events,
      Renderer.deliverAll_append_of_ok hitem, hrest]
    simp only [String.append_assoc]

/-- An item writes its lines behind the separator that it finds due, and ends with the flags of an
item that has ended, whether or not it holds a list. -/
theorem OutlineItem.deliverAll_events (item : OutlineItem) (kind : ListKind)
    (kinds : List ListKind) (i : Items) {r : Renderer} (h : r.pending = none) :
    (r.inLists (kind :: kinds) i).deliverAll item.events =
      .ok ((r.append (i.lineEnd ++ "\n".intercalate (item.lines (kind :: kinds).reverse))).inLists
        (kind :: kinds) ⟨true, true⟩) := by
  have henter := Renderer.deliver_begin_item (kind :: kinds) h i
  let marked : Renderer := r.append
    (i.lineEnd ++ (outlineMarker (kind :: kinds).reverse ++ " "))
  have htext : ∀ text, (marked.inLists (kind :: kinds) ⟨true, false⟩).deliverAll
      (Inline.eventsAll text) = .ok ((marked.append (Inline.printedAll text)).inLists
        (kind :: kinds) ⟨true, false⟩) := fun text =>
    Inline.deliverAll_eventsAll text (r := marked.inLists (kind :: kinds) ⟨true, false⟩) h
  cases item with
  | plain text =>
    have hitem := Renderer.deliverAll_enclosed henter (htext text)
      (Renderer.deliver_end_item (kind :: kinds) ⟨true, false⟩)
    rw [Renderer.append_append] at hitem
    rw [OutlineItem.lines, String.intercalate_singleton]
    simp only [String.append_assoc] at hitem ⊢
    exact hitem
  | parent text sublist =>
    have hsublist := sublist.deliverAll_events kind kinds
      (r := marked.append (Inline.printedAll text)) h
    have hinside := (Renderer.deliverAll_append_of_ok (htext text) sublist.events).trans hsublist
    have hitem := Renderer.deliverAll_enclosed henter hinside
      (Renderer.deliver_end_item (kind :: kinds) ⟨true, true⟩)
    rw [Renderer.append_append, Renderer.append_append] at hitem
    rw [OutlineItem.lines, String.intercalate_cons_of_ne_nil (sublist.lines_ne_nil _)]
    simp only [String.append_assoc] at hitem ⊢
    exact hitem

end

/-- An outline is rendered to its lines with a line end between two of them. Each item is one line:
its marker, a space and its text. No list is open behind it, and there is no warning. -/
theorem render_outline (o : Outline) :
    ∃ r, Renderer.initial.deliverAll o.events = .ok r ∧ r.layout.lists = .initial ∧
      r.warnings = [] ∧ render o.events = .ok ⟨"\n".intercalate (o.lines []), []⟩ := by
  cases o with
  | list kind items =>
    let begun : Renderer := .restored "" true none
    have henter : Renderer.initial.deliver (.enter (.list kind .empty)) =
        .ok (begun.inLists [kind] .initial) := rfl
    have hitems := items.deliverAll_events kind [] .initial (r := begun) rfl
    let text : String := "\n".intercalate (items.lines [kind])
    have htext : begun.append ("" ++ text) = .restored text true none := by
      rw [String.empty_append]
      exact congrArg (Renderer.restored · true none) String.empty_append
    have hleave : ((Renderer.restored text true none).inLists [kind] ⟨true, true⟩).deliver
        (.leave (.list kind .empty)) = .ok (.restored text true none) := rfl
    rw [← htext] at hleave
    have hrun := Renderer.deliverAll_enclosed henter hitems hleave
    rw [htext] at hrun
    exact ⟨_, hrun, rfl, rfl, render_eq_ok_iff.mpr ⟨_, hrun, rfl⟩⟩

/-- A numbered list inside of an item of a bulleted one. -/
example :
    let item : String → List Inline := fun text => [.content (.word text) rfl]
    (Outline.list .bulleted (.cons (.parent (item "a")
      (.list .numbered (.cons (.plain (item "b")) (.last (.plain (item "c"))))))
        (.last (.plain (item "d"))))).lines [] = ["* a", "*1. b", "*1. c", "* d"] := by
  rfl

end WikiMarkup
