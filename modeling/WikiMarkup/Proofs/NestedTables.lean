-- SUMMARY: Nested tables: rows are joined by line ends however deep the tables in their cells are, since the end of a table gives back the flag of the table around it.
import WikiMarkup.Proofs.Outlines
import WikiMarkup.Proofs.WarningCounts

/-!
# Nested tables

A table holds rows, a row holds cells, and a cell holds text and tables behind the text. Whether a
line end is due before a row is told by a flag, one for each open table. The run along a table
follows only the flag of that table: the flags of the tables around it lie below, and a table in a
cell leaves all of them as they were. `render_table` says what is written, and that the flags below
are safe from any events at all that end no more tables than they begin.
-/

namespace WikiMarkup

/-! ## Tables and their text -/

mutual

inductive TableTree where
  | table (parameters : Parameters) (rows : List TableRow)

inductive TableRow where
  | row (parameters : Parameters) (cells : List TableCell)

/-- A cell: its text, and the tables behind the text. -/
inductive TableCell where
  | cell (isHead : Bool) (parameters : Parameters) (text : List Inline) (tables : List TableTree)

end

/-- A head cell or a normal one. -/
def TableCell.container (isHead : Bool) (p : Parameters) : Container :=
  if isHead then .tableHeadCell p else .tableCell p

mutual

def TableTree.events : TableTree → List Event
  | .table p rows => .enter (.table p) :: (TableRow.eventsAll rows ++ [.leave (.table p)])

def TableRow.events : TableRow → List Event
  | .row p cells => .enter (.tableRow p) :: (TableCell.eventsAll cells ++ [.leave (.tableRow p)])

def TableCell.events : TableCell → List Event
  | .cell isHead p text tables =>
    .enter (TableCell.container isHead p) ::
      ((Inline.eventsAll text ++ TableTree.eventsAll tables) ++
        [.leave (TableCell.container isHead p)])

def TableTree.eventsAll : List TableTree → List Event
  | [] => []
  | t :: rest => t.events ++ TableTree.eventsAll rest

def TableRow.eventsAll : List TableRow → List Event
  | [] => []
  | row :: rest => row.events ++ TableRow.eventsAll rest

def TableCell.eventsAll : List TableCell → List Event
  | [] => []
  | cell :: rest => cell.events ++ TableCell.eventsAll rest

end

mutual

/-- The text of a table: its parameters, and its rows with a line end between two of them. -/
def TableTree.printed : TableTree → String
  | .table p rows => p.block true ++ "\n".intercalate (TableRow.printedEach rows)

def TableRow.printed : TableRow → String
  | .row p cells => p.block false ++ TableCell.printedAll cells

def TableCell.printed : TableCell → String
  | .cell isHead p text tables =>
    (if isHead then "|=" else "|") ++ p.block false ++ Inline.printedAll text ++
      TableTree.printedAll tables

/-- Tables in a cell, each behind a blank line. -/
def TableTree.printedAll : List TableTree → String
  | [] => ""
  | t :: rest => "\n\n" ++ t.printed ++ TableTree.printedAll rest

def TableRow.printedEach : List TableRow → List String
  | [] => []
  | row :: rest => row.printed :: TableRow.printedEach rest

def TableCell.printedAll : List TableCell → String
  | [] => ""
  | cell :: rest => cell.printed ++ TableCell.printedAll rest

end

/-- What is written before a row: a line end if a row of its table has ended. -/
def rowLineEnd (ended : Bool) : String := if ended then "\n" else ""

/-- Rows behind others, or at the begin of a table. -/
def rowsBehind (ended : Bool) : List String → String
  | [] => ""
  | row :: rest => rowLineEnd ended ++ row ++ rowsBehind true rest

theorem rowsBehind_first (rows : List String) : rowsBehind false rows = "\n".intercalate rows := by
  induction rows with
  | nil => rfl
  | cons row rest ih =>
    cases rest with
    | nil => simp [rowsBehind, rowLineEnd]
    | cons next rest =>
      have hrest : rowsBehind true (next :: rest) = "\n" ++ rowsBehind false (next :: rest) := by
        simp [rowsBehind, rowLineEnd, String.append_assoc]
      rw [String.intercalate_cons_of_ne_nil (List.cons_ne_nil next rest), ← ih, rowsBehind, hrest]
      simp [rowLineEnd, String.append_assoc]

/-! ## Single events -/

namespace Renderer

/-- A state with nothing pending in which a block has begun. -/
structure Running (r : Renderer) : Prop where
  pending : r.pending = none
  blockBegun : r.layout.blockBegun = true

/-- The same state with these flags of the open tables, innermost first. -/
def inTables (r : Renderer) (rowsEnded : List Bool) : Renderer :=
  { r with layout := { r.layout with tables := ⟨rowsEnded⟩ } }

theorem deliver_enter_table (r : Renderer) (p : Parameters) :
    r.deliver (.enter (.table p)) =
      .ok (((r.separate .block).print (p.block true)).mapLayout
        fun l => { l with tables := l.tables.enter }) := rfl

namespace Running

variable {r : Renderer}

theorem append (h : r.Running) (text : String) : (r.append text).Running :=
  ⟨h.pending, h.blockBegun⟩

theorem inTables (h : r.Running) (rowsEnded : List Bool) : (r.inTables rowsEnded).Running :=
  ⟨h.pending, h.blockBegun⟩

theorem separate_block (h : r.Running) : r.separate .block = r.append "\n\n" := by
  have hlayout : r.layout.afterSeparator .block = r.layout := by
    rw [Layout.afterSeparator, ← h.blockBegun]
  rw [separate, hlayout, Layout.separatorText, if_pos h.blockBegun]
  exact print_eq_append h.pending "\n\n"

/-- A table begins behind a blank line, and none of its rows has ended. -/
theorem deliver_begin_table (h : r.Running) (p : Parameters) :
    r.deliver (.enter (.table p)) =
      .ok ((r.append ("\n\n" ++ p.block true)).inTables (false :: r.layout.tables.rowsEnded)) := by
  rw [deliver_enter_table, h.separate_block, print_eq_append (h.append "\n\n").pending,
    append_append]
  rfl

theorem deliver_begin_row (h : r.Running) (ended : Bool) (outer : List Bool) (p : Parameters) :
    (r.inTables (ended :: outer)).deliver (.enter (.tableRow p)) =
      .ok ((r.append (rowLineEnd ended ++ p.block false)).inTables (ended :: outer)) := by
  have hseparate : (r.inTables (ended :: outer)).separate
      (r.inTables (ended :: outer)).layout.tables.rowSeparator =
        (r.append (rowLineEnd ended)).inTables (ended :: outer) := by
    cases ended with
    | false =>
      have hnone : rowLineEnd false = "" := rfl
      rw [hnone, append_empty]
      rfl
    | true => exact print_eq_append (h.inTables (true :: outer)).pending "\n"
  change Except.ok ((separate _ _).print (p.block false)) = _
  rw [hseparate, print_eq_append ((h.append _).inTables _).pending, ← append_append]
  rfl

theorem deliver_begin_cell (h : r.Running) (isHead : Bool) (p : Parameters) :
    r.deliver (.enter (TableCell.container isHead p)) =
      .ok (r.append ((if isHead then "|=" else "|") ++ p.block false)) := by
  have hprint (mark : String) :
      (r.print mark).print (p.block false) = r.append (mark ++ p.block false) := by
    rw [print_print, print_eq_append h.pending]
  cases isHead with
  | false => exact congrArg Except.ok (hprint "|")
  | true => exact congrArg Except.ok (hprint "|=")

theorem deliver_end_cell (h : r.Running) (isHead : Bool) (p : Parameters) :
    r.deliver (.leave (TableCell.container isHead p)) = .ok r := by
  have hsettled : r.dropPending = r := by
    rw [dropPending, ← h.pending]
  cases isHead with
  | false => exact congrArg Except.ok hsettled
  | true => exact congrArg Except.ok hsettled

end Running

/-- The end of a row raises the flag of the innermost table. -/
theorem deliver_end_row (r : Renderer) (ended : Bool) (outer : List Bool) (p : Parameters) :
    (r.inTables (ended :: outer)).deliver (.leave (.tableRow p)) =
      .ok (r.inTables (true :: outer)) := rfl

/-- The end of a table takes its flag away from those of the tables around it. -/
theorem deliver_end_table (r : Renderer) (ended : Bool) (outer : List Bool) (p : Parameters) :
    (r.inTables (ended :: outer)).deliver (.leave (.table p)) = .ok (r.inTables outer) := rfl

end Renderer

/-! ## Runs -/

mutual

/-- A table is written behind a blank line, and the tables around it are as before. -/
theorem TableTree.deliverAll_events (t : TableTree) {r : Renderer} (h : r.Running) :
    r.deliverAll t.events = .ok (r.append ("\n\n" ++ t.printed)) := by
  cases t with
  | table p rows =>
    have hrows := TableRow.deliverAll_eventsAll rows false r.layout.tables.rowsEnded
      (h.append ("\n\n" ++ p.block true))
    rw [rowsBehind_first, Renderer.append_append, String.append_assoc] at hrows
    exact Renderer.deliverAll_enclosed (h.deliver_begin_table p) hrows
      (Renderer.deliver_end_table _ _ r.layout.tables.rowsEnded p)

/-- Rows are written with a line end before each but the first of the table, and the flag of the
table says whether one has ended. -/
theorem TableRow.deliverAll_eventsAll (rows : List TableRow) (ended : Bool) (outer : List Bool)
    {r : Renderer} (h : r.Running) :
    (r.inTables (ended :: outer)).deliverAll (TableRow.eventsAll rows) =
      .ok ((r.append (rowsBehind ended (TableRow.printedEach rows))).inTables
        ((ended || !rows.isEmpty) :: outer)) := by
  cases rows with
  | nil =>
    rw [TableRow.printedEach, rowsBehind, Renderer.append_empty, List.isEmpty_nil, Bool.not_true,
      Bool.or_false]
    rfl
  | cons row rest =>
    have hrow := row.deliverAll_events ended outer h
    have hrest := TableRow.deliverAll_eventsAll rest true outer
      (h.append (rowLineEnd ended ++ row.printed))
    rw [Renderer.append_append, Bool.true_or] at hrest
    rw [TableRow.eventsAll, Renderer.deliverAll_append_of_ok hrow, hrest, TableRow.printedEach,
      rowsBehind, List.isEmpty_cons, Bool.not_false, Bool.or_true]

/-- A row is written behind the line end that it finds due, and has then ended. -/
theorem TableRow.deliverAll_events (row : TableRow) (ended : Bool) (outer : List Bool)
    {r : Renderer} (h : r.Running) :
    (r.inTables (ended :: outer)).deliverAll row.events =
      .ok ((r.append (rowLineEnd ended ++ row.printed)).inTables (true :: outer)) := by
  cases row with
  | row p cells =>
    let begun : Renderer := r.append (rowLineEnd ended ++ p.block false)
    have hcells : (begun.inTables (ended :: outer)).deliverAll (TableCell.eventsAll cells) =
        .ok ((begun.append (TableCell.printedAll cells)).inTables (ended :: outer)) :=
      TableCell.deliverAll_eventsAll cells ((h.append _).inTables (ended :: outer))
    have hrow := Renderer.deliverAll_enclosed (h.deliver_begin_row ended outer p) hcells
      (Renderer.deliver_end_row _ ended outer p)
    rw [Renderer.append_append, String.append_assoc] at hrow
    exact hrow

theorem TableCell.deliverAll_eventsAll (cells : List TableCell) {r : Renderer} (h : r.Running) :
    r.deliverAll (TableCell.eventsAll cells) = .ok (r.append (TableCell.printedAll cells)) := by
  cases cells with
  | nil => exact congrArg Except.ok r.append_empty.symm
  | cons cell rest =>
    rw [TableCell.eventsAll, Renderer.deliverAll_append_of_ok (cell.deliverAll_events h),
      TableCell.deliverAll_eventsAll rest (h.append cell.printed), Renderer.append_append,
      TableCell.printedAll]

theorem TableCell.deliverAll_events (cell : TableCell) {r : Renderer} (h : r.Running) :
    r.deliverAll cell.events = .ok (r.append cell.printed) := by
  cases cell with
  | cell isHead p text tables =>
    let mark : String := (if isHead then "|=" else "|") ++ p.block false
    have htext := Inline.deliverAll_eventsAll text (h.append mark).pending
    have htables := TableTree.deliverAll_eventsAll tables
      ((h.append mark).append (Inline.printedAll text))
    have hinside := (Renderer.deliverAll_append_of_ok htext _).trans htables
    rw [Renderer.append_append, Renderer.append_append, ← String.append_assoc] at hinside
    exact Renderer.deliverAll_enclosed (h.deliver_begin_cell isHead p) hinside
      ((h.append _).deliver_end_cell isHead p)

theorem TableTree.deliverAll_eventsAll (tables : List TableTree) {r : Renderer} (h : r.Running) :
    r.deliverAll (TableTree.eventsAll tables) = .ok (r.append (TableTree.printedAll tables)) := by
  cases tables with
  | nil => exact congrArg Except.ok r.append_empty.symm
  | cons t rest =>
    rw [TableTree.eventsAll, Renderer.deliverAll_append_of_ok (t.deliverAll_events h),
      TableTree.deliverAll_eventsAll rest (h.append _), Renderer.append_append,
      TableTree.printedAll]

end

/-- A table at the begin of a document is rendered to its text. -/
theorem TableTree.render_events (t : TableTree) : render t.events = .ok ⟨t.printed, []⟩ := by
  cases t with
  | table p rows =>
    let begun : Renderer := .restored "" true none
    have hbegun : begun.Running := ⟨rfl, rfl⟩
    have hbegin : Renderer.initial.deliver (.enter (.table p)) =
        .ok ((begun.append (p.block true)).inTables [false]) := by
      have hfirst : Renderer.initial.separate .block = begun := rfl
      rw [Renderer.deliver_enter_table, hfirst, Renderer.print_eq_append hbegun.pending]
      rfl
    have hrows := TableRow.deliverAll_eventsAll rows false [] (hbegun.append (p.block true))
    rw [rowsBehind_first, Renderer.append_append, Renderer.restored_append] at hrows
    have hrun := Renderer.deliverAll_enclosed hbegin hrows (Renderer.deliver_end_table _ _ [] p)
    exact render_eq_ok_iff.mpr ⟨_, hrun, rfl⟩

/-! ## The tables around -/

/-- An event does not reach the flags `outer` while the flag of another table lies on them. -/
theorem Tables.after_above {t : Tables} {top : Bool} {above outer : List Bool}
    (h : t.rowsEnded = top :: above ++ outer) (e : Event) :
    ∃ above', (t.after e).rowsEnded = above' ++ outer := by
  obtain ⟨rowsEnded⟩ := t
  obtain rfl : rowsEnded = top :: above ++ outer := h
  cases e with
  | enter c =>
    cases c
    case table p => exact ⟨false :: top :: above, rfl⟩
    all_goals exact ⟨top :: above, rfl⟩
  | leave c =>
    cases c
    case table p => exact ⟨above, rfl⟩
    case tableRow p => exact ⟨true :: above, rfl⟩
    all_goals exact ⟨top :: above, rfl⟩
  | content c => exact ⟨top :: above, rfl⟩

namespace Layout

/-- Of the flags above there are as many as the event leaves tables open. -/
theorem after_above {l : Layout} {above outer : List Bool} (hopen : 0 < above.length)
    (h : l.tables.rowsEnded = above ++ outer) (e : Event) :
    ∃ above' : List Bool, (l.after e).tables.rowsEnded = above' ++ outer ∧
      (above'.length : Int) = above.length + ((if e.begun? = some .table then 1 else 0) -
        if e.ended? = some .table then 1 else 0) := by
  obtain ⟨top, rest, rfl⟩ := List.exists_cons_of_length_pos hopen
  obtain ⟨above', hrows⟩ := Tables.after_above h e
  have hbefore : l.depth .table = (top :: rest).length + outer.length := by
    rw [depth, Tables.depth, h, List.length_append]
  have hafter : (l.after e).depth .table = above'.length + outer.length :=
    (congrArg List.length hrows).trans List.length_append
  rw [depth_after, hbefore] at hafter
  refine ⟨above', hrows, ?_⟩
  by_cases hbegins : e.begun? = some .table <;> by_cases hends : e.ended? = some .table <;>
    simp only [hbegins, hends, if_true, if_false] at hafter ⊢ <;> omega

/-- Behind the begin of a table, events that end no more tables than they begin leave the flags of
the tables around it alone. -/
theorem foldl_above {l : Layout} {ended : Bool} {outer : List Bool} {body : List Event}
    (hl : l.tables.rowsEnded = ended :: outer) (h : 0 ≤ ItemFamily.table.lowest body) :
    ∃ above : List Bool, (body.foldl after l).tables.rowsEnded = above ++ outer ∧
      (above.length : Int) = ItemFamily.table.balance body + 1 := by
  induction body using List.reverseRecOn with
  | nil => exact ⟨[ended], hl, rfl⟩
  | append_singleton past e ih =>
    rw [ItemFamily.lowest_concat] at h
    have hpast : 0 ≤ ItemFamily.table.lowest past := by omega
    have hbalance := ItemFamily.table.lowest_le_balance past
    obtain ⟨above, hrows, hlen⟩ := ih hpast
    obtain ⟨above', hrows', hlen'⟩ := after_above (by omega) hrows e
    refine ⟨above', ?_, ?_⟩
    · rw [List.foldl_append]
      exact hrows'
    · rw [hlen', hlen, ItemFamily.balance_concat]
      omega

end Layout

/-- A table is rendered to its text, with the text of the tables in its cells in it, and without a
warning. From the begin of a table on, in any state and whatever comes, the flags of the tables
around it stay as they are until more tables have ended than have begun. Its end leaves just these
flags, so that a line end is due before the next row if it was due before. -/
theorem render_tables :
    (∀ t : TableTree, render t.events = .ok ⟨t.printed, []⟩) ∧
    ∀ (r : Renderer) (p : Parameters) (body : List Event),
      0 ≤ ItemFamily.table.lowest body →
        (∃ above : List Bool, (r.attemptAll (.enter (.table p) :: body)).layout.tables.rowsEnded =
            above ++ r.layout.tables.rowsEnded ∧
          (above.length : Int) = ItemFamily.table.balance body + 1) ∧
        ∀ q : Parameters, ItemFamily.table.balance body = 0 →
          (r.attemptAll (.enter (.table p) :: (body ++ [.leave (.table q)]))).layout.tables =
            r.layout.tables := by
  constructor
  · intro t
    exact t.render_events
  · intro r p body h
    have hrun : ∃ above : List Bool,
        (r.attemptAll (.enter (.table p) :: body)).layout.tables.rowsEnded =
          above ++ r.layout.tables.rowsEnded ∧
        (above.length : Int) = ItemFamily.table.balance body + 1 := by
      rw [Renderer.attemptAll_layout]
      exact Layout.foldl_above (l := r.layout.after (.enter (.table p))) rfl h
    refine ⟨hrun, fun q hbalance => ?_⟩
    obtain ⟨above, hrows, hlen⟩ := hrun
    obtain ⟨last, rfl⟩ := List.length_eq_one_iff.mp (by omega : above.length = 1)
    rw [← List.cons_append, Renderer.attemptAll_append, Renderer.attemptAll_layout]
    change Tables.mk (r.attemptAll (.enter (.table p) :: body)).layout.tables.rowsEnded.tail = _
    rw [hrows]
    rfl

/-- The line end before the third row is due in front of a table in the second, and behind it. -/
theorem render_tables_second_row :
    let past : List Event := [.enter (.table .empty), .enter (.tableRow .empty),
      .leave (.tableRow .empty), .enter (.tableRow .empty), .enter (.tableCell .empty)]
    let body : List Event := [.enter (.tableRow .empty), .enter (.table .empty),
      .leave (.list .bulleted .empty), .leave (.table .empty)]
    let r := Renderer.initial.attemptAll past
    0 ≤ ItemFamily.table.lowest body ∧ ItemFamily.table.balance body = 0 ∧
      r.layout.tables.rowSeparator = .newline ∧
      (r.attemptAll (.enter (.table .empty) ::
        (body ++ [.leave (.table .empty)]))).layout.tables.rowSeparator = .newline := by
  intro past body r
  have hlowest : 0 ≤ ItemFamily.table.lowest body := by decide
  have hbalance : ItemFamily.table.balance body = 0 := by decide
  have hdue : r.layout.tables.rowSeparator = .newline := by rfl
  refine ⟨hlowest, hbalance, hdue, ?_⟩
  rw [(render_tables.2 r .empty body hlowest).2 .empty hbalance]
  exact hdue

/-- A table with two rows in a cell of the first row of another. -/
example :
    let cell : String → List TableTree → TableCell := fun word tables =>
      .cell false .empty [.content (.word word) rfl] tables
    let row : List TableCell → TableRow := .row .empty
    (TableTree.table (.ofList [("a", "1")])
      [row [cell "x" [.table .empty [row [cell "y" []], row [cell "z" []]]], cell "u" []],
        row [cell "v" []]]).printed = "(% a=\"1\" %)\n|x\n\n|y\n|z|u\n|v" := by
  rfl

end WikiMarkup
