-- SUMMARY: Documents of top-level blocks: every block is rendered as if it stood alone, behind a blank line and the reset mark that the block before it may owe.
import WikiMarkup.Proofs.Restoration

/-!
# Blocks

A block at the top level finds everything closed, whatever stood before it. Its run differs from
that of the same block alone in three ways only: there is text before it, a blank line is due, and
parameters may be pending. The first event of the block settles the last two. What is left is text
before the base text, which no event looks at (`behind_deliver`), so that the rest of the block is
rendered as it is alone. `render_blocks` puts whole documents together.
-/

namespace WikiMarkup

/-! ## Text before the base text -/

namespace Sinks

/-- The same sinks with a text before the base text. -/
def behind (text : String) (s : Sinks) : Sinks := { s with base := text ++ s.base }

theorem behind_write (text new : String) (s : Sinks) :
    (s.write new).behind text = (s.behind text).write new := by
  rcases s with ⟨base, _ | ⟨top, below⟩⟩
  · simp only [behind, write, String.append_assoc]
  · rfl

theorem behind_leave? (text : String) (s : Sinks) :
    (s.behind text).leave? = s.leave?.map fun (kept, below) => (kept, below.behind text) := by
  rcases s with ⟨base, _ | ⟨top, below⟩⟩
  · rfl
  · rfl

end Sinks

namespace Renderer

/-- The same state with a text before the base text. -/
def behind (text : String) (r : Renderer) : Renderer := { r with sinks := r.sinks.behind text }

theorem transparent_behind (text : String) : Transparent (behind text) where
  print new r := by
    rw [print_eq, print_eq]
    simp only [behind, Sinks.behind_write]
    rfl
  pending _ := rfl
  withPending _ _ := rfl

theorem behind_leaveLink (text : String) (l : Link) (freeStanding : Bool) (p : Parameters)
    (r : Renderer) :
    (r.behind text).leaveLink l freeStanding p =
      (r.leaveLink l freeStanding p).map (behind text) := by
  have hleave : (r.behind text).sinks.leave? = _ := r.sinks.behind_leave? text
  unfold leaveLink
  rw [hleave]
  cases r.sinks.leave? with
  | none => rfl
  | some closed =>
    obtain ⟨label, below⟩ := closed
    let q : Renderer := { r with sinks := below }
    refine congrArg Except.ok (?_ : ((q.behind text).print (l.labelled freeStanding label)).print
      (l.closing freeStanding p) = _)
    rw [← (transparent_behind text).print, ← (transparent_behind text).print]

theorem behind_leaveMacroMarker (text : String) (call : MacroCall) (r : Renderer) :
    (r.behind text).leaveMacroMarker call = (r.leaveMacroMarker call).map (behind text) := by
  have hleave : (r.behind text).sinks.leave? = _ := r.sinks.behind_leave? text
  unfold leaveMacroMarker
  rw [hleave]
  cases r.sinks.leave? with
  | none => rfl
  | some closed =>
    obtain ⟨kept, below⟩ := closed
    let q : Renderer := { r with sinks := below }
    exact congrArg Except.ok ((transparent_behind text).print call.written q).symm

theorem behind_perform (text : String) (x : Effect) (r : Renderer) :
    (r.behind text).perform x = (r.perform x).map (behind text) := by
  have h := transparent_behind text
  cases x with
  | print texts => exact congrArg Except.ok (h.printAll texts r).symm
  | settle => rfl
  | enterFormat f p => exact congrArg Except.ok (h.enterFormat f p r).symm
  | leaveFormat f p => exact congrArg Except.ok (h.leaveFormat f p r).symm
  | openScope opening sink =>
    refine congrArg Except.ok ?_
    rw [← h.print]
    rfl
  | leaveLink l freeStanding p => exact behind_leaveLink text l freeStanding p r
  | leaveMacroMarker call => exact behind_leaveMacroMarker text call r

/-- No event looks at the base text. -/
theorem behind_deliver (text : String) (r : Renderer) (e : Event) :
    (r.behind text).deliver e = (r.deliver e).map (behind text) := by
  rw [deliver_eq, deliver_eq]
  exact behind_perform text _ (r.advance e)

/-- No events look at the base text. -/
theorem behind_deliverAll (text : String) (r : Renderer) (events : List Event) :
    (r.behind text).deliverAll events = (r.deliverAll events).map (behind text) := by
  induction events generalizing r with
  | nil => rfl
  | cons e events ih =>
    rw [deliverAll_cons, deliverAll_cons, behind_deliver]
    cases r.deliver e with
    | error error => rfl
    | ok next => exact ih next

end Renderer

/-- That a block has begun is never forgotten. -/
theorem Layout.blockBegun_foldl {l : Layout} (events : List Event) (h : l.blockBegun = true) :
    (events.foldl after l).blockBegun = true := by
  induction events generalizing l with
  | nil => exact h
  | cons e events ih =>
    apply ih
    rw [after, h, Bool.true_or]

/-! ## Blocks -/

/-- Whether a container stands by itself at the top level of a document. -/
def Container.isBlock : Container → Bool
  | paragraph _ | heading _ _ | list _ _ | definitionList _ | quotation _ | table _ => true
  | _ => false

/-- Whether content stands by itself at the top level of a document. -/
def Content.isBlock : Content → Bool
  | horizontalLine _ | standaloneMacro _ | verbatimStandalone _ _ => true
  | _ => false

/-- What stands by itself at the top level of a document: a container from its begin to an end of it
behind which nothing is open, or content. The end may have other parameters. -/
inductive Block where
  | container (c last : Container) (inside : List Event) (isBlock : c.isBlock = true)
    (closes : last.Closes c) (nested : nestAll [c] inside = some [c])
  | content (c : Content) (isBlock : c.isBlock = true)

namespace Block

/-- The event that a block begins with. -/
def begin : Block → Event
  | container c _ _ _ _ _ => .enter c
  | content c _ => .content c

/-- The events behind the first. -/
def rest : Block → List Event
  | container _ last inside _ _ _ => inside ++ [.leave last]
  | content _ _ => []

def events (b : Block) : List Event := b.begin :: b.rest

theorem wellNested (b : Block) : WellNested b.events := by
  cases b with
  | container c last inside isBlock closes nested =>
    have hfits : c.fits [] = true := by
      cases c with
      | paragraph _ | heading _ _ | list _ _ | definitionList _ | quotation _ | table _ => rfl
      | _ => cases isBlock
    have hend : nestAll [c] [.leave last] = some [] := by simp [nestAll, nest, closes]
    have hrest : nestAll [c] (inside ++ [.leave last]) = some [] := by
      rw [nestAll_append, nested]
      exact hend
    change (nest [] (.enter c)).bind _ = some []
    rw [nest, if_pos hfits]
    exact hrest
  | content c isBlock => rfl

/-- Where nothing is open, the begin of a block is due a blank line unless it is the first, and
leaves the layout that it leaves if it is the first. -/
theorem begin_restored (b : Block) (text : String) (begun : Bool) (pending : Option Parameters) :
    let l := (Renderer.restored text begun pending).layout
    l.effect b.begin = .print ((if begun then "\n\n" else "") :: Layout.initial.texts b.begin) ∧
      l.after b.begin = { Layout.initial.after b.begin with blockBegun := true } ∧
      l.complaints b.begin = [] := by
  cases b with
  | container c last inside isBlock closes nested =>
    cases c with
    | paragraph _ | heading _ _ | list _ _ | definitionList _ | quotation _ | table _ =>
      exact ⟨rfl, by cases begun <;> rfl, rfl⟩
    | _ => cases isBlock
  | content c isBlock =>
    cases c with
    | horizontalLine _ | standaloneMacro _ | verbatimStandalone _ _ =>
      exact ⟨rfl, by cases begun <;> rfl, rfl⟩
    | _ => cases isBlock

/-- The state behind the begin of a block, its separator not yet written. -/
def opening (b : Block) (text : String) (pending : Option Parameters) : Renderer :=
  ⟨⟨text, []⟩, { Layout.initial.after b.begin with blockBegun := true }, pending, []⟩

/-- A block begins with its separator and its texts. -/
theorem deliver_begin (b : Block) (text : String) (begun : Bool) (pending : Option Parameters) :
    (Renderer.restored text begun pending).deliver b.begin =
      .ok (((b.opening text pending).print (if begun then "\n\n" else "")).printAll
        (Layout.initial.texts b.begin)) := by
  obtain ⟨heffect, hafter, hcomplaints⟩ := b.begin_restored text begun pending
  have hadvance : (Renderer.restored text begun pending).advance b.begin =
      b.opening text pending := by
    rw [Renderer.advance, hafter, hcomplaints]
    rfl
  rw [Renderer.deliver_eq, heffect, hadvance]
  rfl

end Block

/-! ## A block behind others -/

/-- What a block alone is rendered to: its text, and the parameters that it leaves pending. -/
structure Piece where
  text : String
  pending : Option Parameters

namespace Piece

/-- The state behind a block that stands alone. -/
def left (p : Piece) : Renderer := .restored p.text true p.pending

/-- What stands before the next block: a blank line, and before it the reset mark if parameters are
pending. -/
def gap (p : Piece) : String :=
  match p.pending with
  | none => "\n\n"
  | some _ => "(%%)\n\n"

/-- A piece and the next. -/
def append (p q : Piece) : Piece := ⟨p.text ++ p.gap ++ q.text, q.pending⟩

/-- The text of pieces one after the other. -/
def joined : List Piece → String
  | [] => ""
  | [p] => p.text
  | p :: rest => p.text ++ p.gap ++ joined rest

theorem joined_cons_cons (p q : Piece) (rest : List Piece) :
    joined (p :: q :: rest) = p.text ++ p.gap ++ joined (q :: rest) := rfl

theorem joined_append (p q : Piece) (rest : List Piece) :
    joined (p.append q :: rest) = joined (p :: q :: rest) := by
  cases rest with
  | nil => rfl
  | cons next rest =>
    have hgap : (p.append q).gap = q.gap := rfl
    rw [joined_cons_cons, joined_cons_cons, joined_cons_cons, hgap, append]
    simp only [String.append_assoc]

/-- Appending pieces one by one joins their texts, and what is pending is left by the last. -/
theorem foldl_append (p : Piece) (pieces : List Piece) :
    pieces.foldl append p =
      ⟨joined (p :: pieces), ((p :: pieces).getLast (List.cons_ne_nil p pieces)).pending⟩ := by
  induction pieces generalizing p with
  | nil => rfl
  | cons q rest ih =>
    rw [List.foldl_cons, ih, joined_append, mk.injEq]
    refine ⟨rfl, ?_⟩
    cases rest with
    | nil => rfl
    | cons next rest => rfl

end Piece

namespace Block

/-- A block alone is rendered, and leaves nothing open. -/
theorem deliverAll_alone (b : Block) :
    ∃ p : Piece, Renderer.initial.deliverAll b.events = .ok p.left := by
  obtain ⟨text, begun, pending, hrun⟩ := Renderer.initial_deliverAll b.wellNested
  have hlayout : (Renderer.restored text begun pending).layout =
      b.rest.foldl Layout.after (Layout.initial.after b.begin) := Renderer.deliverAll_layout hrun
  have hbegin : (Layout.initial.after b.begin).blockBegun = true := by
    obtain ⟨-, hafter, -⟩ := b.begin_restored "" false none
    exact congrArg Layout.blockBegun hafter
  have hbegun : begun = true :=
    (congrArg Layout.blockBegun hlayout).trans (Layout.blockBegun_foldl b.rest hbegin)
  rw [hbegun] at hrun
  exact ⟨⟨text, pending⟩, hrun⟩

/-- The begin of a block behind a piece writes the gap, and is else that of the block alone. -/
theorem deliver_begin_behind (b : Block) (p : Piece) :
    p.left.deliver b.begin =
      (Renderer.initial.deliver b.begin).map (.behind (p.text ++ p.gap)) := by
  have hgap : (b.opening p.text p.pending).print "\n\n" =
      (b.opening "" none).behind (p.text ++ p.gap) := by
    rw [Renderer.print_of_ne_empty (by decide)]
    rcases p with ⟨text, _ | q⟩
    · simp [opening, Renderer.reset, Renderer.behind, Sinks.behind, Sinks.write, Piece.gap]
    · simp [opening, Renderer.reset, Renderer.behind, Sinks.behind, Sinks.write, Piece.gap,
        resetMark]
  have hleft := b.deliver_begin p.text true p.pending
  have halone : Renderer.initial.deliver b.begin = _ := b.deliver_begin "" false none
  rw [if_pos rfl, hgap, ← (Renderer.transparent_behind _).printAll] at hleft
  rw [halone]
  exact hleft

/-- A block behind a piece is rendered as it is alone, behind the text of the piece and its gap. -/
theorem deliverAll_behind {b : Block} {q : Piece}
    (h : Renderer.initial.deliverAll b.events = .ok q.left) (p : Piece) :
    p.left.deliverAll b.events = .ok (p.append q).left := by
  rw [events, Renderer.deliverAll_cons] at h ⊢
  rw [b.deliver_begin_behind p]
  cases hbegin : Renderer.initial.deliver b.begin with
  | error error =>
    rw [hbegin] at h
    cases h
  | ok next =>
    rw [hbegin] at h
    have hrest : next.deliverAll b.rest = .ok q.left := h
    have hbehind := Renderer.behind_deliverAll (p.text ++ p.gap) next b.rest
    rw [hrest] at hbehind
    exact hbehind

end Block

/-! ## Documents -/

/-- Blocks behind a piece are rendered as they are alone, one piece behind the other. -/
theorem Piece.deliverAll_blocks {blocks : List Block} {pieces : List Piece}
    (h : blocks.map (fun b => Renderer.initial.deliverAll b.events) =
      pieces.map fun q => .ok q.left) (p : Piece) :
    p.left.deliverAll (blocks.flatMap Block.events) = .ok (pieces.foldl append p).left := by
  induction blocks generalizing p pieces with
  | nil =>
    cases pieces with
    | nil => rfl
    | cons q pieces => cases h
  | cons b blocks ih =>
    cases pieces with
    | nil => cases h
    | cons q pieces =>
      obtain ⟨hb, hblocks⟩ := List.cons.inj h
      rw [List.flatMap_cons, Renderer.deliverAll_append_of_ok (Block.deliverAll_behind hb p)]
      exact ih hblocks (p.append q)

/-- The state behind a document with these pieces. -/
def Piece.document : List Piece → Renderer
  | [] => .initial
  | p :: pieces => (pieces.foldl append p).left

namespace Block

variable {blocks : List Block} {pieces : List Piece}

/-- Every block has its piece. -/
theorem deliverAll_alone_each (blocks : List Block) :
    ∃ pieces : List Piece, blocks.map (fun b => Renderer.initial.deliverAll b.events) =
      pieces.map fun p => .ok p.left := by
  induction blocks with
  | nil => exact ⟨[], rfl⟩
  | cons b blocks ih =>
    obtain ⟨p, hp⟩ := b.deliverAll_alone
    obtain ⟨pieces, hpieces⟩ := ih
    refine ⟨p :: pieces, ?_⟩
    rw [List.map_cons, List.map_cons, hp, hpieces]

/-- The first block is rendered from the beginning, and the others behind it. -/
theorem deliverAll_document
    (h : blocks.map (fun b => Renderer.initial.deliverAll b.events) =
      pieces.map fun p => .ok p.left) :
    Renderer.initial.deliverAll (blocks.flatMap events) = .ok (Piece.document pieces) := by
  cases blocks with
  | nil =>
    cases pieces with
    | nil => rfl
    | cons p pieces => cases h
  | cons b blocks =>
    cases pieces with
    | nil => cases h
    | cons p pieces =>
      obtain ⟨hb, hblocks⟩ := List.cons.inj h
      rw [List.flatMap_cons, Renderer.deliverAll_append_of_ok hb]
      exact p.deliverAll_blocks hblocks

end Block

namespace Piece

/-- A document leaves what its last piece leaves, behind the text of all. -/
theorem document_of_getLast? {pieces : List Piece} {last : Piece}
    (h : pieces.getLast? = some last) :
    document pieces = (⟨joined pieces, last.pending⟩ : Piece).left := by
  cases pieces with
  | nil => cases h
  | cons p pieces =>
    rw [List.getLast?_eq_some_getLast (List.cons_ne_nil p pieces), Option.some.injEq] at h
    rw [document, foldl_append, h]

theorem finish_document (pieces : List Piece) : (document pieces).finish = ⟨joined pieces, []⟩ := by
  cases pieces with
  | nil => rfl
  | cons p pieces =>
    rw [document, foldl_append]
    rfl

end Piece

/-- A document of blocks is rendered to the texts of its blocks, each as the block is rendered
alone, with a blank line between two of them. Before the blank line stands a reset mark if the block
before it leaves parameters pending. Apart from its text the document leaves the state that its last
block leaves alone. -/
theorem render_blocks (blocks : List Block) :
    ∃ pieces : List Piece,
      blocks.map (fun b => Renderer.initial.deliverAll b.events) =
        pieces.map (fun p => .ok p.left) ∧
      blocks.map (fun b => render b.events) = pieces.map (fun p => .ok ⟨p.text, []⟩) ∧
      render (blocks.flatMap Block.events) = .ok ⟨Piece.joined pieces, []⟩ ∧
      ∀ last, pieces.getLast? = some last →
        Renderer.initial.deliverAll (blocks.flatMap Block.events) =
          .ok (⟨Piece.joined pieces, last.pending⟩ : Piece).left := by
  obtain ⟨pieces, hpieces⟩ := Block.deliverAll_alone_each blocks
  have hrun := Block.deliverAll_document hpieces
  refine ⟨pieces, hpieces, ?_, ?_, ?_⟩
  · have hfinished := congrArg (List.map (Except.map Renderer.finish)) hpieces
    simp only [List.map_map] at hfinished
    exact hfinished
  · exact render_eq_ok_iff.mpr ⟨_, hrun, Piece.finish_document pieces⟩
  · intro last hlast
    rw [← Piece.document_of_getLast? hlast]
    exact hrun

/-- The parameters of a span at the end of a list are still pending when the next block begins. -/
example :
    let p := Parameters.ofList [("a", "1")]
    render [.enter (.list .bulleted .empty), .enter .listItem, .enter (.format .bold p),
      .content (.word "x"), .leave (.format .bold p), .leave .listItem,
      .leave (.list .bulleted .empty), .content (.horizontalLine .empty)] =
        .ok ⟨"* **(% a=\"1\" %)x**(%%)\n\n----", []⟩ := by
  rfl

end WikiMarkup
