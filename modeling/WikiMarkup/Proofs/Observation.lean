-- SUMMARY: What later events can tell about a state: texts that no dropping scope swallows, flags up to those that make no difference, and pending parameters.
import WikiMarkup.Proofs.Separation

/-!
# What can be observed of a state

Not all of a state can influence the rendered text. What a scope holds is lost if a dropping scope
is open below it, that an item has begun is forgotten as soon as one has ended, and warnings are
never looked at. `Renderer.observed` keeps the rest. Delivering events commutes with it, so states
that are the same under it give the same text whatever follows.

The converse is about states without pending parameters: `Indistinct` states are told apart by no
events, and suitable events reveal every flag and every visible text.
-/

namespace WikiMarkup

/-! ## The observed layout -/

namespace Items

/-- The flags without what makes no difference: once an item has ended, whether one had begun. -/
def normal (i : Items) : Items := ⟨i.isOpen, i.ended⟩

@[simp] theorem normal_isOpen (i : Items) : i.normal.isOpen = i.isOpen := by
  rcases i with ⟨_ | _, _ | _⟩ <;> rfl

theorem normal_normal (i : Items) : i.normal.normal = i.normal := by
  rcases i with ⟨_ | _, _ | _⟩ <;> rfl

theorem normal_enterContainer (i : Items) :
    i.normal.enterContainer.normal = i.enterContainer.normal := by
  rcases i with ⟨_ | _, _ | _⟩ <;> rfl

theorem normal_endItem (i : Items) : i.normal.endItem.normal = i.endItem.normal := by
  rcases i with ⟨_ | _, _ | _⟩ <;> rfl

theorem normal_containerSeparator (i : Items) :
    i.normal.containerSeparator = i.containerSeparator := by
  rw [containerSeparator, normal_isOpen, containerSeparator]

theorem normal_after (f : ItemFamily) (last : Bool) (i : Items) (e : Event) :
    (i.normal.after f last e).normal = (i.after f last e).normal := by
  cases e with
  | enter c =>
    simp only [after]
    repeat' split
    · exact i.normal_enterContainer
    · rfl
    · exact i.normal_normal
  | leave c =>
    simp only [after]
    repeat' split
    · rfl
    · exact i.normal_normal
    · exact i.normal_endItem
    · exact i.normal_normal
  | content c => exact i.normal_normal

end Items

theorem Lists.after_kinds (kinds : List ListKind) (i j : Items) (e : Event) :
    ((⟨kinds, i⟩ : Lists).after e).kinds = ((⟨kinds, j⟩ : Lists).after e).kinds := by
  cases e with
  | enter c => cases c <;> rfl
  | leave c =>
    cases c
    case list kind p => simp only [after, leave_kinds]
    all_goals rfl
  | content c => rfl

theorem Nested.after_depth (f : ItemFamily) (depth : Nat) (i j : Items) (e : Event) :
    ((⟨depth, i⟩ : Nested).after f e).depth = ((⟨depth, j⟩ : Nested).after f e).depth := by
  cases e with
  | enter c => rw [after_enter_depth, after_enter_depth]
  | leave c => rw [after_leave_depth, after_leave_depth]
  | content c => rfl

namespace Layout

/-- The layout with the flags of items in their normal form. -/
def normal (l : Layout) : Layout :=
  { l with
    lists := { l.lists with items := l.lists.items.normal }
    definitions := { l.definitions with items := l.definitions.items.normal }
    quotations := { l.quotations with items := l.quotations.items.normal } }

theorem normal_normal (l : Layout) : l.normal.normal = l.normal := by
  simp only [normal, Items.normal_normal]

theorem normal_owed (l : Layout) (e : Event) : l.normal.owed e = l.owed e := by
  have hlists := l.lists.items.normal_isOpen
  have hdefinitions := l.definitions.items.normal_containerSeparator
  cases e with
  | enter c =>
    cases c
    case definitionList p => simp only [owed, definitionSeparator, normal, hlists, hdefinitions]
    case list kind p => exact l.lists.items.normal_containerSeparator
    case quotation p => exact l.quotations.items.normal_containerSeparator
    all_goals rfl
  | leave c => rfl
  | content c => cases c <;> rfl

theorem normal_effect (l : Layout) (e : Event) : l.normal.effect e = l.effect e := by
  have howed := l.normal_owed e
  have htexts : l.normal.texts e = l.texts e := by
    cases e with
    | enter c | leave c | content c => cases c <;> rfl
  have hprint : Effect.print (l.normal.separatorText (l.normal.owed e) :: l.normal.texts e) =
      .print (l.separatorText (l.owed e) :: l.texts e) := by
    rw [howed, htexts]
    cases l.owed e <;> rfl
  cases e with
  | enter c => cases c <;> first | exact hprint | rfl
  | leave c => cases c <;> first | exact hprint | rfl
  | content c => exact hprint

theorem normal_after (l : Layout) (e : Event) :
    (l.normal.after e).normal = (l.after e).normal := by
  simp only [normal, after, mk.injEq, Lists.mk.injEq, Nested.mk.injEq, true_and]
  refine ⟨⟨Lists.after_kinds .., ?_⟩, ⟨Nested.after_depth .., ?_⟩, ⟨Nested.after_depth .., ?_⟩, ?_⟩
  · rw [Lists.after_items, Lists.after_items]
    exact Items.normal_after ..
  · rw [Nested.after_items, Nested.after_items]
    exact Items.normal_after ..
  · rw [Nested.after_items, Nested.after_items]
    exact Items.normal_after ..
  · exact congrArg (fun s => l.blockBegun || decide (s = .block)) (l.normal_owed e)

end Layout

/-! ## The observed sinks -/

/-- The scopes as they matter later: what lies above a dropping scope is as good as dropped. -/
def veil : List Sink → List Sink
  | [] => []
  | top :: below => (if .drop ∈ below then .drop else top) :: veil below

theorem drop_mem_veil (scopes : List Sink) : .drop ∈ veil scopes ↔ .drop ∈ scopes := by
  induction scopes with
  | nil => rfl
  | cons top below ih =>
    by_cases h : .drop ∈ below
    · simp [veil, h]
    · simp [veil, h, ih]

theorem veil_veil (scopes : List Sink) : veil (veil scopes) = veil scopes := by
  induction scopes with
  | nil => rfl
  | cons top below ih =>
    simp only [veil, drop_mem_veil, ih]
    split <;> rfl

namespace Sinks

/-- Whether what is written will be dropped. -/
def Hidden (s : Sinks) : Prop := .drop ∈ s.scopes

instance (s : Sinks) : Decidable s.Hidden := inferInstanceAs (Decidable (.drop ∈ s.scopes))

/-- The sinks as they matter later. -/
def veiled (s : Sinks) : Sinks := { s with scopes := veil s.scopes }

theorem veiled_veiled (s : Sinks) : s.veiled.veiled = s.veiled := by
  simp only [veiled, veil_veil]

theorem veiled_write (text : String) (s : Sinks) :
    (s.write text).veiled = s.veiled.write text := by
  rcases s with ⟨base, _ | ⟨top, below⟩⟩
  · rfl
  · simp only [veiled, write, veil]
    split <;> rfl

theorem write_length (s : Sinks) (text : String) :
    (s.write text).scopes.length = s.scopes.length := by
  rcases s with ⟨base, _ | ⟨top, below⟩⟩ <;> rfl

theorem veiled_enter (sink : Sink) (s : Sinks) :
    (s.veiled.enter sink).veiled = (s.enter sink).veiled := by
  simp only [veiled, enter, veil, drop_mem_veil, veil_veil]

theorem veiled_leave? (s : Sinks) :
    s.veiled.leave? = s.leave?.map fun (kept, below) =>
      (if below.Hidden then "" else kept, below.veiled) := by
  rcases s with ⟨base, _ | ⟨top, below⟩⟩
  · rfl
  · by_cases h : .drop ∈ below
    · simp [veiled, leave?, veil, Hidden, h, Sink.kept]
    · simp [veiled, leave?, veil, Hidden, h]

/-- Text does not show on hidden sinks. -/
theorem Hidden.veiled_write {s : Sinks} (h : s.Hidden) (text : String) :
    s.veiled.write text = s.veiled := by
  rcases s with ⟨base, _ | ⟨top, below⟩⟩
  · cases h
  · have htop : (if .drop ∈ below then .drop else top) = Sink.drop := by
      split
      · rfl
      · next hbelow => exact ((List.mem_cons.mp h).resolve_right hbelow).symm
    simp only [veiled, write, veil, htop, Sink.write]

end Sinks

/-! ## The observed state -/

/-- Results that a map makes equal failed alike, or it makes their values equal. -/
theorem cases_of_map_eq {ε α β : Type} {f : α → β} {x y : Except ε α} (h : x.map f = y.map f) :
    (∃ err, x = .error err ∧ y = .error err) ∨ ∃ a b, x = .ok a ∧ y = .ok b ∧ f a = f b := by
  cases x with
  | error err =>
    cases y with
    | error err' =>
      cases h
      exact .inl ⟨err, rfl, rfl⟩
    | ok b => cases h
  | ok a =>
    cases y with
    | error err => cases h
    | ok b => exact .inr ⟨a, b, rfl, rfl, Except.ok.inj h⟩

namespace Renderer

/-- What later events can tell about a state. -/
def observed (r : Renderer) : Renderer := ⟨r.sinks.veiled, r.layout.normal, r.pending, []⟩

theorem observed_observed (r : Renderer) : r.observed.observed = r.observed := by
  simp only [observed, Sinks.veiled_veiled, Layout.normal_normal]

theorem observed_print (text : String) (r : Renderer) :
    (r.print text).observed = r.observed.print text := by
  rw [print_eq, print_eq]
  simp only [observed, Sinks.veiled_write]
  rfl

theorem transparent_observed : Transparent observed where
  print := observed_print
  pending _ := rfl
  withPending _ _ := rfl

/-- Texts printed to hidden sinks make no difference, but that there is some does. -/
theorem print_hidden {text : String} (h : text ≠ "") {r : Renderer} (hidden : r.sinks.Hidden) :
    r.observed.print text = r.observed.dropPending := by
  rw [print_of_ne_empty h]
  simp only [observed, hidden.veiled_write, dropPending]

theorem observed_leaveLink (l : Link) (freeStanding : Bool) (p : Parameters) (r : Renderer) :
    (r.observed.leaveLink l freeStanding p).map observed =
      (r.leaveLink l freeStanding p).map observed := by
  have hleave : r.observed.sinks.leave? = _ := r.sinks.veiled_leave?
  unfold leaveLink
  rw [hleave]
  cases r.sinks.leave? with
  | none => rfl
  | some closed =>
    obtain ⟨label, below⟩ := closed
    let q : Renderer := { r with sinks := below }
    let seen : String := if below.Hidden then "" else label
    refine congrArg Except.ok (?_ : ((q.observed.print (l.labelled freeStanding seen)).print
      (l.closing freeStanding p)).observed = ((q.print (l.labelled freeStanding label)).print
      (l.closing freeStanding p)).observed)
    simp only [observed_print, observed_observed]
    cases freeStanding with
    | true => rfl
    | false =>
      have hclosing : l.closing false p ≠ "" := l.closing_ne_empty p
      rw [print_print, print_print]
      by_cases hidden : below.Hidden
      · rw [print_hidden (by simp [hclosing]) hidden, print_hidden (by simp [hclosing]) hidden]
      · have hseen : seen = label := if_neg hidden
        rw [hseen]

theorem observed_leaveMacroMarker (call : MacroCall) (r : Renderer) :
    (r.observed.leaveMacroMarker call).map observed =
      (r.leaveMacroMarker call).map observed := by
  have hleave : r.observed.sinks.leave? = _ := r.sinks.veiled_leave?
  unfold leaveMacroMarker
  rw [hleave]
  cases r.sinks.leave? with
  | none => rfl
  | some closed =>
    obtain ⟨kept, below⟩ := closed
    let q : Renderer := { r with sinks := below }
    refine congrArg Except.ok (?_ : (q.observed.print call.written).observed =
      (q.print call.written).observed)
    simp only [observed_print, observed_observed]

/-- An effect does to what is observed of a state what it does to the state. -/
theorem observed_perform (x : Effect) (r : Renderer) :
    (r.observed.perform x).map observed = (r.perform x).map observed := by
  cases x with
  | print texts =>
    refine congrArg Except.ok ?_
    rw [transparent_observed.printAll, observed_observed, transparent_observed.printAll]
  | settle => exact congrArg Except.ok (congrArg dropPending r.observed_observed)
  | enterFormat f p =>
    refine congrArg Except.ok ?_
    rw [transparent_observed.enterFormat, observed_observed, transparent_observed.enterFormat]
  | leaveFormat f p =>
    refine congrArg Except.ok ?_
    rw [transparent_observed.leaveFormat, observed_observed, transparent_observed.leaveFormat]
  | openScope opening sink =>
    have hprint := r.observed_print opening
    refine congrArg Except.ok ?_
    rw [← hprint]
    simp only [observed, Sinks.veiled_enter, Layout.normal_normal]
  | leaveLink l freeStanding p => exact r.observed_leaveLink l freeStanding p
  | leaveMacroMarker call => exact r.observed_leaveMacroMarker call

/-- An event does to what is observed of a state what it does to the state. -/
theorem observed_deliver (r : Renderer) (e : Event) :
    (r.observed.deliver e).map observed = (r.deliver e).map observed := by
  have hadvance : (r.observed.advance e).observed = (r.advance e).observed := by
    simp only [observed, advance, Sinks.veiled_veiled, Layout.normal_after]
  have heffect : r.observed.layout.effect e = r.layout.effect e := r.layout.normal_effect e
  rw [deliver_eq, deliver_eq, heffect, ← observed_perform, hadvance, observed_perform]

/-- One event on states of which the same is observed fails on both, or leaves such states. -/
theorem observed_deliver_cases {r₁ r₂ : Renderer} (h : r₁.observed = r₂.observed) (e : Event) :
    (∃ err, r₁.deliver e = .error err ∧ r₂.deliver e = .error err) ∨
    ∃ s₁ s₂, r₁.deliver e = .ok s₁ ∧ r₂.deliver e = .ok s₂ ∧ s₁.observed = s₂.observed := by
  apply cases_of_map_eq
  rw [← observed_deliver, h, observed_deliver]

/-- States of which the same is observed stay so, whatever is delivered. -/
theorem observed_deliverAll {r₁ r₂ : Renderer} (h : r₁.observed = r₂.observed)
    (events : List Event) :
    (r₁.deliverAll events).map observed = (r₂.deliverAll events).map observed := by
  induction events generalizing r₁ r₂ with
  | nil => exact congrArg Except.ok h
  | cons e events ih =>
    rw [deliverAll_cons, deliverAll_cons]
    obtain ⟨err, h₁, h₂⟩ | ⟨s₁, s₂, h₁, h₂, hnext⟩ := observed_deliver_cases h e
    · rw [h₁, h₂]
    · rw [h₁, h₂]
      exact ih hnext

/-! ## Indistinct states -/

/-- No events tell the states apart by the text that they end with. -/
def Indistinct (r₁ r₂ : Renderer) : Prop :=
  ∀ events s₁ s₂, r₁.deliverAll events = .ok s₁ → r₂.deliverAll events = .ok s₂ →
    s₁.sinks.base = s₂.sinks.base

/-- A state in which no scope is open and no parameters are pending: all that is printed shows. -/
def bare (base : String) (l : Layout) (w : List Warning) : Renderer := ⟨⟨base, []⟩, l, none, w⟩

/-- The end of a link whose reference is empty: it hands on whatever text its scope holds. -/
def closer : Event := .leave (.link (.document "") false .empty)

/-- What `closer` writes around a label. -/
def handedOn (label : String) : String :=
  (Link.document "").labelled false label ++ (Link.document "").closing false .empty

theorem handedOn_ne_empty (label : String) : handedOn label ≠ "" := by
  simp [handedOn, Link.closing_ne_empty]

theorem handedOn_inj {label₁ label₂ : String} (h₁ : label₁ ≠ "") (h₂ : label₂ ≠ "")
    (h : handedOn label₁ = handedOn label₂) : label₁ = label₂ := by
  have href : (Link.document "").reference = "" := by decide
  simpa [handedOn, Link.labelled, href, h₁, h₂] using h

theorem deliver_closer (base : String) (top : Sink) (below : List Sink) (l : Layout)
    (w : List Warning) :
    (⟨⟨base, top :: below⟩, l, none, w⟩ : Renderer).deliver closer =
      .ok ⟨(⟨base, below⟩ : Sinks).write (handedOn top.kept), l, none, w⟩ := by
  refine congrArg Except.ok ((print_print _ _ _).trans ?_)
  exact print_of_ne_empty (handedOn_ne_empty top.kept) _

/-- The end of a free-standing link whose reference is empty: it drops its scope and writes
nothing. -/
def silentCloser : Event := .leave (.link (.document "") true .empty)

theorem deliver_silentCloser (base : String) (top : Sink) (below : List Sink) (l : Layout)
    (q : Option Parameters) (w : List Warning) :
    (⟨⟨base, top :: below⟩, l, q, w⟩ : Renderer).deliver silentCloser =
      .ok ⟨⟨base, below⟩, l, q, w⟩ := rfl

theorem bare_print (text base : String) (l : Layout) (w : List Warning) :
    (bare base l w).print text = bare (base ++ text) l w := by
  by_cases h : text = ""
  · rw [h, print_empty, String.append_empty]
  · rw [print_of_ne_empty h, bare, reset]
    simp [Sinks.write, bare]

theorem bare_deliver (base : String) (l : Layout) (w : List Warning) {e : Event}
    {texts : List String} (h : l.effect e = .print texts) :
    (bare base l w).deliver e =
      .ok (bare (base ++ String.join texts) (l.after e) (w ++ l.complaints e)) := by
  rw [deliver_eq]
  refine (congrArg (perform _) h).trans (congrArg Except.ok ?_)
  exact (printAll_eq _ _).trans (bare_print _ _ _ _)

namespace Indistinct

variable {r₁ r₂ s₁ s₂ : Renderer}

theorem of_observed (h : r₁.observed = r₂.observed) : Indistinct r₁ r₂ := by
  intro events s₁ s₂ h₁ h₂
  have hend := observed_deliverAll h events
  rw [h₁, h₂] at hend
  exact congrArg (fun s => s.sinks.base) (Except.ok.inj hend)

/-- Runs end in indistinct states if and only if nothing that follows tells their texts apart. -/
theorem iff_render {past₁ past₂ : List Event} (h₁ : initial.deliverAll past₁ = .ok r₁)
    (h₂ : initial.deliverAll past₂ = .ok r₂) :
    Indistinct r₁ r₂ ↔ ∀ post t₁ t₂, render (past₁ ++ post) = .ok t₁ →
      render (past₂ ++ post) = .ok t₂ → t₁.text = t₂.text := by
  constructor
  · intro h post t₁ t₂ ht₁ ht₂
    obtain ⟨s₁, hs₁, rfl⟩ := render_eq_ok_iff.mp ht₁
    obtain ⟨s₂, hs₂, rfl⟩ := render_eq_ok_iff.mp ht₂
    rw [deliverAll_append_of_ok h₁] at hs₁
    rw [deliverAll_append_of_ok h₂] at hs₂
    rw [finish_text, finish_text]
    exact h post s₁ s₂ hs₁ hs₂
  · intro hsame post s₁ s₂ hs₁ hs₂
    rw [← s₁.finish_text, ← s₂.finish_text]
    apply hsame post s₁.finish s₂.finish
    · exact render_eq_ok_iff.mpr ⟨s₁, (deliverAll_append_of_ok h₁ post).trans hs₁, rfl⟩
    · exact render_eq_ok_iff.mpr ⟨s₂, (deliverAll_append_of_ok h₂ post).trans hs₂, rfl⟩

theorem base (h : Indistinct r₁ r₂) : r₁.sinks.base = r₂.sinks.base := h [] r₁ r₂ rfl rfl

theorem deliver (h : Indistinct r₁ r₂) {e : Event} (h₁ : r₁.deliver e = .ok s₁)
    (h₂ : r₂.deliver e = .ok s₂) : Indistinct s₁ s₂ := by
  intro events t₁ t₂ ht₁ ht₂
  refine h (e :: events) t₁ t₂ ?_ ?_
  · rw [deliverAll_cons, h₁]
    exact ht₁
  · rw [deliverAll_cons, h₂]
    exact ht₂

/-- Visible texts are told apart: every scope below hands them on. -/
theorem write_inj {base t₁ t₂ : String} {scopes : List Sink} {l₁ l₂ : Layout} {w₁ w₂ : List Warning}
    (shown : .drop ∉ scopes) (ht₁ : t₁ ≠ "") (ht₂ : t₂ ≠ "")
    (h : Indistinct ⟨(⟨base, scopes⟩ : Sinks).write t₁, l₁, none, w₁⟩
      ⟨(⟨base, scopes⟩ : Sinks).write t₂, l₂, none, w₂⟩) : t₁ = t₂ := by
  induction scopes generalizing t₁ t₂ with
  | nil => exact (String.append_right_inj base).mp h.base
  | cons top below ih =>
    have hbelow : .drop ∉ below := fun hmem => shown (List.mem_cons_of_mem _ hmem)
    cases top with
    | drop => exact absurd List.mem_cons_self shown
    | collect before =>
      have hnext := h.deliver (deliver_closer ..) (deliver_closer ..)
      have hlabels := ih hbelow (handedOn_ne_empty _) (handedOn_ne_empty _) hnext
      have hkept : before ++ t₁ = before ++ t₂ :=
        handedOn_inj (by simp [ht₁]) (by simp [ht₂]) hlabels
      exact (String.append_right_inj before).mp hkept

/-- All scopes can be closed, and nothing but their texts is lost. -/
theorem unscoped {n : Nat} {s₁ s₂ : Sinks} {l₁ l₂ : Layout} {q₁ q₂ : Option Parameters}
    {w₁ w₂ : List Warning} (hn₁ : s₁.scopes.length = n) (hn₂ : s₂.scopes.length = n)
    (h : Indistinct ⟨s₁, l₁, q₁, w₁⟩ ⟨s₂, l₂, q₂, w₂⟩) :
    ∃ base, Indistinct ⟨⟨base, []⟩, l₁, q₁, w₁⟩ ⟨⟨base, []⟩, l₂, q₂, w₂⟩ := by
  induction n generalizing s₁ s₂ with
  | zero =>
    obtain ⟨b₁, _ | _⟩ := s₁ <;> obtain ⟨b₂, _ | _⟩ := s₂
    · have hbase : b₁ = b₂ := h.base
      exact ⟨b₁, hbase ▸ h⟩
    all_goals contradiction
  | succ n ih =>
    obtain ⟨b₁, _ | ⟨top₁, below₁⟩⟩ := s₁ <;> obtain ⟨b₂, _ | ⟨top₂, below₂⟩⟩ := s₂
    case cons.cons =>
      exact ih (Nat.succ.inj hn₁) (Nat.succ.inj hn₂)
        (h.deliver (deliver_silentCloser ..) (deliver_silentCloser ..))
    all_goals contradiction

/-- Once all scopes are closed and nothing is pending any more, the layouts are left to tell the
states apart. -/
theorem closed {n : Nat} {s₁ s₂ : Sinks} {l₁ l₂ : Layout} {q₁ q₂ : Option Parameters}
    {w₁ w₂ : List Warning} (hn₁ : s₁.scopes.length = n) (hn₂ : s₂.scopes.length = n)
    (h : Indistinct ⟨s₁, l₁, q₁, w₁⟩ ⟨s₂, l₂, q₂, w₂⟩) :
    ∃ base, Indistinct (bare base l₁ w₁) (bare base l₂ w₂) := by
  obtain ⟨base, hbase⟩ := h.unscoped hn₁ hn₂
  exact ⟨base, hbase.deliver (e := .leave (.paragraph .empty)) rfl rfl⟩

variable {b₁ b₂ : String} {l₁ l₂ : Layout} {w₁ w₂ : List Warning}

/-- With the same texts behind them, separators are told apart. -/
theorem separator (h : Indistinct (bare b₁ l₁ w₁) (bare b₂ l₂ w₂)) (e : Event)
    (hprint : ∀ l : Layout, l.effect e = .print (l.separatorText (l.owed e) :: l.texts e))
    (htexts : l₁.texts e = l₂.texts e) :
    l₁.separatorText (l₁.owed e) = l₂.separatorText (l₂.owed e) := by
  have hbase : b₁ = b₂ := h.base
  have hnext := (h.deliver (bare_deliver _ _ _ (hprint l₁)) (bare_deliver _ _ _ (hprint l₂))).base
  simp only [bare, String.join_cons, hbase, htexts, String.append_right_inj,
    String.append_left_inj] at hnext
  exact hnext

theorem blockBegun (h : Indistinct (bare b₁ l₁ w₁) (bare b₂ l₂ w₂)) :
    l₁.blockBegun = l₂.blockBegun := by
  have hsep := h.separator (.enter (.paragraph .empty)) (fun _ => rfl) rfl
  simp only [Layout.owed, Layout.separatorText] at hsep
  cases h₁ : l₁.blockBegun <;> cases h₂ : l₂.blockBegun <;> simp [h₁, h₂] at hsep ⊢

/-- The flags of the items show in the separator of a container and in that of an item. -/
theorem items {i₁ i₂ : Items}
    (hcontainer : l₁.separatorText i₁.containerSeparator = l₂.separatorText i₂.containerSeparator)
    (hitem : l₁.separatorText i₁.itemSeparator = l₂.separatorText i₂.itemSeparator) :
    i₁.normal = i₂.normal := by
  have hopen : i₁.isOpen = i₂.isOpen := by
    simp only [Items.containerSeparator] at hcontainer
    cases h₁ : i₁.isOpen <;> cases h₂ : i₂.isOpen <;> rw [h₁, h₂] at hcontainer
    case false.true | true.false =>
      simp only [Layout.separatorText, Bool.false_eq_true, if_true, if_false] at hcontainer
      split at hcontainer <;> exact absurd hcontainer (by decide)
  have hended : i₁.ended = i₂.ended := by
    simp only [Items.itemSeparator] at hitem
    cases h₁ : i₁.ended <;> cases h₂ : i₂.ended <;> simp [h₁, h₂, Layout.separatorText] at hitem ⊢
  rw [Items.normal, hopen, hended, Items.normal]

/-- Layouts with the same levels are told apart unless their flags are as good as equal. -/
theorem normal_layout (h : Indistinct (bare b₁ l₁ w₁) (bare b₂ l₂ w₂))
    (hkinds : l₁.lists.kinds = l₂.lists.kinds)
    (hdefinitions : l₁.definitions.depth = l₂.definitions.depth)
    (hquotations : l₁.quotations.depth = l₂.quotations.depth)
    (htables : l₁.tables = l₂.tables) : l₁.normal = l₂.normal := by
  have hmarker : l₁.lists.marker = l₂.lists.marker := by
    rw [Lists.marker, hkinds, Lists.marker]
  have hlists : l₁.lists.items.normal = l₂.lists.items.normal := by
    refine items (h.separator (.enter (.list .bulleted .empty)) (fun _ => rfl) rfl)
      (h.separator (.enter .listItem) (fun _ => rfl) ?_)
    simp only [Layout.texts, hmarker]
  have hdefinitionItems : l₁.definitions.items.normal = l₂.definitions.items.normal := by
    -- Inside a list item a definition list does not look at its own flags, so that item ends first.
    have hend := h.deliver (bare_deliver (e := .leave .listItem) _ _ _ rfl)
      (bare_deliver (e := .leave .listItem) _ _ _ rfl)
    have hcontainer := hend.separator (.enter (.definitionList .empty)) (fun _ => rfl) rfl
    simp only [Layout.owed, Layout.definitionSeparator, Layout.after, Lists.after,
      Items.isOpen_endItem] at hcontainer
    have hterm : l₁.definitionMarker "; " = l₂.definitionMarker "; " := by
      rw [Layout.definitionMarker, hmarker, hdefinitions, Layout.definitionMarker]
    exact items hcontainer (hend.separator (.enter .definitionTerm) (fun _ => rfl)
      (congrArg (fun text => [text]) hterm))
  have hquotationItems : l₁.quotations.items.normal = l₂.quotations.items.normal := by
    refine items (h.separator (.enter (.quotation .empty)) (fun _ => rfl) rfl)
      (h.separator (.enter .quotationLine) (fun _ => rfl) ?_)
    simp only [Layout.texts, Layout.quotationMarker, hquotations]
  simp only [Layout.normal, hkinds, hlists, hdefinitions, hdefinitionItems, hquotations,
    hquotationItems, htables, h.blockBegun]

/-- States whose levels are those of the same start are told apart unless their flags are as good
as equal. -/
theorem layout_of_standsOn {start : Layout} (h : Indistinct r₁ r₂)
    (hn : r₁.sinks.scopes.length = r₂.sinks.scopes.length)
    (hl₁ : start.StandsOn [] r₁.layout) (hl₂ : start.StandsOn [] r₂.layout) :
    r₁.layout.normal = r₂.layout.normal := by
  obtain ⟨base, hbare⟩ := closed hn rfl h
  obtain ⟨rows₁, hlen₁, htables₁⟩ := hl₁.tables
  obtain ⟨rows₂, hlen₂, htables₂⟩ := hl₂.tables
  apply hbare.normal_layout (hl₁.lists.trans hl₂.lists.symm)
    (hl₁.definitions.trans hl₂.definitions.symm) (hl₁.quotations.trans hl₂.quotations.symm)
  rw [List.length_eq_zero_iff.mp hlen₁] at htables₁
  rw [List.length_eq_zero_iff.mp hlen₂] at htables₂
  exact congrArg Tables.mk (htables₁.trans htables₂.symm)

end Indistinct

end Renderer

end WikiMarkup
