-- SUMMARY: What an operation on a tree does to each location, and where the names of a path lead as directories are made and files written.
import WikiMarkup.Proofs.PathNames

/-!
# Paths in trees

A tree is known by what it has at each location. Following a path depends on its names only, since
the other pieces stay where they are as long as that is a directory. `Leads` says where names lead
once the missing directories are made: over directories that are there, and from there on by plain
names. A tree that has more nodes leads to the same place.
-/

namespace WikiMarkup.Tree

variable {t t' : Tree} {here place loc : Location} {pieces names : List String} {name : String}

/-! ## Locations after an operation -/

theorem get?_nil (t : Tree) : t.get? [] = some .directory := rfl

theorem get?_of_ne_nil (t : Tree) (h : loc ≠ []) :
    t.get? loc = (t.nodes.find? (·.1 = loc)).map (·.2) := by
  rw [get?, if_neg h]

theorem get?_set (hplace : place ≠ []) (node : Node) (loc : Location) :
    (t.set place node).get? loc = if loc = place then some node else t.get? loc := by
  by_cases hloc : loc = []
  · rw [hloc, if_neg hplace.symm, get?_nil, get?_nil]
  rw [get?_of_ne_nil _ hloc, get?_of_ne_nil _ hloc, set]
  by_cases heq : loc = place
  · simp [heq]
  · have hkept : (fun entry : Location × Node => decide (decide (entry.1 ≠ place) = true ∧
        decide (entry.1 = loc) = true)) = fun entry => decide (entry.1 = loc) := by
      funext entry
      by_cases hentry : entry.1 = loc
      · simp [hentry, heq]
      · simp [hentry]
    rw [if_neg heq, List.find?_cons_of_neg (by simpa using Ne.symm heq), List.find?_filter, hkept]

/-- The tree without what is at a location and below it. -/
def without (t : Tree) (place : Location) : Tree := (t.clear place).erase place

theorem get?_without (hplace : place ≠ []) (loc : Location) :
    (t.without place).get? loc = if place <+: loc then none else t.get? loc := by
  by_cases hloc : loc = []
  · have hbelow : ¬ place <+: loc := fun h => hplace (List.prefix_nil.mp (hloc ▸ h))
    rw [if_neg hbelow, hloc, get?_nil, get?_nil]
  rw [get?_of_ne_nil _ hloc, get?_of_ne_nil _ hloc, without, erase, clear, List.find?_filter,
    List.find?_filter]
  by_cases hbelow : place <+: loc
  · rw [if_pos hbelow, List.find?_eq_none.mpr, Option.map_none]
    intro entry _
    by_cases hentry : entry.1 = loc
    · simp [hentry, hbelow]
    · simp [hentry]
  · rw [if_neg hbelow]
    congr 2
    funext entry
    by_cases hentry : entry.1 = loc
    · have hne : loc ≠ place := fun h => hbelow (h ▸ List.prefix_refl _)
      simp [hentry, hbelow, hne]
    · simp [hentry]

/-- The contents of the file at a location. -/
def contents? (t : Tree) (place : Location) : Option (List UInt8) :=
  match t.get? place with
  | some (.file contents) => some contents
  | _ => none

theorem contents?_eq_some {contents : List UInt8} :
    t.contents? place = some contents ↔ t.get? place = some (.file contents) := by
  rw [contents?]
  split
  · next found hfound => simp [hfound]
  · next hother => simpa using fun hfile => hother contents hfile

theorem contents?_of_get?_eq (h : t'.get? loc = t.get? loc) : t'.contents? loc = t.contents? loc := by
  rw [contents?, contents?, h]

/-! ## Trees in which every node stands in a directory -/

/-- Every node stands in a directory. -/
def Closed (t : Tree) : Prop :=
  ∀ loc node, t.get? loc = some node → t.get? loc.dropLast = some .directory

theorem closed_empty : Closed empty := by
  intro loc node hnode
  cases loc with
  | nil => rfl
  | cons name rest => cases hnode

theorem Closed.above (h : Closed t) {node : Node} {name : String} {rest : List String}
    (hnode : t.get? (place ++ name :: rest) = some node) : t.get? place = some .directory := by
  induction rest generalizing place name with
  | nil => simpa using h _ _ hnode
  | cons next rest ih =>
    rw [List.append_cons] at hnode
    simpa using h _ _ (ih hnode)

theorem Closed.none_below (h : Closed t) (hplace : t.get? place = none) (hloc : place <+: loc) :
    t.get? loc = none := by
  obtain ⟨rest, rfl⟩ := hloc
  cases rest with
  | nil => rwa [List.append_nil]
  | cons name rest =>
    cases hnode : t.get? (place ++ name :: rest) with
    | none => rfl
    | some node =>
      rw [h.above hnode] at hplace
      cases hplace

/-- A node may be put in a directory, but a file not in place of a directory. -/
theorem Closed.set (h : Closed t) (hplace : t.get? place = some .directory) {node : Node}
    (hnode : node = .directory ∨ t.get? (place ++ [name]) ≠ some .directory) :
    Closed (t.set (place ++ [name]) node) := by
  intro loc other hother
  rw [get?_set (by simp)] at hother ⊢
  by_cases hloc : loc = place ++ [name]
  · subst hloc
    rw [List.dropLast_concat, if_neg (by simp), hplace]
  · rw [if_neg hloc] at hother
    have habove := h loc other hother
    split
    · next heq =>
      rw [hnode.resolve_right (fun hnot => hnot (heq ▸ habove))]
    · exact habove

theorem Closed.without (h : Closed t) (hplace : place ≠ []) : Closed (t.without place) := by
  intro loc node hnode
  rw [get?_without hplace] at hnode ⊢
  split at hnode
  · cases hnode
  · next hloc =>
    have habove : ¬ place <+: loc.dropLast := fun hbelow =>
      hloc (hbelow.trans (List.dropLast_prefix loc))
    rw [if_neg habove, h loc node hnode]

/-! ## Steps -/

theorem step_of_not_leadsOn {piece : String} (hhere : t.get? here = some .directory)
    (hpiece : Path.leadsOn piece = false) : t.step here piece = .ok here := by
  have hsilent := Path.leadsOn_eq_false_iff.mp hpiece
  rw [step, hhere]
  exact if_pos hsilent

theorem step_name (hhere : t.get? here = some .directory) (hname : Path.IsName name) :
    t.step here name =
      if (t.get? (here ++ [name])).isSome then .ok (here ++ [name]) else .error .notFound := by
  have hsilent : ¬ (name = "" ∨ name = ".") := by
    rintro (h | h)
    · exact hname.ne_empty h
    · exact hname.ne_here h
  rw [step, hhere]
  simp only [hsilent, hname.ne_up, Nat.not_lt.mpr hname.fits, if_false]

/-- A step is taken only from a directory. -/
theorem directory_of_step {piece : String} {next : Location} (h : t.step here piece = .ok next) :
    t.get? here = some .directory := by
  rw [step] at h
  split at h
  · cases h
  · cases h
  · next hhere => exact hhere

theorem step_silent {piece : String} {next : Location} (hpiece : Path.leadsOn piece = false)
    (h : t.step here piece = .ok next) : next = here := by
  rw [step_of_not_leadsOn (directory_of_step h) hpiece] at h
  exact (Except.ok.inj h).symm

theorem follow_cons {piece : String} {next : Location} (h : t.step here piece = .ok next) :
    t.follow here (piece :: pieces) = t.follow next pieces := by
  rw [follow, h]
  rfl

theorem follow_cons_eq_ok {piece : String} (h : t.follow here (piece :: pieces) = .ok place) :
    ∃ next, t.step here piece = .ok next ∧ t.follow next pieces = .ok place := by
  rw [follow] at h
  cases hstep : t.step here piece with
  | error e => rw [hstep] at h; cases h
  | ok next =>
    rw [hstep] at h
    exact ⟨next, rfl, h⟩

theorem follow_append (t : Tree) (here : Location) (ps qs : List String) :
    t.follow here (ps ++ qs) = (t.follow here ps >>= fun next => t.follow next qs) := by
  induction ps generalizing here with
  | nil => rfl
  | cons piece ps ih =>
    simp only [List.cons_append, follow]
    cases t.step here piece with
    | error e => rfl
    | ok next => exact ih next

theorem follow_append_of_ok {ps qs : List String} (h : t.follow here ps = .ok place) :
    t.follow here (ps ++ qs) = t.follow place qs := by
  rw [follow_append, h]
  rfl

theorem follow_append_of_error {ps : List String} {e : FileError} (h : t.follow here ps = .error e)
    (qs : List String) : t.follow here (ps ++ qs) = .error e := by
  rw [follow_append, h]
  rfl

theorem follow_append_eq_ok {ps qs : List String} (h : t.follow here (ps ++ qs) = .ok place) :
    ∃ next, t.follow here ps = .ok next ∧ t.follow next qs = .ok place := by
  cases hps : t.follow here ps with
  | error e => rw [follow_append_of_error hps] at h; cases h
  | ok next =>
    rw [follow_append_of_ok hps] at h
    exact ⟨next, rfl, h⟩

theorem follow_singleton (t : Tree) (here : Location) (piece : String) :
    t.follow here [piece] = t.step here piece := by
  rw [follow]
  cases t.step here piece <;> rfl

/-- Pieces that lead nowhere may be left out. -/
theorem follow_filter_of_ok (h : t.follow here pieces = .ok place) :
    t.follow here (pieces.filter Path.leadsOn) = .ok place := by
  induction pieces generalizing here with
  | nil => exact h
  | cons piece pieces ih =>
    obtain ⟨next, hstep, hrest⟩ := follow_cons_eq_ok h
    cases hleads : Path.leadsOn piece with
    | false =>
      rw [List.filter_cons_of_neg (by simp [hleads]), ← step_silent hleads hstep]
      exact ih hrest
    | true =>
      rw [List.filter_cons_of_pos hleads, follow_cons hstep]
      exact ih hrest

/-- Pieces that lead nowhere may be put in on the way to a directory. -/
theorem follow_of_filter (hplace : t.get? place = some .directory)
    (h : t.follow here (pieces.filter Path.leadsOn) = .ok place) :
    t.follow here pieces = .ok place := by
  induction pieces generalizing here with
  | nil => exact h
  | cons piece pieces ih =>
    cases hleads : Path.leadsOn piece with
    | false =>
      rw [List.filter_cons_of_neg (by simp [hleads])] at h
      have hhere : t.get? here = some .directory := by
        cases hrest : pieces.filter Path.leadsOn with
        | nil =>
          rw [hrest, follow] at h
          rw [Except.ok.inj h]
          exact hplace
        | cons next rest =>
          rw [hrest] at h
          obtain ⟨there, hstep, -⟩ := follow_cons_eq_ok h
          exact directory_of_step hstep
      rw [follow_cons (step_of_not_leadsOn hhere hleads)]
      exact ih h
    | true =>
      rw [List.filter_cons_of_pos hleads] at h
      obtain ⟨next, hstep, hrest⟩ := follow_cons_eq_ok h
      rw [follow_cons hstep]
      exact ih hrest

/-! ## Trees with more nodes -/

/-- What is in the first tree is in the second. -/
def Extends (t t' : Tree) : Prop := ∀ loc node, t.get? loc = some node → t'.get? loc = some node

theorem Extends.refl (t : Tree) : Extends t t := fun _ _ h => h

theorem Extends.trans {t'' : Tree} (h : Extends t t') (h' : Extends t' t'') : Extends t t'' :=
  fun loc node hnode => h' loc node (h loc node hnode)

theorem Extends.step {piece : String} {next : Location} (h : Extends t t')
    (hstep : t.step here piece = .ok next) : t'.step here piece = .ok next := by
  have hhere := directory_of_step hstep
  rw [Tree.step, h _ _ hhere]
  rw [Tree.step, hhere] at hstep
  cases hnext : t.get? (here ++ [piece]) with
  | none =>
    simp only [hnext, Option.isSome_none, Bool.false_eq_true, if_false] at hstep
    split at hstep
    · next hsilent => rw [if_pos hsilent, hstep]
    split at hstep
    · next hsilent hup => rw [if_neg hsilent, if_pos hup, hstep]
    split at hstep <;> cases hstep
  | some node =>
    rw [h _ _ hnext]
    rw [hnext] at hstep
    exact hstep

theorem Extends.follow (h : Extends t t') (hfollow : t.follow here pieces = .ok place) :
    t'.follow here pieces = .ok place := by
  induction pieces generalizing here with
  | nil => exact hfollow
  | cons piece pieces ih =>
    obtain ⟨next, hstep, hrest⟩ := follow_cons_eq_ok hfollow
    rw [follow_cons (h.step hstep)]
    exact ih hrest

/-! ## Where names lead -/

/-- The names lead from a location to another one: over directories that are there, and from there
on by plain names, whether or not there is anything. -/
inductive Leads (t : Tree) (here : Location) : List String → Location → Prop where
  | found {names : List String} {place : Location} (hfollow : t.follow here names = .ok place)
    (hplace : t.get? place = some .directory) : Leads t here names place
  | behind {names : List String} {place : Location} {name : String} (h : Leads t here names place)
    (hname : Path.IsName name) : Leads t here (names ++ [name]) (place ++ [name])

theorem Leads.extend (h : Leads t here names place) (hextends : Extends t t') :
    Leads t' here names place := by
  induction h with
  | found hfollow hplace => exact .found (hextends.follow hfollow) (hextends _ _ hplace)
  | behind h hname ih => exact .behind ih hname

/-- If following the names ends anywhere, it ends where they lead. -/
theorem Leads.eq_of_follow (h : Leads t here names place) (hfollow : t.follow here names = .ok loc) :
    loc = place := by
  induction h generalizing loc with
  | found hfound _ => exact Except.ok.inj (hfollow.symm.trans hfound)
  | @behind names place name h hname ih =>
    obtain ⟨next, hbefore, hlast⟩ := follow_append_eq_ok hfollow
    rw [follow_singleton] at hlast
    rw [step_name (directory_of_step hlast) hname, ih hbefore] at hlast
    split at hlast
    · exact (Except.ok.inj hlast).symm
    · cases hlast

/-- Following the pieces of a path ends where its names lead, if anywhere. -/
theorem Leads.eq_of_follow_pieces (h : Leads t here (pieces.filter Path.leadsOn) place)
    (hfollow : t.follow here pieces = .ok loc) : loc = place :=
  h.eq_of_follow (follow_filter_of_ok hfollow)

/-- In a closed tree names are followed to a directory if it is there. -/
theorem Leads.follow_eq_ok (h : Leads t here names place) (hclosed : Closed t)
    (hplace : t.get? place = some .directory) : t.follow here names = .ok place := by
  induction h with
  | found hfollow _ => exact hfollow
  | @behind names place name h hname ih =>
    have habove := hclosed.above hplace
    rw [follow_append_of_ok (ih habove), follow_singleton, step_name habove hname, hplace]
    rfl

/-- No file stands at a location or above it. -/
def Clear (t : Tree) (place : Location) : Prop :=
  ∀ loc, loc <+: place → ∀ contents, t.get? loc ≠ some (.file contents)

theorem Clear.of_prefix (h : Clear t place) (hloc : loc <+: place) : Clear t loc :=
  fun above habove => h above (habove.trans hloc)

theorem Clear.directory (h : Clear t place) {node : Node} (hnode : t.get? place = some node) :
    node = .directory := by
  cases node with
  | file contents => exact absurd hnode (h place (List.prefix_refl _) contents)
  | directory => rfl

/-- Where no file is in the way, following the pieces of a path finds the directory to which its
names lead, or something on the way is missing. -/
theorem Leads.follow_cases (h : Leads t here (pieces.filter Path.leadsOn) place)
    (hclear : Clear t place) :
    (t.follow here pieces = .ok place ∧ t.get? place = some .directory) ∨
      t.follow here pieces = .error .notFound := by
  generalize hnames : pieces.filter Path.leadsOn = names at h
  induction h generalizing pieces with
  | found hfollow hplace =>
    subst hnames
    exact .inl ⟨follow_of_filter hplace hfollow, hplace⟩
  | @behind names place name h hname ih =>
    obtain ⟨before, behind, rfl, hbefore, hbehind⟩ := List.filter_eq_append_iff.mp hnames
    obtain ⟨silent, rest, rfl, hsilent, -, hrest⟩ := List.filter_eq_cons_iff.mp hbehind
    have habove := hclear.of_prefix (List.prefix_append place [name])
    -- The pieces between the names stay where the names before them lead.
    have hmiddle : (before ++ silent).filter Path.leadsOn = names := by
      rw [List.filter_append, hbefore, List.filter_eq_nil_iff.mpr hsilent, List.append_nil]
    rw [← List.append_assoc]
    rcases ih habove hmiddle with ⟨hfollow, hplace⟩ | hmissing
    · rw [follow_append_of_ok hfollow]
      have hstep := step_name hplace hname
      cases hnext : t.get? (place ++ [name]) with
      | none =>
        rw [hnext] at hstep
        right
        rw [follow, hstep]
        rfl
      | some node =>
        have hdirectory := hclear.directory hnext
        subst hdirectory
        rw [hnext] at hstep
        rw [follow_cons hstep]
        exact .inl ⟨follow_of_filter hnext (by rw [hrest]; rfl), rfl⟩
    · exact .inr (follow_append_of_error hmissing _)

end WikiMarkup.Tree
