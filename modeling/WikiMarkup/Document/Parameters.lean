-- SUMMARY: Parameters of document events: texts by name, in order of first insertion, each name once.

/-!
# Parameters

The attributes of a construct are a list of named texts. A name occurs once: storing under a name
that is present replaces the text and keeps the place, storing under a new one goes to the end.
Two parameter lists can be equal as lists, or only `agree` as mappings, whatever their order.

The operations are first defined on plain lists of pairs, with what each does to the names.
-/

namespace WikiMarkup

namespace Entries

/-! ## Lists of pairs -/

/-- The names, in order. -/
def names (entries : List (String × String)) : List String :=
  entries.map (·.1)

/-- The text of the first entry of that name. -/
def get? (name : String) : List (String × String) → Option String
  | [] => none
  | (n, v) :: rest => if n = name then some v else get? name rest

/-- Stores `value` in place of the first entry of that name, or at the end. -/
def put (name value : String) : List (String × String) → List (String × String)
  | [] => [(name, value)]
  | (n, v) :: rest => if n = name then (n, value) :: rest else (n, v) :: put name value rest

/-- Removes the first entry of that name. -/
def remove (name : String) : List (String × String) → List (String × String)
  | [] => []
  | (n, v) :: rest => if n = name then rest else (n, v) :: remove name rest

/-- Stores as `put` does, and gives the text that was replaced. -/
def exchange (name value : String) :
    List (String × String) → Option String × List (String × String)
  | [] => (none, [(name, value)])
  | (n, v) :: rest =>
    if n = name then (some v, (n, value) :: rest)
    else
      let (replaced, rest) := exchange name value rest
      (replaced, (n, v) :: rest)

/-- Removes as `remove` does, and gives the text that was removed. -/
def take (name : String) : List (String × String) → Option String × List (String × String)
  | [] => (none, [])
  | (n, v) :: rest =>
    if n = name then (some v, rest)
    else
      let (removed, rest) := take name rest
      (removed, (n, v) :: rest)

/-- What is replaced is what the name had. -/
theorem exchange_eq (name value : String) (entries : List (String × String)) :
    exchange name value entries = (get? name entries, put name value entries) := by
  induction entries with
  | nil => rfl
  | cons entry rest ih =>
    obtain ⟨n, v⟩ := entry
    by_cases h : n = name
    · simp [exchange, get?, put, h]
    · simp [exchange, get?, put, h, ih]

/-- What is removed is what the name had. -/
theorem take_eq (name : String) (entries : List (String × String)) :
    take name entries = (get? name entries, remove name entries) := by
  induction entries with
  | nil => rfl
  | cons entry rest ih =>
    obtain ⟨n, v⟩ := entry
    by_cases h : n = name
    · simp [take, get?, remove, h]
    · simp [take, get?, remove, h, ih]

/-- Storing adds its name at the end, unless it is there already. -/
theorem names_put (name value : String) (entries : List (String × String)) :
    names (put name value entries) =
      if name ∈ names entries then names entries else names entries ++ [name] := by
  induction entries with
  | nil => simp [put, names]
  | cons entry rest ih =>
    obtain ⟨n, v⟩ := entry
    by_cases h : n = name
    · simp [put, names, h]
    · have h' : ¬ name = n := fun e => h e.symm
      by_cases hmem : name ∈ names rest
      · simp only [put, if_neg h]
        simp only [names, List.map_cons] at ih hmem ⊢
        simp [ih, hmem]
      · simp only [put, if_neg h]
        simp only [names, List.map_cons] at ih hmem ⊢
        simp [ih, hmem, h']

/-- Storing keeps the names distinct. -/
theorem nodup_names_put (name value : String) {entries : List (String × String)}
    (h : (names entries).Nodup) : (names (put name value entries)).Nodup := by
  rw [names_put]
  split
  · exact h
  · next hmem =>
    rw [List.nodup_append]
    refine ⟨h, by simp, ?_⟩
    intro a ha b hb
    simp only [List.mem_singleton] at hb
    intro hab
    exact hmem (hb ▸ hab ▸ ha)

/-- Removing leaves a part of the names. -/
theorem names_remove_sublist (name : String) (entries : List (String × String)) :
    (names (remove name entries)).Sublist (names entries) := by
  induction entries with
  | nil => simp [remove]
  | cons entry rest ih =>
    obtain ⟨n, v⟩ := entry
    by_cases h : n = name
    · simp only [remove, if_pos h, names, List.map_cons]
      exact List.sublist_cons_self n _
    · simp only [remove, if_neg h, names, List.map_cons]
      exact ih.cons_cons n

end Entries

/-! ## Parameters -/

/-- Named texts in order of first insertion, each name once. -/
structure Parameters where
  entries : List (String × String)
  nodup_names : (Entries.names entries).Nodup
  deriving DecidableEq

namespace Parameters

/-- No parameters. -/
def empty : Parameters := ⟨[], by simp [Entries.names]⟩

instance : Inhabited Parameters := ⟨empty⟩

/-- The text stored under a name. -/
def get? (p : Parameters) (name : String) : Option String :=
  Entries.get? name p.entries

/-- Stores a text: in place if the name is present, at the end otherwise. -/
def insert (p : Parameters) (name value : String) : Parameters :=
  ⟨Entries.put name value p.entries, Entries.nodup_names_put name value p.nodup_names⟩

/-- Removes a name; the others keep their order. -/
def erase (p : Parameters) (name : String) : Parameters :=
  ⟨Entries.remove name p.entries,
    List.Nodup.sublist (Entries.names_remove_sublist name p.entries) p.nodup_names⟩

/-- Stores a text, and gives the one that was stored under the name before. -/
def exchange (p : Parameters) (name value : String) : Option String × Parameters :=
  ((Entries.exchange name value p.entries).1, ⟨(Entries.exchange name value p.entries).2, by
    rw [Entries.exchange_eq]
    exact Entries.nodup_names_put name value p.nodup_names⟩)

/-- Removes a name, and gives the text that was stored under it. -/
def take (p : Parameters) (name : String) : Option String × Parameters :=
  ((Entries.take name p.entries).1, ⟨(Entries.take name p.entries).2, by
    rw [Entries.take_eq]
    exact List.Nodup.sublist (Entries.names_remove_sublist name p.entries) p.nodup_names⟩)

/-- How many names there are. -/
def size (p : Parameters) : Nat := p.entries.length

/-- Whether there is none. -/
def isEmpty (p : Parameters) : Bool := p.entries.isEmpty

/-- The parameters that result from storing pairs one after the other. -/
def ofList (pairs : List (String × String)) : Parameters :=
  pairs.foldl (fun p pair => p.insert pair.1 pair.2) empty

/-- Whether two parameter lists hold the same pairs, in any order. -/
def agrees (p q : Parameters) : Bool :=
  p.size = q.size && p.entries.all fun entry => q.get? entry.1 = some entry.2

end Parameters

end WikiMarkup
