-- SUMMARY: Sorting by name: the result is in strict order and has the entries of the list, so it depends on them alone.
import WikiMarkup.Json.Canonical
import WikiMarkup.Proofs.Mapping

/-!
# Sorting by name

`Json.sortByName` puts members one by one into a sorted list. The list stays in strict order of the
names, and where names occur once it holds what was put in. A list in strict order is determined by
what it holds, so parameters that store the same under every name are sorted into the same list.
-/

namespace WikiMarkup

namespace Json

variable {α : Type} {name : String} {value : α} {member : String × α}
  {members sorted sorted' : List (String × α)}

/-- The names are in strict order. -/
def Sorted (members : List (String × α)) : Prop := members.Pairwise fun m n => m.1 < n.1

/-! ## One member -/

/-- A member put in takes the place of those with its name. -/
theorem mem_putSorted (h : Sorted sorted) :
    member ∈ putSorted name value sorted ↔
      member = (name, value) ∨ (member ∈ sorted ∧ member.1 ≠ name) := by
  induction sorted with
  | nil => simp [putSorted]
  | cons first rest ih =>
    obtain ⟨n, v⟩ := first
    obtain ⟨hfirst, hrest⟩ := List.pairwise_cons.mp h
    have habove : ∀ m ∈ rest, m.1 ≠ n := fun m hm heq =>
      String.lt_irrefl n (heq ▸ hfirst m hm)
    simp only [putSorted]
    split
    · next heq =>
      subst heq
      simp only [List.mem_cons]
      constructor
      · rintro (rfl | hm)
        · exact .inl rfl
        · exact .inr ⟨.inr hm, habove member hm⟩
      · rintro (rfl | ⟨rfl | hm, hne⟩)
        · exact .inl rfl
        · exact absurd rfl hne
        · exact .inr hm
    · next hne =>
      split
      · next hlt =>
        -- The new name stands before all others, so none of them is dropped.
        have hkept : ∀ m ∈ (n, v) :: rest, m.1 ≠ name := by
          intro m hm heq
          rcases List.mem_cons.mp hm with rfl | hm
          · exact hne heq.symm
          · exact String.lt_irrefl name (String.lt_trans hlt (heq ▸ hfirst m hm))
        rw [List.mem_cons]
        exact or_congr_right ⟨fun hm => ⟨hm, hkept member hm⟩, fun hm => hm.1⟩
      · rw [List.mem_cons, ih hrest, List.mem_cons]
        constructor
        · rintro (rfl | rfl | ⟨hm, hname⟩)
          · exact .inr ⟨.inl rfl, fun heq => hne heq.symm⟩
          · exact .inl rfl
          · exact .inr ⟨.inr hm, hname⟩
        · rintro (rfl | ⟨rfl | hm, hname⟩)
          · exact .inr (.inl rfl)
          · exact .inl rfl
          · exact .inr (.inr ⟨hm, hname⟩)

theorem Sorted.putSorted (h : Sorted sorted) (name : String) (value : α) :
    Sorted (putSorted name value sorted) := by
  induction sorted with
  | nil => simp [Json.putSorted, Sorted]
  | cons first rest ih =>
    obtain ⟨n, v⟩ := first
    obtain ⟨hfirst, hrest⟩ := List.pairwise_cons.mp h
    simp only [Json.putSorted]
    split
    · next heq =>
      subst heq
      exact List.pairwise_cons.mpr ⟨hfirst, hrest⟩
    · next hne =>
      split
      · next hlt =>
        refine List.pairwise_cons.mpr ⟨?_, h⟩
        intro m hm
        rcases List.mem_cons.mp hm with rfl | hm
        · exact hlt
        · exact String.lt_trans hlt (hfirst m hm)
      · next hnot =>
        have hlt : n < name := Std.lt_of_le_of_ne (String.not_lt.mp hnot) (Ne.symm hne)
        refine List.pairwise_cons.mpr ⟨?_, ih hrest⟩
        intro m hm
        rcases (mem_putSorted hrest).mp hm with rfl | ⟨hm, -⟩
        · exact hlt
        · exact hfirst m hm

/-! ## All members -/

theorem Sorted.foldl (h : Sorted sorted) (members : List (String × α)) :
    Sorted
      (members.foldl (fun sorted member => Json.putSorted member.1 member.2 sorted) sorted) := by
  induction members generalizing sorted with
  | nil => exact h
  | cons member members ih => exact ih (h.putSorted member.1 member.2)

theorem sorted_sortByName (members : List (String × α)) : Sorted (sortByName members) :=
  Sorted.foldl .nil members

private theorem mem_foldl (h : Sorted sorted) (hnodup : (members.map (·.1)).Nodup) :
    member ∈ members.foldl (fun sorted member => putSorted member.1 member.2 sorted) sorted ↔
      member ∈ members ∨ (member ∈ sorted ∧ member.1 ∉ members.map (·.1)) := by
  induction members generalizing sorted with
  | nil => simp
  | cons first rest ih =>
    obtain ⟨hfresh, hrest⟩ := List.nodup_cons.mp hnodup
    rw [List.foldl_cons, ih (h.putSorted first.1 first.2) hrest, mem_putSorted h]
    simp only [List.map_cons, List.mem_cons, not_or]
    constructor
    · rintro (hm | ⟨rfl | ⟨hm, hne⟩, hlater⟩)
      · exact .inl (.inr hm)
      · exact .inl (.inl rfl)
      · exact .inr ⟨hm, hne, hlater⟩
    · rintro ((rfl | hm) | ⟨hm, hne, hlater⟩)
      · exact .inr ⟨.inl rfl, hfresh⟩
      · exact .inl hm
      · exact .inr ⟨.inr ⟨hm, hne⟩, hlater⟩

/-- Where names occur once, sorting keeps the members. -/
theorem mem_sortByName (hnodup : (members.map (·.1)).Nodup) :
    member ∈ sortByName members ↔ member ∈ members := by
  rw [sortByName, mem_foldl .nil hnodup]
  simp

theorem Sorted.nodup (h : Sorted sorted) : sorted.Nodup := by
  refine List.Pairwise.imp ?_ h
  intro m n hlt heq
  rw [heq] at hlt
  exact String.lt_irrefl _ hlt

/-- Sorted lists with the same members are the same. -/
theorem Sorted.ext (h : Sorted sorted) (h' : Sorted sorted')
    (hmem : ∀ member, member ∈ sorted ↔ member ∈ sorted') : sorted = sorted' := by
  have hperm : sorted.Perm sorted' := (List.perm_ext_iff_of_nodup h.nodup h'.nodup).mpr hmem
  refine hperm.eq_of_pairwise ?_ h h'
  intro m n _ _ hlt hgt
  exact absurd hgt (String.lt_asymm hlt)

end Json

/-! ## Parameters -/

theorem Entries.mem_of_get? {name value : String} {entries : List (String × String)}
    (h : get? name entries = some value) : (name, value) ∈ entries := by
  induction entries with
  | nil => cases h
  | cons entry rest ih =>
    obtain ⟨n, v⟩ := entry
    by_cases hname : n = name
    · rw [get?, if_pos hname, Option.some.injEq] at h
      rw [← hname, ← h]
      exact List.mem_cons_self
    · rw [get?, if_neg hname] at h
      exact List.mem_cons_of_mem _ (ih h)

namespace Parameters

variable {p q : Parameters}

theorem mem_entries_iff {name value : String} :
    (name, value) ∈ p.entries ↔ p.get? name = some value :=
  ⟨Entries.get?_of_mem p.nodup_names, Entries.mem_of_get?⟩

theorem sameMapping_iff_mem :
    p.SameMapping q ↔ ∀ entry, entry ∈ p.entries ↔ entry ∈ q.entries := by
  constructor
  · rintro h ⟨name, value⟩
    rw [mem_entries_iff, mem_entries_iff, h name]
  · intro h name
    apply Option.ext
    intro value
    rw [← mem_entries_iff, ← mem_entries_iff]
    exact h (name, value)

/-- Parameters are sorted into the same list exactly if they store the same under every name. -/
theorem sortByName_eq_iff :
    Json.sortByName p.entries = Json.sortByName q.entries ↔ p.SameMapping q := by
  rw [sameMapping_iff_mem]
  have hp : ∀ entry, entry ∈ Json.sortByName p.entries ↔ entry ∈ p.entries :=
    fun entry => Json.mem_sortByName p.nodup_names
  have hq : ∀ entry, entry ∈ Json.sortByName q.entries ↔ entry ∈ q.entries :=
    fun entry => Json.mem_sortByName q.nodup_names
  constructor
  · intro h entry
    rw [← hp, h, hq]
  · intro h
    apply (Json.sorted_sortByName p.entries).ext (Json.sorted_sortByName q.entries)
    intro entry
    rw [hp, h, hq]

end Parameters

end WikiMarkup
