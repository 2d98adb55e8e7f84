-- SUMMARY: Parameters as mappings: what is stored under each name, and that parameters agree exactly if they store the same under every name.
import Mathlib.Data.List.Perm.Subperm
import WikiMarkup.Document.Parameters

/-!
# Parameters as mappings

As each name occurs once, parameters are determined by what is stored under each name, up to their
order. `Parameters.agrees` compares sizes and entries; `agrees_iff` says that it compares the
mappings.
-/

namespace WikiMarkup

/-- The value of the last member of that name. -/
def lastNamed? {α : Type} (name : String) (members : List (String × α)) : Option α :=
  (members.filterMap fun member => if member.1 = name then some member.2 else none).getLast?

theorem lastNamed?_concat {α : Type} (name : String) (members : List (String × α))
    (member : String × α) :
    lastNamed? name (members ++ [member]) =
      if member.1 = name then some member.2 else lastNamed? name members := by
  by_cases h : member.1 = name <;> simp [lastNamed?, h]

namespace Entries

variable {name value : String} {entries : List (String × String)}

theorem get?_eq_none_iff : get? name entries = none ↔ name ∉ names entries := by
  induction entries with
  | nil => simp [get?, names]
  | cons entry rest ih =>
    obtain ⟨n, v⟩ := entry
    by_cases h : n = name
    · simp [get?, names, h]
    · have h' : ¬ name = n := fun e => h e.symm
      simp only [get?, if_neg h, ih]
      simp [names, h']

/-- An entry is found under its name, as the name occurs once. -/
theorem get?_of_mem (hnodup : (names entries).Nodup) (h : (name, value) ∈ entries) :
    get? name entries = some value := by
  induction entries with
  | nil => cases h
  | cons entry rest ih =>
    obtain ⟨n, v⟩ := entry
    obtain ⟨hfresh, hrest⟩ := List.nodup_cons.mp hnodup
    rcases List.mem_cons.mp h with heq | hmem
    · cases heq
      simp [get?]
    · have hname : name ∈ names rest := List.mem_map.mpr ⟨_, hmem, rfl⟩
      have hne : ¬ n = name := fun e => hfresh (e ▸ hname)
      rw [get?, if_neg hne]
      exact ih hrest hmem

end Entries

namespace Parameters

/-- Both store the same under every name. -/
def SameMapping (p q : Parameters) : Prop := ∀ name, p.get? name = q.get? name

theorem SameMapping.names_perm {p q : Parameters} (h : p.SameMapping q) :
    (Entries.names p.entries).Perm (Entries.names q.entries) := by
  refine (List.perm_ext_iff_of_nodup p.nodup_names q.nodup_names).mpr fun name => ?_
  have hnone : name ∉ Entries.names p.entries ↔ name ∉ Entries.names q.entries := by
    rw [← Entries.get?_eq_none_iff, ← Entries.get?_eq_none_iff]
    exact iff_of_eq (congrArg (· = none) (h name))
  exact not_iff_not.mp hnone

theorem SameMapping.size_eq {p q : Parameters} (h : p.SameMapping q) : p.size = q.size := by
  simpa [size, Entries.names] using h.names_perm.length_eq

/-- Parameters agree if and only if they store the same under every name. -/
theorem agrees_iff {p q : Parameters} : p.agrees q = true ↔ p.SameMapping q := by
  simp only [agrees, Bool.and_eq_true, decide_eq_true_eq, List.all_eq_true]
  constructor
  · rintro ⟨hsize, hall⟩ name
    have hsubset : Entries.names p.entries ⊆ Entries.names q.entries := by
      intro n hn
      obtain ⟨entry, hmem, rfl⟩ := List.mem_map.mp hn
      refine Classical.byContradiction fun habsent => ?_
      have hfound := hall entry hmem
      rw [get?, Entries.get?_eq_none_iff.mpr habsent] at hfound
      cases hfound
    -- Of the same number of names, all those of `q` are therefore names of `p`.
    have hperm : (Entries.names p.entries).Perm (Entries.names q.entries) := by
      refine (List.subperm_of_subset p.nodup_names hsubset).perm_of_length_le ?_
      simpa [Entries.names, size] using Nat.le_of_eq hsize.symm
    by_cases hname : name ∈ Entries.names p.entries
    · obtain ⟨entry, hmem, rfl⟩ := List.mem_map.mp hname
      rw [hall entry hmem]
      exact Entries.get?_of_mem p.nodup_names hmem
    · have hname' : name ∉ Entries.names q.entries := fun hq => hname (hperm.mem_iff.mpr hq)
      rw [get?, get?, Entries.get?_eq_none_iff.mpr hname, Entries.get?_eq_none_iff.mpr hname']
  · intro h
    refine ⟨h.size_eq, fun entry hmem => ?_⟩
    rw [← h entry.1]
    exact Entries.get?_of_mem p.nodup_names hmem

instance (p q : Parameters) : Decidable (p.SameMapping q) := decidable_of_iff _ agrees_iff

end Parameters

end WikiMarkup
