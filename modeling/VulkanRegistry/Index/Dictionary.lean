/-!
# Dictionaries

A dictionary keeps its names in the order in which they first came, each with
the value that it was given last.
-/

namespace VulkanRegistry

/-- A finite map with its entries in the order in which their names came. -/
structure Dictionary (α : Type) where
  entries : List (String × α)
  distinct : entries.Pairwise fun a b => a.1 ≠ b.1

namespace Dictionary

variable {α : Type}

/-- Gives a name the value that `change` makes of its present value.  A name
that is new comes last. -/
def updateEntries (name : String) (change : Option α → α) :
    List (String × α) → List (String × α)
  | [] => [(name, change none)]
  | (other, value) :: rest =>
      if name = other then (other, change (some value)) :: rest
      else (other, value) :: updateEntries name change rest

theorem eq_or_mem_of_mem_updateEntries {name : String}
    {change : Option α → α} {entries : List (String × α)}
    {entry : String × α} (h : entry ∈ updateEntries name change entries) :
    entry.1 = name ∨ ∃ value, (entry.1, value) ∈ entries := by
  induction entries with
  | nil =>
      left
      rw [List.mem_singleton.mp h]
  | cons first rest ih =>
      obtain ⟨other, value⟩ := first
      rw [updateEntries] at h
      split at h
      · rcases List.mem_cons.mp h with rfl | hrest
        · exact .inr ⟨value, List.mem_cons_self⟩
        · exact .inr ⟨entry.2, List.mem_cons_of_mem _ hrest⟩
      · rcases List.mem_cons.mp h with rfl | hrest
        · exact .inr ⟨value, List.mem_cons_self⟩
        · rcases ih hrest with hname | ⟨found, hfound⟩
          · exact .inl hname
          · exact .inr ⟨found, List.mem_cons_of_mem _ hfound⟩

theorem pairwise_updateEntries (name : String) (change : Option α → α)
    {entries : List (String × α)}
    (h : entries.Pairwise fun a b => a.1 ≠ b.1) :
    (updateEntries name change entries).Pairwise fun a b => a.1 ≠ b.1 := by
  induction entries with
  | nil => simp [updateEntries]
  | cons first rest ih =>
      obtain ⟨other, value⟩ := first
      obtain ⟨hothers, hrest⟩ := List.pairwise_cons.mp h
      rw [updateEntries]
      split
      · exact List.pairwise_cons.mpr ⟨hothers, hrest⟩
      · rename_i hne
        refine List.pairwise_cons.mpr ⟨?_, ih hrest⟩
        intro entry hentry
        rcases eq_or_mem_of_mem_updateEntries hentry with hname | ⟨found, hold⟩
        · rw [hname]
          exact Ne.symm hne
        · exact hothers (entry.1, found) hold

/-- The dictionary without entries. -/
def empty : Dictionary α := ⟨[], List.Pairwise.nil⟩

/-- Gives a name the value that `change` makes of its present value. -/
def update (dictionary : Dictionary α) (name : String)
    (change : Option α → α) : Dictionary α :=
  ⟨updateEntries name change dictionary.entries,
    pairwise_updateEntries name change dictionary.distinct⟩

/-- The dictionary that is filled from a list of pairs, in their order. -/
def ofPairs (pairs : List (String × α)) : Dictionary α :=
  pairs.foldl (fun found pair => found.update pair.1 fun _ => pair.2) empty

end Dictionary

end VulkanRegistry
