import Mathlib.Data.List.Forall2
import Mathlib.Data.List.Sort
import VulkanRegistry.Index.Basic

/-!
# Indices are canonical

The entries of an index ascend by key, so an index is determined by its
look-ups: equal look-ups give equal entries in equal order.  In an index that
is made of a list of pairs, the look-ups are those of the last pair of each
key, whatever the order of the other pairs.
-/

namespace VulkanRegistry.Index

variable {α : Type}

/-- Where no two pairs have one key, a look-up finds every pair. -/
theorem lookup_eq_some_iff_mem {entries : List (String × α)} {key : String}
    {value : α} (hdistinct : entries.Pairwise fun a b => a.1 ≠ b.1) :
    entries.lookup key = some value ↔ (key, value) ∈ entries := by
  induction entries with
  | nil => simp
  | cons entry rest ih =>
      obtain ⟨other, found⟩ := entry
      obtain ⟨hothers, hrest⟩ := List.pairwise_cons.mp hdistinct
      by_cases hkey : key = other
      · subst hkey
        have habsent : (key, value) ∉ rest := fun hmem => hothers _ hmem rfl
        simp [habsent, eq_comm]
      · rw [lookup_cons_of_ne hkey, ih hrest]
        simp [hkey]

theorem pairwise_ne (index : Index α) :
    index.entries.Pairwise fun a b => a.1 ≠ b.1 :=
  index.ascending.imp fun hlt => String.ne_of_lt hlt

theorem mem_entries_iff {index : Index α} {key : String} {value : α} :
    (key, value) ∈ index.entries ↔ index.get? key = some value :=
  (lookup_eq_some_iff_mem index.pairwise_ne).symm

/-- Lists that ascend strictly by a key are the same if their members are. -/
theorem eq_of_ascending {β : Type} (keyOf : β → String)
    {left right : List β}
    (hleft : left.Pairwise fun a b => keyOf a < keyOf b)
    (hright : right.Pairwise fun a b => keyOf a < keyOf b)
    (hmem : ∀ b, b ∈ left ↔ b ∈ right) : left = right := by
  have hirrefl : Std.Irrefl fun a b : β => keyOf a < keyOf b :=
    ⟨fun b => String.lt_irrefl (keyOf b)⟩
  have hantisymm : Std.Antisymm fun a b : β => keyOf a < keyOf b :=
    ⟨fun _ _ hab hba =>
      absurd (String.lt_trans hab hba) (String.lt_irrefl _)⟩
  exact hleft.eq_of_mem_iff hright hmem

/-- Indices with the same look-ups are the same. -/
theorem eq_of_get?_eq {left right : Index α}
    (h : ∀ key, left.get? key = right.get? key) : left = right := by
  apply Index.ext
  apply eq_of_ascending Prod.fst left.ascending right.ascending
  rintro ⟨key, value⟩
  rw [mem_entries_iff, mem_entries_iff, h key]

/-! ## Keys -/

theorem pairwise_keys (index : Index α) : index.keys.Pairwise (· < ·) :=
  List.pairwise_map.mpr index.ascending

theorem mem_keys_iff {index : Index α} {key : String} :
    key ∈ index.keys ↔ ∃ value, index.get? key = some value := by
  simp only [keys, List.mem_map, Prod.exists, exists_and_right,
    exists_eq_right, mem_entries_iff]

theorem mem_keys_ofList {pairs : List (String × α)} {key : String} :
    key ∈ (ofList pairs).keys ↔ key ∈ pairs.map Prod.fst := by
  rw [mem_keys_iff, get?_ofList, ← Option.isSome_iff_exists,
    List.lookup_isSome_iff]
  constructor
  · rintro ⟨entry, hmem, hkey⟩
    exact List.mem_map.mpr
      ⟨entry, List.mem_reverse.mp hmem, (beq_iff_eq.mp hkey).symm⟩
  · intro hmem
    obtain ⟨entry, hentry, hkey⟩ := List.mem_map.mp hmem
    exact ⟨entry, List.mem_reverse.mpr hentry, by simp [hkey]⟩

/-- A strictly ascending list with the members of the keys is the keys. -/
theorem keys_eq_of_mem_iff {index : Index α} {names : List String}
    (hascending : names.Pairwise (· < ·))
    (hmem : ∀ name, name ∈ names ↔ name ∈ index.keys) : names = index.keys :=
  eq_of_ascending id hascending index.pairwise_keys hmem

/-- The entries are the keys with the values found under them. -/
theorem entries_eq_filterMap_keys (index : Index α) :
    index.entries =
      index.keys.filterMap fun key =>
        (index.get? key).map fun value => (key, value) := by
  have hfound : ∀ entry ∈ index.entries,
      ((index.get? entry.1).map fun value => (entry.1, value)) =
        some entry := by
    rintro ⟨key, value⟩ hmem
    simp [mem_entries_iff.mp hmem]
  rw [keys, List.filterMap_map]
  calc
    index.entries = index.entries.filterMap some := by simp
    _ = _ := List.filterMap_congr fun entry hmem => (hfound entry hmem).symm

/-- Indices whose look-ups are related have the same keys, and related values
under them. -/
theorem forall₂_entries {β : Type} {R : α → β → Prop} {left : Index α}
    {right : Index β}
    (hrel : ∀ key, Option.Rel R (left.get? key) (right.get? key)) :
    List.Forall₂ (fun a b => a.1 = b.1 ∧ R a.2 b.2) left.entries
      right.entries := by
  have hkeys : left.keys = right.keys := by
    apply keys_eq_of_mem_iff left.pairwise_keys
    intro name
    have hname := hrel name
    rw [mem_keys_iff, mem_keys_iff]
    generalize left.get? name = found, right.get? name = other at hname ⊢
    cases hname <;> simp
  rw [entries_eq_filterMap_keys left, entries_eq_filterMap_keys right, hkeys]
  have hsame : List.Forall₂ Eq right.keys right.keys := by
    rw [List.forall₂_eq_eq_eq]
  refine List.rel_filterMap ?_ hsame
  rintro key _ rfl
  have hkey := hrel key
  dsimp only
  generalize left.get? key = found, right.get? key = other at hkey ⊢
  cases hkey with
  | none => exact Option.Rel.none
  | some hvalue => exact Option.Rel.some ⟨rfl, hvalue⟩

end VulkanRegistry.Index
