import VulkanRegistry.Index.Dictionary
import VulkanRegistry.Proofs.Index.Canonical

/-!
# The indices that dictionaries are sorted into

A dictionary is sorted pair by pair: names decide, and only two pairs of one
name would be compared by their values, for which there is no order.  No two
pairs of a dictionary have one name, so it can always be sorted, and what comes
out are the entries of the index that finds the same.
-/

namespace VulkanRegistry

namespace Dictionary

variable {α : Type}

theorem lookup_updateEntries (name key : String) (change : Option α → α)
    (entries : List (String × α)) :
    (updateEntries name change entries).lookup key =
      if key = name then some (change (entries.lookup name))
      else entries.lookup key := by
  induction entries with
  | nil =>
      by_cases hkey : key = name
      · simp [updateEntries, hkey]
      · simp [updateEntries, Index.lookup_cons_of_ne hkey, hkey]
  | cons first rest ih =>
      obtain ⟨other, value⟩ := first
      rw [updateEntries]
      split
      · rename_i hname
        subst hname
        by_cases hkey : key = name
        · simp [hkey]
        · simp [Index.lookup_cons_of_ne hkey, hkey]
      · rename_i hne
        rw [Index.lookup_cons_of_ne hne]
        by_cases hother : key = other
        · subst hother
          simp [Ne.symm hne]
        · rw [Index.lookup_cons_of_ne hother, Index.lookup_cons_of_ne hother,
            ih]

/-! ## Dictionaries and indices that find the same -/

/-- A dictionary finds under every name what an index finds there. -/
def Mirrors (dictionary : Dictionary α) (index : Index α) : Prop :=
  ∀ name, dictionary.entries.lookup name = index.get? name

theorem mirrors_empty : Mirrors (empty : Dictionary α) Index.empty := by
  intro name
  rfl

theorem Mirrors.update {dictionary : Dictionary α} {index : Index α}
    (h : dictionary.Mirrors index) (name : String) (change : Option α → α) :
    (dictionary.update name change).Mirrors (index.update name change) := by
  intro key
  rw [Index.get?_update, Dictionary.update, lookup_updateEntries, h name, h key]

/-- A dictionary and an index that are filled in step find the same. -/
theorem Mirrors.foldl {β : Type} (name : β → String)
    (change : β → Option α → α) (items : List β) {dictionary : Dictionary α}
    {index : Index α} (h : dictionary.Mirrors index) :
    (items.foldl (fun found item => found.update (name item) (change item))
      dictionary).Mirrors
        (items.foldl (fun found item => found.update (name item) (change item))
          index) := by
  induction items generalizing dictionary index with
  | nil => exact h
  | cons item rest ih => exact ih (h.update (name item) (change item))

theorem mirrors_ofPairs (pairs : List (String × α)) :
    (ofPairs pairs).Mirrors (Index.ofList pairs) :=
  mirrors_empty.foldl Prod.fst (fun pair _ => pair.2) pairs

theorem Mirrors.mem_entries_iff {dictionary : Dictionary α} {index : Index α}
    (h : dictionary.Mirrors index) (entry : String × α) :
    entry ∈ dictionary.entries ↔ entry ∈ index.entries := by
  obtain ⟨name, value⟩ := entry
  rw [Index.mem_entries_iff, ← h name,
    Index.lookup_eq_some_iff_mem dictionary.distinct]

theorem Mirrors.perm {dictionary : Dictionary α} {index : Index α}
    (h : dictionary.Mirrors index) :
    index.entries.Perm dictionary.entries := by
  have hnodup : ∀ {entries : List (String × α)},
      (entries.Pairwise fun a b => a.1 ≠ b.1) → entries.Nodup := by
    intro entries hdistinct
    exact hdistinct.imp fun hne heq => hne (congrArg Prod.fst heq)
  rw [List.perm_ext_iff_of_nodup (hnodup index.pairwise_ne)
    (hnodup dictionary.distinct)]
  exact fun entry => (h.mem_entries_iff entry).symm

/-! ## Sorting -/

variable [DecidableEq α]

/-- Whether a pair comes before another one.  There is no answer for two pairs
that differ in their values only. -/
def precedes? (left right : String × α) : Option Bool :=
  if left.1 = right.1 then
    if left.2 = right.2 then some false else none
  else some (left.1 < right.1)

/-- Whichever pairs of a dictionary are compared, there is an answer, and the
one arrangement of the pairs that agrees with the answers is `sorted`. -/
structure SortsTo (dictionary : Dictionary α) (sorted : List (String × α)) :
    Prop where
  answered : dictionary.entries.Pairwise fun a b =>
    (precedes? a b).isSome ∧ (precedes? b a).isSome
  arranged : ∀ arrangement,
    (arrangement.Perm dictionary.entries ∧
      arrangement.Pairwise fun a b => precedes? b a = some false) ↔
        arrangement = sorted

theorem precedes?_of_ne {left right : String × α} (h : left.1 ≠ right.1) :
    precedes? left right = some (decide (left.1 < right.1)) := by
  rw [precedes?, if_neg h]

/-- A dictionary can be sorted, and it is sorted into the entries of the index
that finds the same. -/
theorem Mirrors.sortsTo {dictionary : Dictionary α} {index : Index α}
    (h : dictionary.Mirrors index) :
    dictionary.SortsTo index.entries where
  answered := dictionary.distinct.imp fun hne => by
    simp [precedes?_of_ne hne, precedes?_of_ne (Ne.symm hne)]
  arranged := by
    intro arrangement
    constructor
    · rintro ⟨hperm, hordered⟩
      have hdistinct : arrangement.Pairwise fun a b => a.1 ≠ b.1 :=
        dictionary.distinct.perm hperm.symm fun hne => Ne.symm hne
      have hascending : arrangement.Pairwise fun a b => a.1 < b.1 := by
        refine (hordered.and hdistinct).imp fun {a b} hpair => ?_
        obtain ⟨hanswer, hne⟩ := hpair
        rw [precedes?_of_ne (Ne.symm hne)] at hanswer
        have hnot : ¬ b.1 < a.1 := by simpa using hanswer
        exact Index.lt_of_not_lt_of_ne hnot (Ne.symm hne)
      apply Index.eq_of_ascending Prod.fst hascending index.ascending
      intro entry
      rw [hperm.mem_iff, h.mem_entries_iff]
    · rintro rfl
      refine ⟨h.perm, index.ascending.imp fun hlt => ?_⟩
      rw [precedes?_of_ne (Ne.symm (String.ne_of_lt hlt))]
      simp [String.lt_asymm hlt]

end Dictionary

end VulkanRegistry
