/-!
# Indices

An index is a finite map from names to values whose entries ascend by name.  It
has one form for each map, so equal maps are equal indices whatever order they
were filled in.
-/

namespace VulkanRegistry

/-- A finite map with its entries in ascending order of the keys. -/
@[ext]
structure Index (α : Type) where
  entries : List (String × α)
  ascending : entries.Pairwise fun a b => a.1 < b.1

namespace Index

variable {α : Type}

theorem lt_of_not_lt_of_ne {a b : String} (hlt : ¬ a < b) (hne : a ≠ b) :
    b < a := by
  by_cases h : b < a
  · exact h
  · have heq := String.le_antisymm (String.not_lt.mp h) (String.not_lt.mp hlt)
    exact absurd heq hne

/-- Gives a key the value that `change` makes of its present value. -/
def updateEntries (key : String) (change : Option α → α) :
    List (String × α) → List (String × α)
  | [] => [(key, change none)]
  | (other, value) :: rest =>
      if key < other then (key, change none) :: (other, value) :: rest
      else if key = other then (other, change (some value)) :: rest
      else (other, value) :: updateEntries key change rest

theorem mem_keys_updateEntries {key name : String} {change : Option α → α}
    {entries : List (String × α)} :
    name ∈ (updateEntries key change entries).map Prod.fst ↔
      name = key ∨ name ∈ entries.map Prod.fst := by
  induction entries with
  | nil => simp [updateEntries]
  | cons entry rest ih =>
      obtain ⟨other, value⟩ := entry
      rw [updateEntries]
      split
      · simp
      · split
        · rename_i heq
          simp [heq]
        · rw [List.map_cons, List.mem_cons, ih, List.map_cons, List.mem_cons]
          exact or_left_comm

theorem pairwise_updateEntries (key : String) (change : Option α → α)
    {entries : List (String × α)} (h : entries.Pairwise fun a b => a.1 < b.1) :
    (updateEntries key change entries).Pairwise fun a b => a.1 < b.1 := by
  induction entries with
  | nil => simp [updateEntries]
  | cons entry rest ih =>
      obtain ⟨other, value⟩ := entry
      obtain ⟨above, tail⟩ := List.pairwise_cons.mp h
      rw [updateEntries]
      split
      · rename_i hlt
        refine List.pairwise_cons.mpr ⟨?_, h⟩
        intro entry hentry
        rcases List.mem_cons.mp hentry with rfl | hrest
        · exact hlt
        · exact String.lt_trans hlt (above entry hrest)
      · rename_i hnlt
        split
        · exact List.pairwise_cons.mpr ⟨above, tail⟩
        · rename_i hne
          refine List.pairwise_cons.mpr ⟨?_, ih tail⟩
          intro entry hentry
          have hname : entry.1 ∈ (updateEntries key change rest).map Prod.fst :=
            List.mem_map_of_mem hentry
          rcases mem_keys_updateEntries.mp hname with heq | hold
          · rw [heq]
            exact lt_of_not_lt_of_ne hnlt hne
          · obtain ⟨old, hmem, hfst⟩ := List.mem_map.mp hold
            rw [← hfst]
            exact above old hmem

theorem lookup_cons_of_ne {key name : String} (h : name ≠ key) (value : α)
    (rest : List (String × α)) :
    ((key, value) :: rest).lookup name = rest.lookup name := by
  simp [List.lookup_cons, beq_false_of_ne h]

theorem lookup_eq_none_of_lt {key : String} {entries : List (String × α)}
    (h : ∀ entry ∈ entries, key < entry.1) : entries.lookup key = none := by
  rw [List.lookup_eq_none_iff]
  intro entry hentry
  have hbelow := h entry hentry
  simpa using fun heq : key = entry.1 => String.lt_irrefl key (heq ▸ hbelow)

theorem lookup_updateEntries (key name : String) (change : Option α → α)
    {entries : List (String × α)} (h : entries.Pairwise fun a b => a.1 < b.1) :
    (updateEntries key change entries).lookup name =
      if name = key then some (change (entries.lookup key))
      else entries.lookup name := by
  induction entries with
  | nil =>
      rw [updateEntries]
      by_cases hname : name = key
      · simp [hname]
      · rw [lookup_cons_of_ne hname, if_neg hname]
  | cons entry rest ih =>
      obtain ⟨other, value⟩ := entry
      obtain ⟨above, tail⟩ := List.pairwise_cons.mp h
      rw [updateEntries]
      split
      · rename_i hlt
        have habsent : ((other, value) :: rest).lookup key = none := by
          apply lookup_eq_none_of_lt
          intro entry hentry
          rcases List.mem_cons.mp hentry with rfl | hrest
          · exact hlt
          · exact String.lt_trans hlt (above entry hrest)
        rw [habsent]
        by_cases hname : name = key
        · simp [hname]
        · rw [lookup_cons_of_ne hname, if_neg hname]
      · split
        · rename_i heq
          subst heq
          by_cases hname : name = key
          · simp [hname]
          · rw [lookup_cons_of_ne hname, lookup_cons_of_ne hname, if_neg hname]
        · rename_i hne
          rw [lookup_cons_of_ne hne]
          by_cases hother : name = other
          · subst hother
            simp [Ne.symm hne]
          · rw [lookup_cons_of_ne hother, lookup_cons_of_ne hother, ih tail]

/-- The index without entries. -/
def empty : Index α := ⟨[], List.Pairwise.nil⟩

/-- Gives a key the value that `change` makes of its present value. -/
def update (index : Index α) (key : String) (change : Option α → α) : Index α :=
  ⟨updateEntries key change index.entries,
    pairwise_updateEntries key change index.ascending⟩

/-- Gives a key a value, in place of the value that it has. -/
def insert (index : Index α) (key : String) (value : α) : Index α :=
  index.update key fun _ => value

/-- The index of a list of pairs, in which the last value of a key counts. -/
def ofList (pairs : List (String × α)) : Index α :=
  pairs.foldl (fun index pair => index.insert pair.1 pair.2) empty

/-- The value of a key, if it has one. -/
def get? (index : Index α) (key : String) : Option α :=
  index.entries.lookup key

/-- The keys in ascending order. -/
def keys (index : Index α) : List String :=
  index.entries.map Prod.fst

/-- The values in ascending order of their keys. -/
def values (index : Index α) : List α :=
  index.entries.map Prod.snd

/-- The number of keys. -/
def size (index : Index α) : Nat :=
  index.entries.length

theorem get?_update (index : Index α) (key name : String)
    (change : Option α → α) :
    (index.update key change).get? name =
      if name = key then some (change (index.get? key)) else index.get? name :=
  lookup_updateEntries key name change index.ascending

theorem get?_insert (index : Index α) (key name : String) (value : α) :
    (index.insert key value).get? name =
      if name = key then some value else index.get? name :=
  get?_update index key name fun _ => value

theorem get?_foldl_insert (pairs : List (String × α)) (index : Index α)
    (key : String) :
    (pairs.foldl (fun index pair => index.insert pair.1 pair.2) index).get?
        key =
      (pairs.reverse.lookup key).or (index.get? key) := by
  induction pairs generalizing index with
  | nil => simp
  | cons pair rest ih =>
      obtain ⟨name, value⟩ := pair
      rw [List.foldl_cons, ih, List.reverse_cons, List.lookup_append,
        get?_insert]
      by_cases hkey : key = name
      · simp [hkey]
      · rw [if_neg hkey, lookup_cons_of_ne hkey]
        simp

/-- In the index of a list of pairs, the last pair with a key gives its
value. -/
theorem get?_ofList (pairs : List (String × α)) (key : String) :
    (ofList pairs).get? key = pairs.reverse.lookup key := by
  rw [ofList, get?_foldl_insert]
  simp [get?, empty]

end Index

end VulkanRegistry
