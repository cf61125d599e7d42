import Mathlib.Data.List.Induction
import VulkanRegistry.Catalog.Aggregate
import VulkanRegistry.Proofs.Index.Canonical

/-!
# The walk over the extensions

Aggregation meets the required enumerants of each extension in declaration
order and gives each one that has a target to the aggregate of that target.
The nested folds that do so are one fold over the list of what is met, and the
aggregate of a target is what that list holds for the target.
-/

namespace VulkanRegistry

/-- The enumerant that an item stands for, if it stands for one. -/
def InterfaceItem.enumerant? : InterfaceItem → Option Enumerant
  | .enumerant declared => some declared
  | _ => none

/-- The enumerants that a block requires; a removing block requires none. -/
def InterfaceBlock.required : InterfaceBlock → List Enumerant
  | .require items _ => items.filterMap InterfaceItem.enumerant?
  | .remove _ => []

/-- The enumerants that an extension requires, in declaration order. -/
def Extension.required (extension : Extension) : List Enumerant :=
  extension.blocks.flatMap InterfaceBlock.required

namespace Aggregate

/-- What a required enumerant contributes, with its target. -/
def contribution? (extension : String) (enumerant : Enumerant) :
    Option (String × Contribution) :=
  enumerant.payload.target?.map fun target => (target, ⟨extension, enumerant⟩)

/-- All contributions with their targets, in the order of the walk. -/
def walk (extensions : List (String × Extension)) :
    List (String × Contribution) :=
  extensions.flatMap fun (name, extension) =>
    extension.required.filterMap (contribution? name)

/-- What extensions contribute to one target, in the order of the walk. -/
def contributionsTo (target : String) (extensions : List (String × Extension)) :
    List Contribution :=
  extensions.flatMap fun (name, extension) =>
    (extension.required.filter fun enumerant =>
      enumerant.payload.target? = some target).map (Contribution.mk name)

/-- The aggregate of a list of contributions, which has none when the list is
empty. -/
def ofContributions? : List Contribution → Option Aggregate
  | [] => none
  | first :: rest => some ⟨first.extension, first :: rest⟩

/-- Gives a contribution to the aggregate of its target. -/
def add (found : Index Aggregate) (met : String × Contribution) :
    Index Aggregate :=
  found.update met.1 (join met.2)

/-! ## One fold in place of three -/

theorem addItem_eq_foldl (extension : String) (found : Index Aggregate)
    (item : InterfaceItem) :
    addItem extension found item =
      (item.enumerant?.toList.filterMap (contribution? extension)).foldl add
        found := by
  cases item with
  | enumerant enumerant =>
      cases htarget : enumerant.payload.target? with
      | none =>
          simp [addItem, InterfaceItem.enumerant?, contribution?, htarget]
      | some target =>
          simp [addItem, InterfaceItem.enumerant?, contribution?, htarget, add]
  | type name => rfl
  | command name => rfl
  | comment text => rfl

theorem foldl_addItem (extension : String) (items : List InterfaceItem)
    (found : Index Aggregate) :
    items.foldl (addItem extension) found =
      ((items.filterMap InterfaceItem.enumerant?).filterMap
        (contribution? extension)).foldl add found := by
  induction items generalizing found with
  | nil => rfl
  | cons item rest ih =>
      have hsplit : (item :: rest).filterMap InterfaceItem.enumerant? =
          item.enumerant?.toList ++
            rest.filterMap InterfaceItem.enumerant? := by
        cases h : item.enumerant? <;> simp [h]
      rw [List.foldl_cons, ih, addItem_eq_foldl, hsplit,
        List.filterMap_append, List.foldl_append]

theorem foldl_addBlock (extension : String) (blocks : List InterfaceBlock)
    (found : Index Aggregate) :
    blocks.foldl (addBlock extension) found =
      ((blocks.flatMap InterfaceBlock.required).filterMap
        (contribution? extension)).foldl add found := by
  rw [List.filterMap_flatMap, List.foldl_flatMap]
  congr 1
  funext found block
  cases block with
  | require items depends => exact foldl_addItem extension items found
  | remove items => rfl

/-- Aggregation is one fold over what the walk meets. -/
theorem collect_eq_foldl_walk (extensions : List (String × Extension)) :
    collect extensions = (walk extensions).foldl add Index.empty := by
  rw [collect, walk, List.foldl_flatMap]
  congr 1
  funext found entry
  exact foldl_addBlock entry.1 entry.2.blocks found

/-! ## The aggregate of one target -/

theorem join_ofContributions? (contributions : List Contribution)
    (last : Contribution) :
    some (join last (ofContributions? contributions)) =
      ofContributions? (contributions ++ [last]) := by
  cases contributions <;> rfl

theorem entries_ofContributions? (contributions : List Contribution) :
    ((ofContributions? contributions).map Aggregate.entries).getD [] =
      contributions := by
  cases contributions <;> rfl

theorem representative_ofContributions? (contributions : List Contribution) :
    (ofContributions? contributions).map Aggregate.representative =
      contributions.head?.map Contribution.extension := by
  cases contributions <;> rfl

/-- After any part of the walk, the aggregate of a target holds exactly what
that part meets for the target. -/
theorem get?_foldl_add (met : List (String × Contribution)) (target : String) :
    (met.foldl add Index.empty).get? target =
      ofContributions?
        ((met.filter fun pair => pair.1 = target).map Prod.snd) := by
  induction met using List.reverseRecOn with
  | nil => rfl
  | append_singleton before last ih =>
      rw [List.foldl_append, List.foldl_cons, List.foldl_nil, add,
        Index.get?_update, List.filter_append, List.map_append]
      by_cases htarget : last.1 = target
      · subst htarget
        simpa [ih] using join_ofContributions? _ last.2
      · simp [htarget, Ne.symm htarget, ih]

theorem filter_walk (target : String) (extensions : List (String × Extension)) :
    ((walk extensions).filter fun pair => pair.1 = target).map Prod.snd =
      contributionsTo target extensions := by
  rw [walk, contributionsTo, List.filter_flatMap, List.map_flatMap]
  congr 1
  funext ⟨name, extension⟩
  dsimp only
  induction extension.required with
  | nil => rfl
  | cons enumerant rest ih =>
      cases hmeant : enumerant.payload.target? with
      | none => simpa [contribution?, hmeant] using ih
      | some other =>
          by_cases htarget : other = target
          · simpa [contribution?, hmeant, htarget] using ih
          · simpa [contribution?, hmeant, htarget] using ih

/-- The aggregate of a target is what the extensions contribute to it. -/
theorem get?_collect (extensions : List (String × Extension))
    (target : String) :
    (collect extensions).get? target =
      ofContributions? (contributionsTo target extensions) := by
  rw [collect_eq_foldl_walk, get?_foldl_add, filter_walk]

end Aggregate

end VulkanRegistry
