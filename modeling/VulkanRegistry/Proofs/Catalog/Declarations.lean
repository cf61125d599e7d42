import VulkanRegistry.Catalog.Basic
import VulkanRegistry.Proofs.Index.LastNamed
import VulkanRegistry.Proofs.Traversal

/-!
# What the indices of a catalog hold

Each index holds, under every declared name, the last declaration of that name.
The groups can be indexed exactly when every declared group has a name and a
known marker, those that are declared again included.
-/

namespace VulkanRegistry

/-- The name under which a type is indexed; an empty name is no name. -/
def TypeDeclaration.indexName? (type : TypeDeclaration) : Option String :=
  type.name.filter fun name => name != ""

theorem TypeDeclaration.indexName?_eq_some_iff {type : TypeDeclaration}
    {name : String} :
    type.indexName? = some name ↔ type.name = some name ∧ name ≠ "" := by
  simp [indexName?, Option.filter_eq_some_iff]

namespace Registry

theorem get?_extensionIndex (registry : Registry) (name : String) :
    registry.extensionIndex.get? name =
      lastNamed (fun extension => some extension.name) registry.extensions
        name := by
  rw [← Index.get?_ofList_named, extensionIndex]
  simp

theorem typeIndex_eq (registry : Registry) :
    registry.typeIndex =
      Index.ofList (registry.types.filterMap fun type =>
        type.indexName?.map fun name => (name, type)) := by
  rw [typeIndex]
  congr 1
  apply List.filterMap_congr
  rintro ⟨name, category, aliased⟩ -
  cases name with
  | none => rfl
  | some name =>
      by_cases hempty : name = ""
      · subst hempty
        rfl
      · simp [TypeDeclaration.indexName?, hempty]

theorem get?_typeIndex (registry : Registry) (name : String) :
    registry.typeIndex.get? name =
      lastNamed TypeDeclaration.indexName? registry.types name := by
  rw [typeIndex_eq, Index.get?_ofList_named]

theorem mem_sortedTags {registry : Registry} {name : String} :
    name ∈ registry.sortedTags ↔ name ∈ registry.tagNames := by
  simp [sortedTags, Index.mem_keys_ofList]

end Registry

/-! ## Groups -/

theorem EnumGroup.ofBlock_eq_ok {block : EnumBlock} {group : EnumGroup}
    (h : EnumGroup.ofBlock block = .ok group) :
    block.name = some group.name ∧ group.name ≠ "" ∧
      GroupKind.ofMarker block.marker = .ok group.kind ∧
      group.block = block := by
  rw [ofBlock] at h
  split at h
  · cases h
  · cases h
  · rename_i name hnonempty hname
    obtain ⟨kind, hkind, rfl⟩ := map_eq_ok_iff.mp h
    exact ⟨hname, hnonempty, hkind, rfl⟩

namespace Registry

theorem groupIndex_eq_ok {registry : Registry} {groups : Index EnumGroup}
    (h : registry.groupIndex = .ok groups) :
    ∃ found,
      List.Forall₂ (fun block group => EnumGroup.ofBlock block = .ok group)
        registry.enumBlocks found ∧
      groups = Index.ofList (found.map fun group => (group.name, group)) := by
  obtain ⟨found, hfound, hgroups⟩ := map_eq_ok_iff.mp h
  exact ⟨found, mapM_eq_ok_iff_forall₂.mp hfound, hgroups.symm⟩

/-- The group of a name is the one that the last block of that name
declares. -/
theorem rel_get?_groupIndex {registry : Registry} {groups : Index EnumGroup}
    (h : registry.groupIndex = .ok groups) (name : String) :
    Option.Rel (fun block group => EnumGroup.ofBlock block = .ok group)
      (lastNamed EnumBlock.name registry.enumBlocks name)
      (groups.get? name) := by
  obtain ⟨found, hfound, rfl⟩ := groupIndex_eq_ok h
  have hindex : (Index.ofList (found.map fun group =>
      (group.name, group))).get? name =
        lastNamed (fun group : EnumGroup => some group.name) found name := by
    rw [← Index.get?_ofList_named]
    simp
  rw [hindex]
  apply rel_lastNamed EnumBlock.name (fun group => some group.name) _ hfound
  intro block group hgroup
  exact (EnumGroup.ofBlock_eq_ok hgroup).1

theorem exists_groupIndex_eq_ok_iff {registry : Registry} :
    (∃ groups, registry.groupIndex = .ok groups) ↔
      ∀ block ∈ registry.enumBlocks,
        ∃ group, EnumGroup.ofBlock block = .ok group := by
  rw [← exists_mapM_eq_ok_iff]
  exact exists_map_eq_ok_iff

end Registry

/-! ## Catalogs -/

namespace Catalog

/-- The parts of a catalog that could be built. -/
theorem build_eq_ok_iff {registry : Registry} {catalog : Catalog} :
    build registry = .ok catalog ↔
      registry.groupIndex = .ok catalog.groups ∧
        catalog.registry = registry ∧
        catalog.tags = registry.sortedTags ∧
        catalog.extensions = registry.extensionIndex ∧
        catalog.types = registry.typeIndex ∧
        catalog.aggregates =
          Aggregate.collect registry.extensionIndex.entries := by
  rw [build, map_eq_ok_iff]
  constructor
  · rintro ⟨groups, hgroups, rfl⟩
    exact ⟨hgroups, rfl, rfl, rfl, rfl, rfl⟩
  · obtain ⟨source, tags, extensions, types, groups, aggregates⟩ := catalog
    dsimp only
    rintro ⟨hgroups, rfl, rfl, rfl, rfl, rfl⟩
    exact ⟨groups, hgroups, rfl⟩

theorem exists_build_eq_ok_iff {registry : Registry} :
    (∃ catalog, build registry = .ok catalog) ↔
      ∀ block ∈ registry.enumBlocks,
        ∃ group, EnumGroup.ofBlock block = .ok group := by
  rw [← Registry.exists_groupIndex_eq_ok_iff]
  exact exists_map_eq_ok_iff

end Catalog

end VulkanRegistry
