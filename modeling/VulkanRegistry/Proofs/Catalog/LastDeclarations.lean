import VulkanRegistry.Proofs.Catalog.Declarations
import VulkanRegistry.Report.Summary

/-!
# Indices of last declarations

Each index of a catalog holds exactly the declared names in ascending order,
and under each name what the last declaration of that name stands for, which is
called by that name itself.  A group is summarised under the name that it
carries and looked up under its key; because the two agree, looking up the
groups one after the other finds every summary, each once and in order.
-/

namespace VulkanRegistry

variable {α β : Type}

/-- An index that holds, under the declared names and no others, what the last
declaration of each name stands for.  What stands under a key is called by the
key. -/
structure HoldsLast (nameOf : α → Option String) (StandsFor : α → β → Prop)
    (calledBy : β → Option String) (declarations : List α)
    (index : Index β) : Prop where
  ascending : index.keys.Pairwise (· < ·)
  declared : ∀ name, name ∈ index.keys ↔
    ∃ declaration ∈ declarations, nameOf declaration = some name
  called : ∀ entry ∈ index.entries, calledBy entry.2 = some entry.1
  last : ∀ entry ∈ index.entries, ∃ before declaration after,
    declarations = before ++ declaration :: after ∧
      nameOf declaration = some entry.1 ∧
      (∀ later ∈ after, nameOf later ≠ some entry.1) ∧
      StandsFor declaration entry.2

/-- The group that a block declares, with the kind of the block's own marker. -/
structure EnumBlock.Declares (block : EnumBlock) (group : EnumGroup) :
    Prop where
  source : group.block = block
  kind : GroupKind.ofMarker block.marker = .ok group.kind

/-- The summaries found by looking up every group by its name, in the order of
the names; there are none if one of the names is not found. -/
def Catalog.lookedUpSummaries? (catalog : Catalog) : Option (List Summary) :=
  catalog.groups.keys.mapM catalog.summary?

/-! ## Indices -/

section Index

variable {nameOf : α → Option String} {Makes StandsFor : α → β → Prop}
  {calledBy : β → Option String} {declarations : List α} {index : Index β}

/-- An index whose look-ups answer the last declarations holds them. -/
theorem holdsLast_of_rel
    (hrel : ∀ name, Option.Rel Makes
      (lastNamed nameOf declarations name) (index.get? name))
    (hstands : ∀ declaration value, Makes declaration value →
      StandsFor declaration value)
    (hcalled : ∀ declaration value name, Makes declaration value →
      nameOf declaration = some name → calledBy value = some name) :
    HoldsLast nameOf StandsFor calledBy declarations index := by
  have hlast : ∀ entry ∈ index.entries, ∃ declaration,
      lastNamed nameOf declarations entry.1 = some declaration ∧
        Makes declaration entry.2 := by
    intro entry hentry
    have hfound := Index.mem_entries_iff.mp hentry
    have hentryRel := hrel entry.1
    rw [hfound] at hentryRel
    generalize lastNamed nameOf declarations entry.1 = source at hentryRel ⊢
    cases hentryRel with
    | some hmakes => exact ⟨_, rfl, hmakes⟩
  refine ⟨index.pairwise_keys, ?_, ?_, ?_⟩
  · intro name
    have hname := hrel name
    rw [Index.mem_keys_iff]
    constructor
    · rintro ⟨value, hvalue⟩
      obtain ⟨declaration, hdeclaration, -⟩ :=
        hlast (name, value) (Index.mem_entries_iff.mpr hvalue)
      exact ⟨declaration, mem_of_lastNamed_eq_some hdeclaration⟩
    · rintro ⟨declaration, hmem, hdeclared⟩
      cases hsource : lastNamed nameOf declarations name with
      | none =>
          exact absurd hdeclared (lastNamed_eq_none_iff.mp hsource _ hmem)
      | some last =>
          rw [hsource] at hname
          generalize index.get? name = found at hname ⊢
          cases hname with
          | some _ => exact ⟨_, rfl⟩
  · intro entry hentry
    obtain ⟨declaration, hdeclaration, hmakes⟩ := hlast entry hentry
    exact hcalled _ _ _ hmakes (mem_of_lastNamed_eq_some hdeclaration).2
  · intro entry hentry
    obtain ⟨declaration, hdeclaration, hmakes⟩ := hlast entry hentry
    obtain ⟨before, after, hsplit, hname, hafter⟩ :=
      lastNamed_eq_some_iff.mp hdeclaration
    exact ⟨before, declaration, after, hsplit, hname, hafter,
      hstands _ _ hmakes⟩

end Index

/-- An index whose look-ups are the last declarations holds them. -/
theorem holdsLast_of_get?_eq {calledBy nameOf : α → Option String}
    {declarations : List α} {index : Index α}
    (hget : ∀ name, index.get? name = lastNamed nameOf declarations name)
    (hcalled : ∀ declaration name, nameOf declaration = some name →
      calledBy declaration = some name) :
    HoldsLast nameOf Eq calledBy declarations index := by
  have hrel : ∀ name, Option.Rel Eq (lastNamed nameOf declarations name)
      (index.get? name) := by
    intro name
    rw [hget name]
    cases lastNamed nameOf declarations name with
    | none => exact Option.Rel.none
    | some declaration => exact Option.Rel.some rfl
  apply holdsLast_of_rel hrel fun _ _ heq => heq
  rintro declaration _ name rfl hname
  exact hcalled declaration name hname

section Build

variable {registry : Registry} {catalog : Catalog}

theorem holdsLast_types (hbuild : Catalog.build registry = .ok catalog) :
    HoldsLast TypeDeclaration.indexName? Eq TypeDeclaration.name
      registry.types catalog.types := by
  obtain ⟨-, -, -, -, htypes, -⟩ := Catalog.build_eq_ok_iff.mp hbuild
  rw [htypes]
  apply holdsLast_of_get?_eq registry.get?_typeIndex
  intro type name hname
  exact (TypeDeclaration.indexName?_eq_some_iff.mp hname).1

theorem holdsLast_extensions (hbuild : Catalog.build registry = .ok catalog) :
    HoldsLast (fun extension => some extension.name) Eq
      (fun extension => some extension.name) registry.extensions
      catalog.extensions := by
  obtain ⟨-, -, -, hextensions, -, -⟩ := Catalog.build_eq_ok_iff.mp hbuild
  rw [hextensions]
  exact holdsLast_of_get?_eq registry.get?_extensionIndex
    fun _ _ hname => hname

theorem holdsLast_groups (hbuild : Catalog.build registry = .ok catalog) :
    HoldsLast EnumBlock.name EnumBlock.Declares
      (fun group => some group.name) registry.enumBlocks catalog.groups := by
  have hgroups := (Catalog.build_eq_ok_iff.mp hbuild).1
  apply holdsLast_of_rel (Registry.rel_get?_groupIndex hgroups)
  · intro block group hgroup
    obtain ⟨-, -, hkind, hsource⟩ := EnumGroup.ofBlock_eq_ok hgroup
    exact ⟨hsource, hkind⟩
  · intro block group name hgroup hname
    rw [← (EnumGroup.ofBlock_eq_ok hgroup).1, hname]

/-! ## Summaries -/

theorem summary?_of_mem_groups {entry : String × EnumGroup}
    (hentry : entry ∈ catalog.groups.entries) :
    catalog.summary? entry.1 = some (catalog.summarize entry.2) := by
  rw [Catalog.summary?, Index.mem_entries_iff.mp hentry, Option.map_some]

/-- No group is missed: every name leads to the summary in its place. -/
theorem lookedUpSummaries?_eq (catalog : Catalog) :
    catalog.lookedUpSummaries? = some catalog.summaries := by
  rw [Catalog.lookedUpSummaries?, Index.keys, Catalog.summaries, Index.values,
    List.map_map, List.mapM_map]
  apply mapM_eq_some_map
  intro entry hentry
  exact summary?_of_mem_groups hentry

theorem map_name_summaries (hbuild : Catalog.build registry = .ok catalog) :
    catalog.summaries.map Summary.name = catalog.groups.keys := by
  rw [Catalog.summaries, Index.values, Index.keys, List.map_map, List.map_map]
  apply List.map_congr_left
  intro entry hentry
  exact Option.some.inj ((holdsLast_groups hbuild).called entry hentry)

theorem summary?_name_of_mem (hbuild : Catalog.build registry = .ok catalog)
    {summary : Summary} (hsummary : summary ∈ catalog.summaries) :
    catalog.summary? summary.name = some summary := by
  rw [Catalog.summaries, Index.values, List.map_map] at hsummary
  obtain ⟨entry, hentry, rfl⟩ := List.mem_map.mp hsummary
  have hname := (holdsLast_groups hbuild).called entry hentry
  have hfound := summary?_of_mem_groups hentry
  rw [← Option.some.inj hname] at hfound
  exact hfound

end Build

/-- The indices of a catalog hold the last declarations of the registry that it
is built from.  So looking up every group finds the summaries, one under each
declared name and in ascending order of the names. -/
theorem Catalog.indices_hold_last (registry : Registry) (catalog : Catalog)
    (hbuild : Catalog.build registry = .ok catalog) :
    HoldsLast TypeDeclaration.indexName? Eq TypeDeclaration.name
        registry.types catalog.types ∧
      HoldsLast EnumBlock.name EnumBlock.Declares
        (fun group => some group.name) registry.enumBlocks catalog.groups ∧
      HoldsLast (fun extension => some extension.name) Eq
        (fun extension => some extension.name) registry.extensions
        catalog.extensions ∧
      catalog.lookedUpSummaries? = some catalog.summaries ∧
      catalog.summaries.map Summary.name = catalog.groups.keys ∧
      ∀ summary ∈ catalog.summaries,
        catalog.summary? summary.name = some summary := by
  refine ⟨holdsLast_types hbuild, holdsLast_groups hbuild,
    holdsLast_extensions hbuild, lookedUpSummaries?_eq catalog,
    map_name_summaries hbuild, ?_⟩
  intro summary hsummary
  exact summary?_name_of_mem hbuild hsummary

/-! ## A registry with everything declared twice -/

/-- A registry that declares a type, a group and an extension twice, the group
with another marker, and that also has a type with an empty name. -/
def restatedRegistry : Registry :=
  ⟨[.types [⟨some "VkShape", "enum", none⟩, ⟨some "", "basetype", none⟩],
    .enums ⟨some "VkShape", none, []⟩,
    .extensions [⟨"VK_B", [], some 1, ""⟩, ⟨"VK_A", [], some 2, ""⟩],
    .enums ⟨some "VkHue", some "enum", []⟩,
    .types [⟨some "VkShape", "bitmask", none⟩, ⟨none, "include", none⟩],
    .extensions [⟨"VK_B", [], some 3, ""⟩],
    .enums ⟨some "VkShape", some "bitmask",
      [⟨"VK_SHAPE_CUBE", .bit 0 none⟩]⟩]⟩

theorem Catalog.indices_hold_last_restated :
    ∃ catalog, Catalog.build restatedRegistry = .ok catalog ∧
      HoldsLast EnumBlock.name EnumBlock.Declares
        (fun group => some group.name) restatedRegistry.enumBlocks
        catalog.groups ∧
      catalog.groups.values.map EnumGroup.kind = [.enumeration, .flagSet] ∧
      catalog.types.values.map TypeDeclaration.category = ["bitmask"] ∧
      catalog.extensions.values.map Extension.number = [some 2, some 3] ∧
      catalog.lookedUpSummaries?.map (·.map Summary.name) =
        some ["VkHue", "VkShape"] := by
  obtain ⟨catalog, hbuild⟩ :
      ∃ catalog, Catalog.build restatedRegistry = .ok catalog := ⟨_, rfl⟩
  obtain ⟨-, hgroups, -, hlooked, hnames, -⟩ :=
    Catalog.indices_hold_last restatedRegistry catalog hbuild
  refine ⟨catalog, hbuild, hgroups, ?_, ?_, ?_, ?_⟩
  · cases hbuild
    decide +kernel
  · cases hbuild
    decide +kernel
  · cases hbuild
    decide +kernel
  · rw [hlooked, Option.map_some, hnames]
    cases hbuild
    decide +kernel

end VulkanRegistry
