import VulkanRegistry.Command.Discovery
import VulkanRegistry.Proofs.Catalog.Declarations

/-!
# Order independence

A catalog depends on its registry only through the names of the tags and the
last declaration of each type, group and extension.  Registries that agree in
these have the same indices, entry for entry, and the same reports, although
one may spread over many sections what the other keeps in one.  Two
declarations of one name must keep their order: the naive statement, in which
they may be exchanged, is false.
-/

namespace VulkanRegistry

variable {α : Type}

/-- Registries with the same tag names and with the same last declaration of
each name. -/
structure SameDeclarations (left right : Registry) : Prop where
  tags : ∀ name, name ∈ left.tagNames ↔ name ∈ right.tagNames
  types : ∀ name, name ≠ "" →
    lastNamed TypeDeclaration.name left.types name =
      lastNamed TypeDeclaration.name right.types name
  groups : ∀ name,
    lastNamed EnumBlock.name left.enumBlocks name =
      lastNamed EnumBlock.name right.enumBlocks name
  extensions : ∀ name,
    lastNamed (fun extension => some extension.name) left.extensions name =
      lastNamed (fun extension => some extension.name) right.extensions name

/-- Declarations in another order, in which those of one name keep theirs. -/
structure Reordered (nameOf : α → Option String) (left right : List α) :
    Prop where
  perm : left.Perm right
  sameName : ∀ name,
    (left.filter fun declaration => nameOf declaration = some name) =
      right.filter fun declaration => nameOf declaration = some name

/-- Registries whose declarations of each kind are reordered.  The declarations
of a kind are those of all sections together, so sections may be moved, split
and merged. -/
structure Rearranged (left right : Registry) : Prop where
  tags : left.tagNames.Perm right.tagNames
  types : Reordered TypeDeclaration.indexName? left.types right.types
  groups : Reordered EnumBlock.name left.enumBlocks right.enumBlocks
  extensions :
    Reordered (fun extension => some extension.name) left.extensions
      right.extensions

/-- Catalogs with the same indices, entry for entry. -/
structure SameIndices (left right : Catalog) : Prop where
  tags : left.tags = right.tags
  extensions : left.extensions = right.extensions
  types : left.types = right.types
  groups : left.groups = right.groups
  aggregates : left.aggregates = right.aggregates

theorem Reordered.lastNamed_eq {nameOf : α → Option String}
    {left right : List α} (h : Reordered nameOf left right) (name : String) :
    lastNamed nameOf left name = lastNamed nameOf right name := by
  rw [lastNamed, lastNamed, h.sameName name]

theorem lastNamed_indexName? (types : List TypeDeclaration) {name : String}
    (hname : name ≠ "") :
    lastNamed TypeDeclaration.indexName? types name =
      lastNamed TypeDeclaration.name types name := by
  apply lastNamed_congr
  intro type _
  rw [TypeDeclaration.indexName?_eq_some_iff]
  exact and_iff_left hname

theorem Rearranged.sameDeclarations {left right : Registry}
    (h : Rearranged left right) : SameDeclarations left right where
  tags _ := h.tags.mem_iff
  types name hname := by
    rw [← lastNamed_indexName? left.types hname,
      ← lastNamed_indexName? right.types hname]
    exact h.types.lastNamed_eq name
  groups := h.groups.lastNamed_eq
  extensions := h.extensions.lastNamed_eq

/-! ## The indices -/

namespace SameDeclarations

variable {left right : Registry}

theorem sortedTags_eq (h : SameDeclarations left right) :
    left.sortedTags = right.sortedTags := by
  apply Index.keys_eq_of_mem_iff (Index.pairwise_keys _)
  intro name
  exact Registry.mem_sortedTags.trans
    ((h.tags name).trans Registry.mem_sortedTags.symm)

theorem extensionIndex_eq (h : SameDeclarations left right) :
    left.extensionIndex = right.extensionIndex := by
  apply Index.eq_of_get?_eq
  intro name
  rw [Registry.get?_extensionIndex, Registry.get?_extensionIndex,
    h.extensions name]

theorem typeIndex_eq (h : SameDeclarations left right) :
    left.typeIndex = right.typeIndex := by
  apply Index.eq_of_get?_eq
  intro name
  rw [Registry.get?_typeIndex, Registry.get?_typeIndex]
  by_cases hname : name = ""
  · -- No type is indexed under the empty name, in either registry.
    have hnone : ∀ types : List TypeDeclaration,
        lastNamed TypeDeclaration.indexName? types name = none := by
      intro types
      rw [lastNamed_eq_none_iff]
      intro type _ hindexed
      exact (TypeDeclaration.indexName?_eq_some_iff.mp hindexed).2 hname
    rw [hnone, hnone]
  · rw [lastNamed_indexName? _ hname, lastNamed_indexName? _ hname,
      h.types name hname]

theorem groupIndex_eq (h : SameDeclarations left right)
    {leftGroups rightGroups : Index EnumGroup}
    (hleft : left.groupIndex = .ok leftGroups)
    (hright : right.groupIndex = .ok rightGroups) :
    leftGroups = rightGroups := by
  apply Index.eq_of_get?_eq
  intro name
  have hleftRel := Registry.rel_get?_groupIndex hleft name
  have hrightRel := Registry.rel_get?_groupIndex hright name
  rw [← h.groups name] at hrightRel
  refine eq_of_rel_of_rel ?_ hleftRel hrightRel
  intro block found other hfound hother
  exact Except.ok.inj (hfound.symm.trans hother)

theorem sameIndices (h : SameDeclarations left right) {a b : Catalog}
    (ha : Catalog.build left = .ok a) (hb : Catalog.build right = .ok b) :
    SameIndices a b := by
  obtain ⟨hga, -, hta, hea, htya, haga⟩ := Catalog.build_eq_ok_iff.mp ha
  obtain ⟨hgb, -, htb, heb, htyb, hagb⟩ := Catalog.build_eq_ok_iff.mp hb
  constructor
  · rw [hta, htb, h.sortedTags_eq]
  · rw [hea, heb, h.extensionIndex_eq]
  · rw [htya, htyb, h.typeIndex_eq]
  · exact h.groupIndex_eq hga hgb
  · rw [haga, hagb, h.extensionIndex_eq]

end SameDeclarations

/-! ## The reports -/

namespace SameIndices

variable {left right : Catalog}

theorem summarize_eq (h : SameIndices left right) :
    left.summarize = right.summarize := by
  obtain ⟨_, _, _, _, _, _⟩ := left
  obtain ⟨_, _, _, _, _, _⟩ := right
  obtain ⟨htags, -, -, -, haggregates⟩ := h
  dsimp only at htags haggregates
  subst htags haggregates
  rfl

theorem summary?_eq (h : SameIndices left right) (name : String) :
    left.summary? name = right.summary? name := by
  rw [Catalog.summary?, Catalog.summary?, h.groups, h.summarize_eq]

theorem summaries_eq (h : SameIndices left right) :
    left.summaries = right.summaries := by
  rw [Catalog.summaries, Catalog.summaries, h.groups, h.summarize_eq]

theorem counts_eq (h : SameIndices left right) :
    Discovery.counts left = Discovery.counts right := by
  unfold Discovery.counts
  rw [h.tags, h.types, h.groups, h.extensions, h.aggregates]

theorem listing_eq (h : SameIndices left right) (filter : Given String)
    (source : String) :
    Discovery.listing left filter source =
      Discovery.listing right filter source := by
  simp only [Discovery.listing, h.summaries_eq]

theorem report_eq (h : SameIndices left right) (config : Config) :
    Discovery.report config left = Discovery.report config right := by
  simp only [Discovery.report, h.counts_eq, h.listing_eq, h.summary?_eq]

end SameIndices

/-- A rearrangement neither makes nor mends a faulty group. -/
theorem Rearranged.exists_build_eq_ok_iff {left right : Registry}
    (h : Rearranged left right) :
    (∃ a, Catalog.build left = .ok a) ↔ ∃ b, Catalog.build right = .ok b := by
  rw [Catalog.exists_build_eq_ok_iff, Catalog.exists_build_eq_ok_iff]
  constructor
  · intro hleft block hmem
    exact hleft block (h.groups.perm.mem_iff.mpr hmem)
  · intro hright block hmem
    exact hright block (h.groups.perm.mem_iff.mp hmem)

/-- Registries with the same last declarations have the same indices and the
same reports, and a rearranged registry is such a one and can be indexed exactly
when the registry can. -/
theorem Catalog.order_independence (left right : Registry) :
    (SameDeclarations left right →
      ∀ a b, Catalog.build left = .ok a → Catalog.build right = .ok b →
        SameIndices a b ∧
          a.summaries = b.summaries ∧
          (∀ source,
            Table.render a.summaries source =
              Table.render b.summaries source) ∧
          (∀ name,
            (a.summary? name).map Detail.render =
              (b.summary? name).map Detail.render) ∧
          ∀ config, Discovery.report config a = Discovery.report config b) ∧
      (Rearranged left right →
        SameDeclarations left right ∧
          ((∃ a, Catalog.build left = .ok a) ↔
            ∃ b, Catalog.build right = .ok b)) := by
  constructor
  · intro h a b ha hb
    have hindices := h.sameIndices ha hb
    refine ⟨hindices, hindices.summaries_eq, ?_, ?_, hindices.report_eq⟩
    · intro source
      rw [hindices.summaries_eq]
    · intro name
      rw [hindices.summary?_eq]
  · intro h
    exact ⟨h.sameDeclarations, h.exists_build_eq_ok_iff⟩

/-! ## A registry in two arrangements -/

/-- An extension that makes `VK_SHAPE_CONE` a variant of `VkShape`. -/
def coneExtension : Extension :=
  ⟨"VK_A", [.require [.enumerant
    ⟨"VK_SHAPE_CONE", .offset 0 "VkShape" none ""⟩] ""], some 2, ""⟩

/-- A registry that declares `VK_A` twice, in two sections. -/
def spreadRegistry : Registry :=
  ⟨[.extensions [⟨"VK_B", [], none, ""⟩, ⟨"VK_A", [], none, ""⟩],
    .enums ⟨some "VkShape", some "enum", []⟩,
    .extensions [coneExtension]]⟩

/-- The same declarations with all extensions in one section. -/
def mergedRegistry : Registry :=
  ⟨[.enums ⟨some "VkShape", some "enum", []⟩,
    .extensions
      [⟨"VK_A", [], none, ""⟩, coneExtension, ⟨"VK_B", [], none, ""⟩]]⟩

theorem rearranged_spread_merged :
    Rearranged spreadRegistry mergedRegistry where
  tags := List.Perm.refl _
  types := ⟨List.Perm.refl _, fun _ => rfl⟩
  groups := ⟨List.Perm.refl _, fun _ => rfl⟩
  extensions := by
    refine ⟨by decide +kernel, ?_⟩
    intro name
    by_cases hfirst : "VK_A" = name
    · subst hfirst
      decide +kernel
    · by_cases hsecond : "VK_B" = name
      · subst hsecond
        decide +kernel
      · simp [spreadRegistry, mergedRegistry, Registry.extensions,
          coneExtension, hfirst, hsecond]

theorem Catalog.order_independence_spread_merged :
    Rearranged spreadRegistry mergedRegistry ∧
      ∃ a b, Catalog.build spreadRegistry = .ok a ∧
        Catalog.build mergedRegistry = .ok b ∧ SameIndices a b ∧
          ∀ config, Discovery.report config a = Discovery.report config b := by
  obtain ⟨hreports, hrearranged⟩ :=
    Catalog.order_independence spreadRegistry mergedRegistry
  obtain ⟨hsame, hbuilds⟩ := hrearranged rearranged_spread_merged
  obtain ⟨a, ha⟩ : ∃ a, Catalog.build spreadRegistry = .ok a := ⟨_, rfl⟩
  obtain ⟨b, hb⟩ := hbuilds.mp ⟨a, ha⟩
  obtain ⟨hindices, -, -, -, hreport⟩ := hreports hsame a b ha hb
  exact ⟨rearranged_spread_merged, a, b, ha, hb, hindices, hreport⟩

-- Two declarations of `VK_A` may not be exchanged.
example :
    (Registry.extensionIndex ⟨[.extensions
        [⟨"VK_A", [], none, ""⟩, coneExtension]]⟩).get? "VK_A" ≠
      (Registry.extensionIndex ⟨[.extensions
        [coneExtension, ⟨"VK_A", [], none, ""⟩]]⟩).get? "VK_A" := by
  decide +kernel

end VulkanRegistry
