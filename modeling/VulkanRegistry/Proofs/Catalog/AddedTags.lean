import Mathlib.Data.List.Flatten
import VulkanRegistry.Proofs.Catalog.Declarations
import VulkanRegistry.Proofs.Naming.FurtherTags
import VulkanRegistry.Report.Summary

/-!
# Further sections of vendor tags

Vendor tags play a part in the names of variants and nowhere else.  A registry
with further sections of tags has the same types, groups, extensions and
aggregates, and its summaries differ in the names of variants only, which lose
tokens at their ends.
-/

namespace VulkanRegistry

open Text

/-! ## Registries -/

/-- Sections with further sections of vendor tags among them. -/
inductive AddsTags : List Section → List Section → Prop where
  | none : AddsTags [] []
  | kept (shared : Section) {former larger : List Section}
      (hrest : AddsTags former larger) :
      AddsTags (shared :: former) (shared :: larger)
  | added (tags : List Tag) {former larger : List Section}
      (hrest : AddsTags former larger) :
      AddsTags former (.tags tags :: larger)

namespace AddsTags

variable {registry grown : Registry}

/-- What the sections of tags do not hold stays as it is. -/
theorem flatMap_eq {α : Type} {former larger : List Section}
    (h : AddsTags former larger) {read : Section → List α}
    (hread : ∀ tags, read (.tags tags) = []) :
    larger.flatMap read = former.flatMap read := by
  induction h with
  | none => rfl
  | kept shared _ ih => rw [List.flatMap_cons, List.flatMap_cons, ih]
  | added tags _ ih => rw [List.flatMap_cons, hread, List.nil_append, ih]

theorem types_eq (h : AddsTags registry.sections grown.sections) :
    grown.types = registry.types :=
  h.flatMap_eq fun _ => rfl

theorem enumBlocks_eq (h : AddsTags registry.sections grown.sections) :
    grown.enumBlocks = registry.enumBlocks :=
  h.flatMap_eq fun _ => rfl

theorem extensions_eq (h : AddsTags registry.sections grown.sections) :
    grown.extensions = registry.extensions :=
  h.flatMap_eq fun _ => rfl

theorem sublist {former larger : List Section} (h : AddsTags former larger) :
    former.Sublist larger := by
  induction h with
  | none => exact List.Sublist.refl _
  | kept shared _ ih => exact ih.cons_cons shared
  | added tags _ ih => exact ih.cons _

theorem tagNames_subset (h : AddsTags registry.sections grown.sections) :
    registry.tagNames ⊆ grown.tagNames :=
  (h.sublist.flatMap _).subset

/-- The catalog of the larger registry is the former one with more tags. -/
theorem build_eq (h : AddsTags registry.sections grown.sections)
    {former : Catalog} (hbuild : Catalog.build registry = .ok former) :
    Catalog.build grown =
      .ok { former with registry := grown, tags := grown.sortedTags } := by
  obtain ⟨hgroups, -, -, hextensions, htypes, haggregates⟩ :=
    Catalog.build_eq_ok_iff.mp hbuild
  rw [Catalog.build_eq_ok_iff]
  rw [Registry.groupIndex, ← h.enumBlocks_eq] at hgroups
  rw [Registry.extensionIndex, ← h.extensions_eq] at hextensions haggregates
  rw [Registry.typeIndex, ← h.types_eq] at htypes
  exact ⟨hgroups, rfl, rfl, hextensions, htypes, haggregates⟩

end AddsTags

/-! ## Summaries -/

theorem forall₂_map {α β γ : Type} {R : β → γ → Prop} {f : α → β} {g : α → γ}
    (h : ∀ a, R (f a) (g a)) (items : List α) :
    List.Forall₂ R (items.map f) (items.map g) := by
  rw [List.forall₂_map_left_iff, List.forall₂_map_right_iff, List.forall₂_same]
  exact fun a _ => h a

/-- Variants of one enumerant of which the second may have a shorter name. -/
structure Variant.LosesTokens (variant shorter : Variant) : Prop where
  rawName : shorter.rawName = variant.rawName
  name : Naming.LosesAtEnd (tokens variant.rawName) variant.name shorter.name
  extension : shorter.extension = variant.extension
  isAlias : shorter.isAlias = variant.isAlias

/-- Summaries of one group of which the second may have shorter names of
variants. -/
structure Summary.LosesTokens (summary shorter : Summary) : Prop where
  name : shorter.name = summary.name
  kind : shorter.kind = summary.kind
  typeName : shorter.typeName = summary.typeName
  representative : shorter.representative = summary.representative
  variants : List.Forall₂ Variant.LosesTokens summary.variants shorter.variants

/-- How a catalog changes by further tags. -/
structure Catalog.GainsTags (former larger : Catalog) : Prop where
  tags : former.tags ⊆ larger.tags
  extensions : larger.extensions = former.extensions
  types : larger.types = former.types
  groups : larger.groups = former.groups
  aggregates : larger.aggregates = former.aggregates
  summary? : ∀ name, Option.Rel Summary.LosesTokens (former.summary? name)
    (larger.summary? name)
  summaries : List.Forall₂ Summary.LosesTokens former.summaries
    larger.summaries

section Summaries

variable {former larger : Catalog}

theorem losesTokens_variantOf (htags : former.tags ⊆ larger.tags)
    (owner : String) (extension : Option String) (enumerant : Enumerant) :
    (former.variantOf owner extension enumerant).LosesTokens
      (larger.variantOf owner extension enumerant) where
  rawName := rfl
  name := Naming.losesAtEnd_variantName htags owner enumerant.name
  extension := rfl
  isAlias := rfl

theorem losesTokens_summarize (htags : former.tags ⊆ larger.tags)
    (haggregates : larger.aggregates = former.aggregates)
    (group : EnumGroup) :
    (former.summarize group).LosesTokens (larger.summarize group) where
  name := rfl
  kind := rfl
  typeName := rfl
  representative := by rw [Catalog.summarize, Catalog.summarize, haggregates]
  variants := by
    rw [Catalog.summarize, Catalog.summarize, haggregates]
    apply List.rel_append
    · apply forall₂_map
      exact losesTokens_variantOf htags group.name none
    · apply forall₂_map
      intro entry
      exact losesTokens_variantOf htags group.name _ entry.enumerant

theorem losesTokens_summary? (htags : former.tags ⊆ larger.tags)
    (hgroups : larger.groups = former.groups)
    (haggregates : larger.aggregates = former.aggregates) (name : String) :
    Option.Rel Summary.LosesTokens (former.summary? name)
      (larger.summary? name) := by
  rw [Catalog.summary?, Catalog.summary?, hgroups]
  cases former.groups.get? name with
  | none => exact Option.Rel.none
  | some group =>
      exact Option.Rel.some (losesTokens_summarize htags haggregates group)

theorem losesTokens_summaries (htags : former.tags ⊆ larger.tags)
    (hgroups : larger.groups = former.groups)
    (haggregates : larger.aggregates = former.aggregates) :
    List.Forall₂ Summary.LosesTokens former.summaries larger.summaries := by
  rw [Catalog.summaries, Catalog.summaries, hgroups]
  exact forall₂_map (losesTokens_summarize htags haggregates) _

end Summaries

/-- With further tags a variant loses up to two tokens at the end of its name
and none elsewhere.  So a registry with further sections of tags can be indexed
when the registry can, and its catalog differs in the tags and in what variants
lose at their ends. -/
theorem Catalog.exists_build_gainsTags :
    (∀ tags more : List String, tags ⊆ more → ∀ owner enumerant,
      Naming.LosesAtEnd (tokens enumerant)
        (Naming.variantName tags owner enumerant)
        (Naming.variantName more owner enumerant)) ∧
    ∀ (registry grown : Registry) (former : Catalog),
      Catalog.build registry = .ok former →
      AddsTags registry.sections grown.sections →
      ∃ larger, Catalog.build grown = .ok larger ∧
        Catalog.GainsTags former larger := by
  constructor
  · intro tags more hsubset owner enumerant
    exact Naming.losesAtEnd_variantName hsubset owner enumerant
  · intro registry grown former hbuild hadds
    have htags : former.tags ⊆ grown.sortedTags := by
      obtain ⟨-, -, htags, -⟩ := Catalog.build_eq_ok_iff.mp hbuild
      rw [htags]
      intro name hname
      rw [Registry.mem_sortedTags] at hname ⊢
      exact hadds.tagNames_subset hname
    refine ⟨_, hadds.build_eq hbuild, htags, rfl, rfl, rfl, rfl, ?_, ?_⟩
    · exact losesTokens_summary? htags rfl rfl
    · exact losesTokens_summaries htags rfl rfl

/-! ## A tag that exposes a flag -/

/-- A registry of two flags, one of them with a vendor behind it. -/
def flaggedRegistry (tags : List Section) : Registry :=
  ⟨tags ++ [.enums ⟨some "VkShapeFlagBits", some "bitmask",
    [⟨"VK_SHAPE_CUBE_BIT_NV", .bit 0 none⟩,
      ⟨"VK_SHAPE_BALL_BIT", .bit 1 none⟩]⟩]⟩

theorem addsTags_flagged :
    AddsTags (flaggedRegistry []).sections
      (flaggedRegistry [.tags [⟨"NV", "", ""⟩, ⟨"BIT", "", ""⟩]]).sections :=
  .added _ (.kept _ .none)

/-- The new tag takes a `BIT` with it, and a `BIT` that is a tag itself is lost
only once. -/
theorem Catalog.exists_build_gainsTags_flagged :
    ∃ former larger,
      Catalog.build (flaggedRegistry []) = .ok former ∧
      AddsTags (flaggedRegistry []).sections
        (flaggedRegistry
          [.tags [⟨"NV", "", ""⟩, ⟨"BIT", "", ""⟩]]).sections ∧
      Catalog.build (flaggedRegistry
        [.tags [⟨"NV", "", ""⟩, ⟨"BIT", "", ""⟩]]) = .ok larger ∧
      Catalog.GainsTags former larger ∧
      (former.summary? "VkShapeFlagBits").map
        (fun summary => summary.variants.map Variant.name) =
          some ["CUBE_BIT_NV", "BALL"] ∧
      (larger.summary? "VkShapeFlagBits").map
        (fun summary => summary.variants.map Variant.name) =
          some ["CUBE", "BALL"] ∧
      ([] : List String) ⊆ ["NV"] ∧
      Naming.LosesAtEnd ["VK", "SHAPE", "CUBE", "BIT", "NV"] "CUBE_BIT_NV"
        "CUBE" := by
  obtain ⟨hnames, hcatalogs⟩ := Catalog.exists_build_gainsTags
  obtain ⟨former, hformer⟩ : ∃ former,
      Catalog.build (flaggedRegistry []) = .ok former := ⟨_, rfl⟩
  obtain ⟨larger, hlarger, hgains⟩ :=
    hcatalogs _ _ former hformer addsTags_flagged
  have hname := hnames [] ["NV"] (List.nil_subset _) "VkShapeFlagBits"
    "VK_SHAPE_CUBE_BIT_NV"
  refine ⟨former, larger, hformer, addsTags_flagged, hlarger, hgains,
    ?_, ?_, List.nil_subset _, ?_⟩
  · cases hformer
    decide +kernel
  · cases hlarger
    decide +kernel
  · have htokens : tokens "VK_SHAPE_CUBE_BIT_NV" =
        ["VK", "SHAPE", "CUBE", "BIT", "NV"] := by
      decide +kernel
    have hlong : Naming.variantName [] "VkShapeFlagBits"
        "VK_SHAPE_CUBE_BIT_NV" = "CUBE_BIT_NV" := by
      decide +kernel
    have hshort : Naming.variantName ["NV"] "VkShapeFlagBits"
        "VK_SHAPE_CUBE_BIT_NV" = "CUBE" := by
      decide +kernel
    rwa [htokens, hlong, hshort] at hname

end VulkanRegistry
