import VulkanRegistry.Proofs.Catalog.Partition
import VulkanRegistry.Proofs.Report.DetailText
import VulkanRegistry.Proofs.Report.DocumentSummary
import VulkanRegistry.Proofs.Report.TableText
import VulkanRegistry.Proofs.Text.Column

/-!
# Who contributes to a group

A summary tells in three places whether extensions contribute to its group: it
lists their variants, it has a representative extension, and it counts.  These
always agree, and the representative is the least of the contributors, the first
one in the list.

What a report shows of it is the name of the representative, and a name need not
show.  A detail has the word `none` for an empty name as it has for a group that
nothing contributes to, and a table drops blanks at the end of a row.
-/

namespace VulkanRegistry

open Markup (Element)
open Text

/-! ## Summaries -/

namespace Summary

/-- The extensions of the variants that have one. -/
def contributors (summary : Summary) : List String :=
  summary.variants.filterMap Variant.extension

/-- The representative extension of a summary is the first and the least of its
contributors, and it has one unless it counts none. -/
structure Represents (summary : Summary) : Prop where
  absent : summary.representative = none ↔ summary.extensionCount = 0
  first : summary.representative = summary.contributors.head?
  least : ∀ representative ∈ summary.representative,
    ∀ extension ∈ summary.contributors, representative ≤ extension

theorem length_contributors (summary : Summary) :
    summary.contributors.length = summary.extensionCount := by
  have hparts := List.length_eq_countP_add_countP
    (fun variant : Variant => variant.extension.isNone) (l := summary.variants)
  have hsome : summary.contributors.length = summary.variants.countP
      fun variant => ¬variant.extension.isNone = true := by
    rw [contributors, List.length_filterMap_eq_countP]
    apply List.countP_congr
    intro variant _
    rw [decide_eq_true_iff, Bool.not_eq_true, Option.isNone_eq_false_iff]
  rw [extensionCount, baseCount]
  omega

theorem represents_of_pairwise {summary : Summary}
    (hfirst : summary.representative = summary.contributors.head?)
    (hordered : summary.contributors.Pairwise (· ≤ ·)) :
    Represents summary := by
  refine ⟨?_, hfirst, ?_⟩
  · rw [hfirst, List.head?_eq_none_iff, ← List.length_eq_zero_iff,
      length_contributors]
  · intro representative hrepresentative extension hextension
    rw [hfirst] at hrepresentative
    obtain ⟨rest, hcontributors⟩ := List.head?_eq_some_iff.mp hrepresentative
    rw [hcontributors] at hordered hextension
    rcases List.mem_cons.mp hextension with rfl | hrest
    · exact String.le_refl _
    · exact List.rel_of_pairwise_cons hordered hrest

end Summary

theorem Catalog.contributors_summarize {registry : Registry}
    {catalog : Catalog} (hbuild : Catalog.build registry = .ok catalog)
    (group : EnumGroup) :
    (catalog.summarize group).contributors =
      (Aggregate.contributionsTo group.name
        registry.extensionIndex.entries).map Contribution.extension := by
  have hown : ∀ enumerant,
      (catalog.variantOf group.name none enumerant).extension = none :=
    fun _ => rfl
  have hcontributed : ∀ entry : Contribution,
      (catalog.variantOf group.name (some entry.extension)
        entry.enumerant).extension = some entry.extension :=
    fun _ => rfl
  rw [Summary.contributors, variants_summarize hbuild, List.filterMap_append,
    List.filterMap_map, List.filterMap_map]
  simp [hown, hcontributed]

theorem Catalog.represents_summarize {registry : Registry}
    {catalog : Catalog} (hbuild : Catalog.build registry = .ok catalog)
    (group : EnumGroup) : (catalog.summarize group).Represents := by
  have hcontributors := contributors_summarize hbuild group
  apply Summary.represents_of_pairwise
  · rw [hcontributors, representative_summarize hbuild, List.head?_map]
  · rw [hcontributors, List.pairwise_map, ← Aggregate.filter_contributions]
    apply List.Pairwise.filter
    exact Aggregate.pairwise_contributions registry.extensionIndex.ascending

/-! ## Details -/

namespace Detail

/-- The lines of a detail before the one on contributors. -/
def titleLines (summary : Summary) : List (List Char) :=
  [summary.name.toList ++ kindText summary.kind,
    "  Type name:   ".toList ++ summary.typeName.toList]

/-- The line of a detail on contributors says that there are none. -/
def SaysNone (summary : Summary) : Prop :=
  ∃ rest, linesOf (render summary).toList =
    linesOf (['\n'].intercalate (titleLines summary)) ++
      "  Extended by: none".toList :: rest

/-- The lines of a detail after the one on contributors. -/
def laterLines (summary : Summary) : List (List Char) :=
  (headLines summary).drop 3 ++ rowLines summary ++ [[]]

theorem linesOf_render (summary : Summary) :
    linesOf (render summary).toList =
      linesOf (['\n'].intercalate (titleLines summary)) ++
        (linesOf ("  Extended by: ".toList ++ (extendedBy summary).toList) ++
          linesOf (['\n'].intercalate (laterLines summary))) := by
  have hlines : headLines summary ++ rowLines summary ++ [[]] =
      titleLines summary ++ (["  Extended by: ".toList ++
        (extendedBy summary).toList] ++ laterLines summary) := rfl
  rw [toList_render, hlines, linesOf_intercalate_append,
    linesOf_intercalate_append, List.intercalate_singleton]
  all_goals simp [titleLines, laterLines]

theorem saysNone_iff {summary : Summary} :
    SaysNone summary ↔
      firstLine (extendedBy summary).toList = "none".toList := by
  have hlabel : '\n' ∉ "  Extended by: ".toList := by decide
  have hnonempty :
      linesOf ("  Extended by: ".toList ++ (extendedBy summary).toList) ≠ [] :=
    fieldsBy_ne_nil _ _
  have hline : "  Extended by: none".toList =
      "  Extended by: ".toList ++ "none".toList := rfl
  rw [SaysNone, linesOf_render]
  simp only [List.append_cancel_left_eq]
  rw [← List.head?_eq_some_iff, List.head?_append_of_ne_nil _ hnonempty,
    head?_linesOf, Option.some_inj, firstLine_append hlabel, hline,
    List.append_cancel_left_eq]

theorem extendedBy_of_empty {summary : Summary}
    (h : summary.representative = some "") : extendedBy summary = "none" := by
  rw [extendedBy, h]
  rfl

end Detail

/-! ## Rows of tables -/

namespace Table

/-- The row of a group ends behind its counts. -/
def EndsAfterCounts (widths : Widths) (summary : Summary) : Prop :=
  (row widths summary).toList = rowText (Gaps.of widths summary) summary []

theorem endsAfterCounts_iff {widths : Widths} {summary : Summary} :
    EndsAfterCounts widths summary ↔
      ∀ extension ∈ summary.representative, ∀ c ∈ extension.toList,
        isBlank c = true := by
  have hspace : isBlank ' ' = true := by decide
  rw [EndsAfterCounts, toList_row_eq,
    ← rowText_append _ _ (List.rdropWhile _ _), List.append_right_eq_self,
    List.rdropWhile_eq_nil_iff, representativeText]
  rcases summary.representative with _ | extension
  · simp
  · simp [hspace]

end Table

/-! ## Both reports -/

/-- A name that can be seen at the end of a row, and whose first line is not the
word that stands for no name. -/
structure IsShown (name : String) : Prop where
  visible : ∃ c ∈ name.toList, isBlank c = false
  telling : firstLine name.toList ≠ "none".toList

/-- A summary and the reports on it agree on who contributes to its group: a
detail says that there are none only if there are none, and rows of tables end
behind the counts exactly then. -/
structure Summary.ReportsAgree (summary : Summary) : Prop
    extends Summary.Represents summary where
  detail : Detail.SaysNone summary → summary.extensionCount = 0
  table : ∀ widths,
    Table.EndsAfterCounts widths summary ↔ summary.extensionCount = 0

namespace Summary

variable {summary : Summary}

theorem isShown_of_reportsAgree (h : ReportsAgree summary) {extension : String}
    (hextension : summary.representative = some extension) :
    IsShown extension := by
  have hcount : summary.extensionCount ≠ 0 := by
    intro hnone
    rw [h.absent.mpr hnone] at hextension
    cases hextension
  constructor
  · by_contra hhidden
    apply hcount
    rw [← h.table ⟨0, 0, 0⟩, Table.endsAfterCounts_iff]
    intro found hfound c hc
    obtain rfl := Option.some.inj (hfound.symm.trans hextension)
    by_contra hvisible
    exact hhidden ⟨c, hc, Bool.eq_false_iff.mpr hvisible⟩
  · intro hfirst
    apply hcount
    apply h.detail
    rw [Detail.saysNone_iff]
    by_cases hempty : extension = ""
    · rw [hempty] at hextension
      rw [Detail.extendedBy_of_empty hextension]
      decide
    · rwa [Detail.extendedBy_some hextension hempty]

theorem reportsAgree_of_isShown (h : Represents summary)
    (hshown : ∀ extension ∈ summary.representative, IsShown extension) :
    ReportsAgree summary := by
  refine ⟨h, ?_, ?_⟩
  · intro hnone
    rw [← h.absent]
    rcases hextension : summary.representative with _ | extension
    · rfl
    · obtain ⟨⟨c, hc, -⟩, htelling⟩ := hshown extension hextension
      have hnonempty : extension ≠ "" := by
        rintro rfl
        cases hc
      rw [Detail.saysNone_iff, Detail.extendedBy_some hextension hnonempty]
        at hnone
      exact absurd hnone htelling
  · intro widths
    rw [Table.endsAfterCounts_iff, ← h.absent]
    constructor
    · intro hblank
      rcases hextension : summary.representative with _ | extension
      · rfl
      · obtain ⟨c, hc, hvisible⟩ := (hshown extension hextension).visible
        rw [hblank extension hextension c hc] at hvisible
        cases hvisible
    · intro hnone
      simp [hnone]

end Summary

/-- Reports on the groups of a catalog agree with its aggregates in what
summaries tell.  The texts of the reports agree with them exactly when the
representative extension, if any, has a name that shows. -/
theorem Catalog.reportsAgree_iff_isShown {registry : Registry}
    {catalog : Catalog} (hbuild : Catalog.build registry = .ok catalog)
    {name : String} {summary : Summary}
    (hsummary : catalog.summary? name = some summary) :
    summary.Represents ∧
      (summary.ReportsAgree ↔
        ∀ extension ∈ summary.representative, IsShown extension) := by
  obtain ⟨group, -, rfl⟩ := Option.map_eq_some_iff.mp hsummary
  have hrepresents := Catalog.represents_summarize hbuild group
  refine ⟨hrepresents, ?_, ?_⟩
  · intro hagree extension hextension
    exact Summary.isShown_of_reportsAgree hagree hextension
  · exact Summary.reportsAgree_of_isShown hrepresents

/-- The summary of the group that `shapeDocument` declares. -/
def shapeSummary : Summary :=
  ⟨"VkShape", .enumeration, "Shape",
    [⟨"VK_SHAPE_CUBE", "CUBE", none, false⟩,
      ⟨"VK_SHAPE_BOX", "BOX", some "VK_A", true⟩,
      ⟨"VK_SHAPE_CONE_EXT", "CONE", some "VK_B", false⟩], some "VK_A"⟩

theorem Catalog.reportsAgree_iff_isShown_shapes :
    ∃ registry catalog,
      Registry.ofElement shapeDocument = .ok registry ∧
        Catalog.build registry = .ok catalog ∧
        catalog.summary? "VkShape" = some shapeSummary ∧
        (∀ extension ∈ shapeSummary.representative, IsShown extension) ∧
        shapeSummary.ReportsAgree := by
  have hsummary : ∃ registry catalog,
      Registry.ofElement shapeDocument = .ok registry ∧
        Catalog.build registry = .ok catalog ∧
        catalog.summary? "VkShape" = some shapeSummary :=
    ⟨_, _, rfl, rfl, by decide +kernel⟩
  obtain ⟨registry, catalog, hread, hbuild, hsummary⟩ := hsummary
  have hshown : ∀ extension ∈ shapeSummary.representative,
      IsShown extension := by
    rintro extension ⟨⟩
    refine ⟨⟨'V', ?_, ?_⟩, ?_⟩ <;> decide
  refine ⟨registry, catalog, hread, hbuild, hsummary, hshown, ?_⟩
  exact (Catalog.reportsAgree_iff_isShown hbuild hsummary).2.mpr hshown

/-! ## An extension without a name -/

/-- A document in which an extension without a name adds to a group. -/
def namelessDocument : Element :=
  .mk "registry" [] none
    [.mk "enums" [("name", "VkShape"), ("type", "enum")] none [],
      .mk "extensions" [] none
        [.mk "extension" [] none
          [.mk "require" [] none
            [.mk "enum" [("name", "VK_SHAPE_BALL"), ("value", "1"),
              ("extends", "VkShape")] none []]]]]

/-- The summary of the group that `namelessDocument` declares. -/
def namelessSummary : Summary :=
  ⟨"VkShape", .enumeration, "Shape",
    [⟨"VK_SHAPE_BALL", "BALL", some "", false⟩], some ""⟩

theorem Catalog.not_reportsAgree_namelessDocument :
    ∃ registry catalog,
      Registry.ofElement namelessDocument = .ok registry ∧
        Catalog.build registry = .ok catalog ∧
        catalog.summary? "VkShape" = some namelessSummary ∧
        namelessSummary.extensionCount = 1 ∧
        Detail.SaysNone namelessSummary ∧
        (∀ widths, Table.EndsAfterCounts widths namelessSummary) ∧
        ¬namelessSummary.ReportsAgree := by
  have hnone : Detail.SaysNone namelessSummary := by
    rw [Detail.saysNone_iff, Detail.extendedBy_of_empty rfl]
    decide
  have hrow : ∀ widths, Table.EndsAfterCounts widths namelessSummary := by
    intro widths
    rw [Table.endsAfterCounts_iff]
    rintro extension ⟨⟩ c hc
    cases hc
  refine ⟨_, _, rfl, rfl, by decide +kernel, rfl, hnone, hrow, ?_⟩
  intro hagree
  have hcount := hagree.detail hnone
  cases hcount

end VulkanRegistry
