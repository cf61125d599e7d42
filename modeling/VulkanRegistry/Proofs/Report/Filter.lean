import VulkanRegistry.Proofs.Text.LowerCase
import VulkanRegistry.Report.Summary

/-!
# What a filter hides

A filter compares the lower-case forms of its text and of the names.  So it also
keeps the names that hold its text in other letters, and it should hide no name
that holds the text as it is.  It does where the text has an open sigma: `Σ`
hides the name `VkΣ`, in whose lower-case form `vkς` there is no `σ`.
-/

namespace VulkanRegistry.Summary

open Text

variable {summary : Summary} {summaries : List Summary}

/-- Whether the name of a group contains a text as it is. -/
def holdsVerbatim (text : String) (summary : Summary) : Bool :=
  occursIn text.toList summary.name.toList

/-- Whether the name of a group contains a text, letter case aside. -/
def holds (text : String) (summary : Summary) : Bool :=
  occursIn (lower text).toList (lower summary.name).toList

theorem holdsVerbatim_iff {text : String} :
    holdsVerbatim text summary = true ↔
      text.toList <:+: summary.name.toList :=
  occursIn_iff

theorem holds_iff {text : String} :
    holds text summary = true ↔
      (lower text).toList <:+: (lower summary.name).toList :=
  occursIn_iff

/-- The empty text needs no case of its own. -/
theorem filter_eq (text : String) (summaries : List Summary) :
    filter text summaries = summaries.filter (holds text) := by
  rw [filter]
  split
  · rename_i hempty
    have htext : text = "" := String.isEmpty_iff.mp hempty
    symm
    rw [List.filter_eq_self]
    intro summary _
    rw [holds_iff, htext]
    exact List.nil_infix
  · rfl

/-- A text that, as a filter, hides no group whose name contains it and none
that a filter of which it is a part keeps. -/
structure NeverHides (text : String) : Prop where
  verbatim : ∀ summaries,
    (filter text summaries).filter (holdsVerbatim text) =
      summaries.filter (holdsVerbatim text)
  part : ∀ whole : String, text.toList <:+: whole.toList → ∀ summaries,
    (filter whole summaries).Sublist (filter text summaries)

theorem neverHides_of_keepsForm {text : String} (h : KeepsForm text) :
    NeverHides text := by
  constructor
  · intro summaries
    rw [filter_eq, List.filter_filter]
    apply List.filter_congr
    intro summary _
    rw [Bool.and_eq_left_iff_imp, holdsVerbatim_iff, holds_iff]
    exact h summary.name
  · intro whole hpart summaries
    rw [filter_eq, filter_eq]
    apply List.monotone_filter_right
    intro summary hholds
    rw [holds_iff] at hholds ⊢
    exact (h whole hpart).trans hholds

/-- A group with a given name and nothing else. -/
def named (name : String) : Summary :=
  { name := name
    kind := .enumeration
    typeName := name
    variants := []
    representative := none }

theorem keepsForm_of_neverHides {text : String} (h : NeverHides text) :
    KeepsForm text := by
  intro name hinside
  have hverbatim : holdsVerbatim text (named name) = true :=
    holdsVerbatim_iff.mpr hinside
  have hkept : named name ∈
      (filter text [named name]).filter (holdsVerbatim text) := by
    rw [h.verbatim, List.filter_cons_of_pos hverbatim]
    exact List.mem_cons_self
  rw [filter_eq] at hkept
  have hholds := (List.mem_filter.mp (List.mem_of_mem_filter hkept)).2
  rw [holds_iff] at hholds
  exact hholds

/-- A filter hides no group whose name contains its text, and none that a
longer filter keeps, exactly when its text has no open sigma. -/
theorem neverHides_iff_isSettled (text : String) :
    NeverHides text ↔ IsSettled text.toList := by
  rw [← keepsForm_iff]
  exact ⟨keepsForm_of_neverHides, neverHides_of_keepsForm⟩

theorem not_neverHides_sigma :
    holdsVerbatim "\u03A3" (named "Vk\u03A3") = true ∧
      filter "\u03A3" [named "Vk\u03A3"] = [] ∧ ¬ NeverHides "\u03A3" := by
  have hholds : holdsVerbatim "\u03A3" (named "Vk\u03A3") = true := by
    decide +kernel
  have hhidden : filter "\u03A3" [named "Vk\u03A3"] = [] := by
    decide +kernel
  refine ⟨hholds, hhidden, ?_⟩
  intro h
  have hverbatim := h.verbatim [named "Vk\u03A3"]
  rw [hhidden, List.filter_cons_of_pos hholds] at hverbatim
  cases hverbatim

end VulkanRegistry.Summary
