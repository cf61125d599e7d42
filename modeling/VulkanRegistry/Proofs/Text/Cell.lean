import Mathlib.Data.List.DropRight
import Mathlib.Data.List.Infix
import VulkanRegistry.Proofs.Text.Token
import VulkanRegistry.Text.Blank
import VulkanRegistry.Text.Layout

/-!
# Cells and gaps

A cell is a text in which blanks occur only as single spaces between other
characters.  Two spaces in a row therefore end a cell wherever they stand, and
how many there are beyond two does not matter: a line of cells with gaps between
them can be read back without its column widths.
-/

namespace VulkanRegistry.Text

/-! ## Trimmed and padded texts -/

theorem toList_trimEnd_eq (text : String) :
    (trimEnd text).toList = text.toList.rdropWhile isBlank := by
  rw [trimEnd, String.toList_ofList, List.rdropWhile]

/-- What is in front of a text stays in front of what is left of it. -/
theorem rdropWhile_isSuffix_append (front text : List Char) :
    text.rdropWhile isBlank <:+ (front ++ text).rdropWhile isBlank := by
  rw [List.rdropWhile, List.rdropWhile, List.reverse_append,
    List.dropWhile_append, List.reverse_suffix]
  split
  · rename_i hempty
    rw [List.isEmpty_iff.mp hempty]
    exact List.nil_prefix
  · exact List.prefix_append _ _

/-- A text that does not end in a blank is left as it is. -/
theorem rdropWhile_isBlank_eq_self {text : List Char}
    (h : ∀ c ∈ text.getLast?, isBlank c = false) :
    text.rdropWhile isBlank = text := by
  rw [List.rdropWhile_eq_self_iff]
  intro hnonempty
  rw [h _ (List.getLast_mem_getLast? hnonempty)]
  simp

/-- Behind a character that is not blank, only what follows it is trimmed. -/
theorem rdropWhile_append_of_getLast? {kept : List Char}
    (hkept : ∀ c ∈ kept.getLast?, isBlank c = false) (rest : List Char) :
    (kept ++ rest).rdropWhile isBlank = kept ++ rest.rdropWhile isBlank := by
  rw [List.rdropWhile, List.reverse_append, List.dropWhile_append]
  split
  · rename_i hempty
    have hblanks : rest.rdropWhile isBlank = [] :=
      List.reverse_eq_nil_iff.mpr (List.isEmpty_iff.mp hempty)
    rw [hblanks, List.append_nil]
    exact rdropWhile_isBlank_eq_self hkept
  · rw [List.reverse_append, List.reverse_reverse]
    rfl

theorem toList_trimEnd_append {text : String} {kept rest : List Char}
    (htext : text.toList = kept ++ rest)
    (hkept : ∀ c ∈ kept.getLast?, isBlank c = false) :
    (trimEnd text).toList = kept ++ rest.rdropWhile isBlank := by
  rw [toList_trimEnd_eq, htext, rdropWhile_append_of_getLast? hkept]

theorem toList_trimEnd {text : String} {kept blanks : List Char}
    (htext : text.toList = kept ++ blanks)
    (hblanks : ∀ c ∈ blanks, isBlank c = true)
    (hkept : ∀ c ∈ kept.getLast?, isBlank c = false) :
    (trimEnd text).toList = kept := by
  rw [toList_trimEnd_append htext hkept, List.rdropWhile_eq_nil_iff.mpr hblanks,
    List.append_nil]

theorem toList_padEnd (width : Nat) (text : String) :
    (padEnd width text).toList =
      text.toList ++ List.replicate (width - text.length) ' ' := by
  rw [padEnd, String.toList_append, String.toList_ofList]

/-! ## Numbers -/

theorem toList_toString (n : Nat) : (toString n).toList = Nat.toDigits 10 n :=
  String.toList_ofList

theorem not_mem_toString {c : Char} (hc : c.isDigit = false) (n : Nat) :
    c ∉ (toString n).toList := by
  rw [toList_toString]
  intro hmem
  have hdigit := Nat.isDigit_of_mem_toDigits (by decide) (by decide) hmem
  rw [hc] at hdigit
  cases hdigit

theorem head?_toString_append (n : Nat) (rest : List Char) :
    ((toString n).toList ++ rest).head? ≠ some ' ' := by
  have hnonempty : (toString n).toList ≠ [] := by
    rw [toList_toString]
    exact Nat.toDigits_ne_nil
  rw [List.head?_append_of_ne_nil _ hnonempty]
  intro hhead
  exact not_mem_toString (by decide) n (List.mem_of_head? hhead)

/-- A number ends before the first space. -/
theorem toString_append_space_inj {m n : Nat} {rest others : List Char}
    (h : (toString m).toList ++ ' ' :: rest =
      (toString n).toList ++ ' ' :: others) : m = n ∧ rest = others := by
  obtain ⟨hnumber, hrest⟩ := append_separator_inj
    (not_mem_toString (by decide) m) (not_mem_toString (by decide) n) h
  rw [toList_toString, toList_toString] at hnumber
  have hread : ∀ k, Nat.ofDigitChars 10 (Nat.toDigits 10 k) 0 = k :=
    fun _ => Nat.ofDigitChars_toDigits (by decide) (by decide)
  refine ⟨?_, hrest⟩
  rw [← hread m, hnumber, hread n]

/-! ## Cells -/

/-- A text that is not empty and in which blanks occur only as single spaces
between other characters. -/
structure IsCell (text : String) : Prop where
  nonempty : text ≠ ""
  blank : ∀ c ∈ text.toList, isBlank c = true → c = ' '
  head : text.toList.head? ≠ some ' '
  last : text.toList.getLast? ≠ some ' '
  single : ¬[' ', ' '] <:+: text.toList

instance : DecidablePred IsCell := fun text =>
  letI := List.decidableBAll (fun c => isBlank c = true → c = ' ') text.toList
  decidable_of_iff
    (text ≠ "" ∧ (∀ c ∈ text.toList, isBlank c = true → c = ' ') ∧
      text.toList.head? ≠ some ' ' ∧ text.toList.getLast? ≠ some ' ' ∧
      ¬[' ', ' '] <:+: text.toList)
    ⟨fun ⟨hnonempty, hblank, hhead, hlast, hsingle⟩ =>
        ⟨hnonempty, hblank, hhead, hlast, hsingle⟩,
      fun h => ⟨h.nonempty, h.blank, h.head, h.last, h.single⟩⟩

/-- The spaces between two cells, `more` of them beyond two. -/
def gap (more : Nat) : List Char :=
  List.replicate (more + 2) ' '

theorem gap_eq (more : Nat) :
    gap more = List.replicate more ' ' ++ "  ".toList :=
  (List.replicate_append_replicate (n := more) (m := 2)).symm

theorem newline_not_mem_spaces (n : Nat) : '\n' ∉ List.replicate n ' ' := by
  intro hmem
  have hspace := List.eq_of_mem_replicate hmem
  cases hspace

theorem isBlank_of_mem_spaces {n : Nat} {c : Char}
    (hc : c ∈ List.replicate n ' ') : isBlank c = true := by
  rw [List.eq_of_mem_replicate hc]
  decide

/-- Spaces in front do not matter where something else follows them. -/
theorem spaces_append_inj {m n : Nat} {rest others : List Char}
    (hrest : rest.head? ≠ some ' ') (hothers : others.head? ≠ some ' ')
    (h : List.replicate m ' ' ++ rest = List.replicate n ' ' ++ others) :
    rest = others := by
  have hread : ∀ (k : Nat) (text : List Char), text.head? ≠ some ' ' →
      (List.replicate k ' ' ++ text).dropWhile (· == ' ') = text := by
    intro k text htext
    rw [List.dropWhile_append_of_pos (by simp)]
    cases text with
    | nil => rfl
    | cons c text =>
        rw [List.dropWhile_cons_of_neg]
        simpa using htext
  rw [← hread m rest hrest, h, hread n others hothers]

namespace IsCell

variable {text other : String}

theorem newline_not_mem (h : IsCell text) : '\n' ∉ text.toList := by
  intro hmem
  have hspace := h.blank '\n' hmem (by decide)
  cases hspace

theorem isBlank_getLast? (h : IsCell text) :
    ∀ c ∈ text.toList.getLast?, isBlank c = false := by
  intro c hc
  rw [Bool.eq_false_iff]
  intro hblank
  rw [h.blank c (List.mem_of_getLast? hc) hblank] at hc
  exact h.last hc

theorem head?_append (h : IsCell text) (rest : List Char) :
    (text.toList ++ rest).head? ≠ some ' ' := by
  have hnonempty := mt String.toList_eq_nil_iff.mp h.nonempty
  rw [List.head?_append_of_ne_nil _ hnonempty]
  exact h.head

/-- What is longer than a text by a part that a gap begins with is no cell. -/
theorem eq_nil_of_gap (h : IsCell text) {front part rest others : List Char}
    (htext : text.toList = front ++ part)
    (hpart : ' ' :: ' ' :: rest = part ++ others) : part = [] := by
  match part, hpart with
  | [], _ => rfl
  | [c], hpart =>
      obtain ⟨rfl, -⟩ := List.cons.inj hpart
      refine absurd ?_ h.last
      rw [htext, List.getLast?_concat]
  | c :: d :: part, hpart =>
      obtain ⟨rfl, htail⟩ := List.cons.inj hpart
      obtain ⟨rfl, -⟩ := List.cons.inj htail
      refine absurd ?_ h.single
      rw [htext]
      exact ⟨front, part, by simp⟩

/-- A cell ends at the first gap, however wide the gap is. -/
theorem append_gap_inj (h : IsCell text) (hother : IsCell other) {m n : Nat}
    {rest others : List Char} (hrest : rest.head? ≠ some ' ')
    (hothers : others.head? ≠ some ' ')
    (hequal : text.toList ++ (gap m ++ rest) =
      other.toList ++ (gap n ++ others)) : text = other ∧ rest = others := by
  have hsame : text.toList = other.toList := by
    rcases List.append_eq_append_iff.mp hequal with
      ⟨part, hpart, hgap⟩ | ⟨part, hpart, hgap⟩
    · rw [hpart, hother.eq_nil_of_gap hpart hgap, List.append_nil]
    · rw [hpart, h.eq_nil_of_gap hpart hgap, List.append_nil]
  rw [hsame] at hequal
  exact ⟨String.toList_injective hsame,
    spaces_append_inj hrest hothers (List.append_cancel_left hequal)⟩

end IsCell

end VulkanRegistry.Text
