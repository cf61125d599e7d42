import Mathlib.Data.List.Forall2
import VulkanRegistry.Proofs.Text.Word

/-!
# Cells at offsets

A cell stands at an offset of a line when the line has the whole cell from there
on, with a space in front of it and a space or the end of the line behind it.
Where each cell is padded to the width of its column, the next cell stands as
far behind it as the column is wide, whatever the cell itself is.

A report is a list of lines.  Its rows are the lines behind its head, which may
have line breaks of its own, and a row without line breaks is one line.
-/

namespace VulkanRegistry.Text

/-! ## Lines -/

/-- The lines of a report. -/
def linesOf (text : List Char) : List (List Char) :=
  fieldsBy (· == '\n') text

theorem intercalate_append {separator : List Char}
    {parts others : List (List Char)} (hparts : parts ≠ [])
    (hothers : others ≠ []) :
    separator.intercalate (parts ++ others) =
      separator.intercalate parts ++ separator ++
        separator.intercalate others := by
  induction parts with
  | nil => exact absurd rfl hparts
  | cons part rest ih =>
      rcases rest with _ | ⟨next, rest⟩
      · obtain ⟨other, more, rfl⟩ := List.exists_cons_of_ne_nil hothers
        rw [List.singleton_append, List.intercalate_cons_cons,
          List.intercalate_singleton]
      · have hrest := ih (List.cons_ne_nil next rest)
        rw [List.cons_append, List.cons_append, List.intercalate_cons_cons,
          ← List.cons_append, hrest, List.intercalate_cons_cons]
        simp only [List.append_assoc]

/-- Lines that are joined to others come after them. -/
theorem linesOf_intercalate_append {parts others : List (List Char)}
    (hparts : parts ≠ []) (hothers : others ≠ []) :
    linesOf (['\n'].intercalate (parts ++ others)) =
      linesOf (['\n'].intercalate parts) ++
        linesOf (['\n'].intercalate others) := by
  rw [intercalate_append hparts hothers, List.append_assoc,
    List.singleton_append, linesOf, fieldsBy_append_cons rfl]
  rfl

/-- Rows without line breaks are lines as they are. -/
theorem linesOf_intercalate {rows : List (List Char)} (hrows : rows ≠ [])
    (hlines : ∀ row ∈ rows, '\n' ∉ row) :
    linesOf (['\n'].intercalate rows) = rows := by
  apply fieldsBy_intercalate _ hrows
  · exact fun row hrow => beq_eq_false_of_not_mem (hlines row hrow)
  · rfl

/-- The first line of a text. -/
def firstLine (text : List Char) : List Char :=
  text.takeWhile (· != '\n')

theorem head?_linesOf (text : List Char) :
    (linesOf text).head? = some (firstLine text) := by
  induction text with
  | nil => rfl
  | cons c text ih =>
      obtain ⟨rest, hrest⟩ := List.head?_eq_some_iff.mp ih
      rw [linesOf, fieldsBy, firstLine, List.takeWhile_cons]
      by_cases hbreak : c = '\n'
      · simp [hbreak]
      · rw [linesOf] at hrest
        simp [hbreak, hrest, consField, firstLine]

theorem firstLine_append {front : List Char} (hfront : '\n' ∉ front)
    (text : List Char) :
    firstLine (front ++ text) = front ++ firstLine text := by
  apply List.takeWhile_append_of_pos
  intro c hc
  rw [bne_iff_ne]
  rintro rfl
  exact hfront hc

/-- A report whose lines behind its head are one row for each item, as given,
and an empty line. -/
def HasRows {α : Type} (isRow : α → List Char → Prop) (report : String)
    (head : List (List Char)) (items : List α) : Prop :=
  ∃ rows, linesOf report.toList =
      linesOf (['\n'].intercalate head) ++ rows ++ [[]] ∧
    List.Forall₂ isRow items rows

/-- The rows behind the head are the given lines if no line breaks in two. -/
theorem hasRows_iff {α : Type} {isRow : α → List Char → Prop}
    {report : String} {head : List (List Char)} {items : List α}
    {rowOf : α → List Char} (hhead : head ≠ [])
    (hreport : report.toList =
      ['\n'].intercalate (head ++ items.map rowOf ++ [[]]))
    (hline : ∀ item ∈ items, '\n' ∉ rowOf item) :
    HasRows isRow report head items ↔
      ∀ item ∈ items, isRow item (rowOf item) := by
  have hlines : linesOf report.toList =
      linesOf (['\n'].intercalate head) ++ items.map rowOf ++ [[]] := by
    have hrest : items.map rowOf ++ [[]] ≠ [] := by simp
    rw [hreport, List.append_assoc, linesOf_intercalate_append hhead hrest,
      linesOf_intercalate hrest, List.append_assoc]
    intro line hmem
    rw [List.mem_append, List.mem_map, List.mem_singleton] at hmem
    rcases hmem with ⟨item, hitem, rfl⟩ | rfl
    · exact hline item hitem
    · simp
  have hrows : List.Forall₂ isRow items (items.map rowOf) ↔
      ∀ item ∈ items, isRow item (rowOf item) := by
    rw [List.forall₂_map_right_iff, List.forall₂_same]
  rw [← hrows]
  constructor
  · rintro ⟨rows, hread, hisRow⟩
    rw [hlines] at hread
    have hsame := List.append_cancel_left (List.append_cancel_right hread)
    rwa [hsame]
  · exact fun hisRow => ⟨_, hlines, hisRow⟩

/-! ## Cells -/

/-- A line has a given text from an offset on, behind a space. -/
def Continues (line : List Char) (offset : Nat) (rest : List Char) : Prop :=
  ∃ before, line = before ++ rest ∧ before.length = offset ∧
    before.getLast? = some ' '

/-- A line has a cell at an offset, between spaces or before its end. -/
def StandsAt (line : List Char) (offset : Nat) (cell : String) : Prop :=
  ∃ rest, Continues line offset (cell.toList ++ rest) ∧
    ∀ c ∈ rest.head?, c = ' '

theorem continues_spaces (n : Nat) {line rest : List Char}
    (h : line = List.replicate (n + 1) ' ' ++ rest) :
    Continues line (n + 1) rest := by
  refine ⟨_, h, List.length_replicate, ?_⟩
  rw [List.getLast?_replicate, if_neg (Nat.succ_ne_zero n)]

/-- A cell with a space behind it stands where a line goes on with it. -/
theorem Continues.standsAt {line rest : List Char} {offset n : Nat}
    {cell : String} (h : Continues line offset
      (cell.toList ++ (List.replicate (n + 1) ' ' ++ rest))) :
    StandsAt line offset cell := by
  refine ⟨_, h, ?_⟩
  rw [List.replicate_succ, List.cons_append, List.head?_cons]
  rintro c ⟨⟩
  rfl

/-- A cell stands where a line goes on with it and with what is left of a text
that begins with a space. -/
theorem Continues.standsAt_trimmed {line rest : List Char} {offset : Nat}
    {cell : String} (hrest : ∀ c ∈ rest.head?, c = ' ')
    (h : Continues line offset (cell.toList ++ rest.rdropWhile isBlank)) :
    StandsAt line offset cell := by
  refine ⟨_, h, ?_⟩
  intro c hc
  apply hrest
  obtain ⟨front, hfront⟩ := List.head?_eq_some_iff.mp hc
  obtain ⟨blanks, hblanks⟩ := List.rdropWhile_prefix isBlank rest
  rw [← hblanks, hfront]
  rfl

/-- Behind a cell and its padding a line goes on at the end of the column. -/
theorem Continues.next {line rest : List Char} {offset width n : Nat}
    {cell : String} (hfits : cell.length ≤ width)
    (h : Continues line offset (cell.toList ++
      (List.replicate (width - cell.length + (n + 1)) ' ' ++ rest))) :
    Continues line (offset + width + (n + 1)) rest := by
  obtain ⟨before, rfl, rfl, -⟩ := h
  refine ⟨before ++ (cell.toList ++
    List.replicate (width - cell.length + (n + 1)) ' '), ?_, ?_, ?_⟩
  · simp only [List.append_assoc]
  · simp only [List.length_append, List.length_replicate,
      String.length_toList]
    omega
  · rw [← List.append_assoc, List.getLast?_append, List.getLast?_replicate,
      if_neg (by omega)]
    rfl

theorem length_le_widest {texts : List String} {text : String}
    (h : text ∈ texts) : text.length ≤ widest texts := by
  rw [widest, List.foldl_max]
  have hlength : text.length ∈ texts.map String.length :=
    List.mem_map_of_mem h
  exact (List.le_max?_getD_of_mem hlength).trans (Nat.le_max_right _ _)

end VulkanRegistry.Text
