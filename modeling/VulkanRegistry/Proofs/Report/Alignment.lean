import VulkanRegistry.Proofs.Report.DetailText
import VulkanRegistry.Proofs.Report.TableText
import VulkanRegistry.Proofs.Text.Column

/-!
# Columns of the reports

Every cell of a column stands at the same offset of its row, which only the
widest cells of the columns before it decide, and every row has its cells in
full and ends in no blank.  Two things set limits to this.  A count of five
digits does not fit in its column.  And a row cannot both end in no blank and
have a representative extension in full that ends in one: the blanks at the end
of the extension are dropped.
-/

namespace VulkanRegistry

open Text

/-! ## Tables -/

namespace Table

/-- Where the kinds of groups stand. -/
def kindOffset (widths : Widths) : Nat :=
  2 + widths.name + 2

/-- Where the names of types stand. -/
def typeNameOffset (widths : Widths) : Nat :=
  kindOffset widths + widths.kind + 2

/-- Where the numbers of values stand. -/
def valuesOffset (widths : Widths) : Nat :=
  typeNameOffset widths + widths.typeName + 2

/-- Where the numbers of contributed values stand. -/
def extensionsOffset (widths : Widths) : Nat :=
  valuesOffset widths + 11 + 1

/-- A row with its cells at the offsets of their columns, and with the
representative extension in a given form. -/
structure IsAligned (form : String → String) (widths : Widths)
    (summary : Summary) (line : List Char) : Prop where
  name : StandsAt line 2 summary.name
  kind : StandsAt line (kindOffset widths) summary.kind.label
  typeName : StandsAt line (typeNameOffset widths) summary.typeName
  values : StandsAt line (valuesOffset widths) s!"{summary.baseCount} values"
  extensions :
    StandsAt line (extensionsOffset widths) s!"+{summary.extensionCount} ext"
  representative : ∀ extension ∈ summary.representative,
    (form extension).toList <:+: line
  trimmed : ∀ c ∈ line.getLast?, isBlank c = false

/-- A table with an aligned row for each group. -/
def RowsAligned (form : String → String) (summaries : List Summary)
    (source : String) : Prop :=
  HasRows (IsAligned form (Widths.of summaries)) (render summaries source)
    [headerText summaries.length source, []] summaries

section Rows

variable {summary : Summary} {summaries : List Summary}

theorem countsText_eq (more : Nat) (summary : Summary) (ending : List Char) :
    countsText more summary ending =
      (s!"{summary.baseCount} values").toList ++
        (List.replicate (more + 1) ' ' ++
          ((s!"+{summary.extensionCount} ext").toList ++ ending)) := by
  simp only [countsText, String.toList_append, List.append_assoc]
  rfl

theorem length_values_le (h : summary.baseCount ≤ 9999) :
    (s!"{summary.baseCount} values").length ≤ 11 := by
  have hdigits : (toString summary.baseCount).toList.length ≤ 4 := by
    rw [toList_toString, Nat.length_toDigits_le_iff (by decide) (by decide)]
    omega
  have hlength : (s!"{summary.baseCount} values").length =
      (toString summary.baseCount).toList.length + " values".length := by
    rw [← String.length_toList, String.toList_append, List.length_append]
    rfl
  have hvalues : " values".length = 7 := by decide
  omega

theorem head?_representativeText (summary : Summary) :
    ∀ c ∈ (representativeText summary).head?, c = ' ' := by
  rw [representativeText]
  split
  · simp
  · rintro c ⟨⟩
    rfl

/-- A row has the representative extension without the blanks at its end. -/
theorem isInfix_row_of_representative {extension : String}
    (h : summary.representative = some extension) (widths : Widths) :
    (trimEnd extension).toList <:+: (row widths summary).toList := by
  have hending : (representativeText summary) =
      [' ', ' '] ++ extension.toList := by
    rw [representativeText, h]
  rw [toList_row_eq, ← rowText_append, hending, toList_trimEnd_eq]
  have hsuffix := rdropWhile_isSuffix_append [' ', ' '] extension.toList
  exact hsuffix.isInfix.trans (List.suffix_append _ _).isInfix

theorem isBlank_getLast?_row (widths : Widths) (summary : Summary) :
    ∀ c ∈ (row widths summary).toList.getLast?, isBlank c = false := by
  rw [row]
  split
  · exact isBlank_getLast?_trimEnd _
  · exact isBlank_getLast?_trimEnd _

theorem isAligned_row (hmem : summary ∈ summaries)
    (hcount : summary.baseCount ≤ 9999) :
    IsAligned trimEnd (Widths.of summaries) summary
      (row (Widths.of summaries) summary).toList := by
  have hname : summary.name.length ≤ (Widths.of summaries).name :=
    length_le_widest (List.mem_map_of_mem hmem)
  have hkind : summary.kind.label.length ≤ (Widths.of summaries).kind :=
    length_le_widest (List.mem_map.mpr ⟨summary, hmem, rfl⟩)
  have htypeName : summary.typeName.length ≤ (Widths.of summaries).typeName :=
    length_le_widest (List.mem_map_of_mem hmem)
  have hvalues := length_values_le hcount
  generalize Widths.of summaries = widths at *
  have hrow := toList_row_eq widths summary
  rw [rowText, countsText_eq] at hrow
  have hatName : Continues _ 2 _ := continues_spaces 1 hrow
  have hatKind : Continues _ (kindOffset widths) _ := hatName.next hname
  have hatTypeName : Continues _ (typeNameOffset widths) _ :=
    hatKind.next hkind
  have hatValues : Continues _ (valuesOffset widths) _ :=
    hatTypeName.next htypeName
  have hatExtensions : Continues _ (extensionsOffset widths) _ :=
    hatValues.next hvalues
  refine ⟨hatName.standsAt, hatKind.standsAt, hatTypeName.standsAt,
    hatValues.standsAt,
    hatExtensions.standsAt_trimmed (head?_representativeText summary), ?_,
    isBlank_getLast?_row widths summary⟩
  intro extension hextension
  exact isInfix_row_of_representative hextension widths

end Rows

theorem rowsAligned_iff {form : String → String} {summaries : List Summary}
    (hbreak : ∀ summary ∈ summaries, HasNoBreak summary) (source : String) :
    RowsAligned form summaries source ↔ ∀ summary ∈ summaries,
      IsAligned form (Widths.of summaries) summary
        (row (Widths.of summaries) summary).toList := by
  apply hasRows_iff (List.cons_ne_nil _ _) (toList_render summaries source)
  intro summary hsummary
  exact newline_not_mem_row (hbreak summary hsummary) _

end Table

/-! ## Details -/

namespace Detail

/-- Where the derived names of variants stand. -/
def nameOffset (summary : Summary) : Nat :=
  4 + rawWidth summary + 2

/-- Where the notes on variants stand. -/
def noteOffset (summary : Summary) : Nat :=
  nameOffset summary + nameWidth summary + 2

/-- The note on a variant in its brackets. -/
def bracketText (variant : Variant) : String :=
  "[" ++ ", ".intercalate (notes variant) ++ "]"

/-- A row with its derived name and its note, if any, at the offsets of their
columns. -/
structure IsAligned (summary : Summary) (variant : Variant)
    (line : List Char) : Prop where
  name : variant.name ≠ "" → StandsAt line (nameOffset summary) variant.name
  note : notes variant ≠ [] →
    StandsAt line (noteOffset summary) (bracketText variant)
  trimmed : ∀ c ∈ line.getLast?, isBlank c = false

/-- A detail with an aligned row for each variant. -/
def RowsAligned (summary : Summary) : Prop :=
  HasRows (IsAligned summary) (render summary) (headLines summary)
    summary.variants

section Rows

variable {variant : Variant} {rawWidth nameWidth : Nat}

/-- The cells of a row with their padding. -/
theorem toList_row (rawWidth nameWidth : Nat) (variant : Variant) :
    (row rawWidth nameWidth variant).toList =
      (List.replicate 4 ' ' ++ (variant.rawName.toList ++
        (gap (rawWidth - variant.rawName.length) ++ (variant.name.toList ++
          (List.replicate (nameWidth - variant.name.length) ' ' ++
            (noteText variant).toList))))).rdropWhile isBlank := by
  rw [row, toList_trimEnd_eq]
  simp only [String.toList_append, toList_padEnd, gap_eq, List.append_assoc]
  rfl

/-- Padding and a note begin with a space. -/
theorem head?_spaces_append_noteText (n : Nat) (variant : Variant) :
    ∀ c ∈ (List.replicate n ' ' ++ (noteText variant).toList).head?,
      c = ' ' := by
  rcases n with _ | n
  · exact head?_noteText variant
  · rw [List.replicate_succ]
    rintro c ⟨⟩
    rfl

/-- A row goes on with its derived name where the second column begins. -/
theorem standsAt_name (hraw : variant.rawName.length ≤ rawWidth)
    (hblank : IsBlankFree variant.name) (hname : variant.name ≠ "") :
    StandsAt (row rawWidth nameWidth variant).toList (4 + rawWidth + 2)
      variant.name := by
  have hrow := toList_row rawWidth nameWidth variant
  have hlast : ∀ c ∈ (List.replicate 4 ' ' ++ (variant.rawName.toList ++
      (gap (rawWidth - variant.rawName.length) ++
        variant.name.toList))).getLast?, isBlank c = false := by
    have hnonempty := mt String.toList_eq_nil_iff.mp hname
    intro c hc
    rw [← List.append_assoc, ← List.append_assoc,
      List.getLast?_append_of_ne_nil _ hnonempty] at hc
    exact hblank c (List.mem_of_getLast? hc)
  -- Nothing up to the end of the derived name is trimmed.
  have hkept := rdropWhile_append_of_getLast? hlast
    (List.replicate (nameWidth - variant.name.length) ' ' ++
      (noteText variant).toList)
  simp only [List.append_assoc] at hkept
  rw [hkept] at hrow
  have hatRaw : Continues _ 4 _ := continues_spaces 3 hrow
  have hatName : Continues _ (4 + rawWidth + 2) _ := hatRaw.next hraw
  exact hatName.standsAt_trimmed (head?_spaces_append_noteText _ variant)

theorem toList_noteText_eq (hnotes : notes variant ≠ []) :
    (noteText variant).toList =
      List.replicate 2 ' ' ++ (bracketText variant).toList := by
  rw [noteText]
  split
  · rename_i hnone
    exact absurd hnone hnotes
  · simp only [bracketText, String.toList_append, List.append_assoc]
    rfl

/-- A row with a note ends in its bracket, so nothing of it is trimmed. -/
theorem standsAt_note (hraw : variant.rawName.length ≤ rawWidth)
    (hname : variant.name.length ≤ nameWidth) (hnotes : notes variant ≠ []) :
    StandsAt (row rawWidth nameWidth variant).toList
      (4 + rawWidth + 2 + nameWidth + 2) (bracketText variant) := by
  have hrow := toList_row rawWidth nameWidth variant
  have hbracket : (bracketText variant).toList.getLast? = some ']' := by
    rw [bracketText, String.toList_append, List.getLast?_append]
    rfl
  rw [rdropWhile_isBlank_eq_self, toList_noteText_eq hnotes,
    ← List.append_assoc (List.replicate _ ' ') (List.replicate 2 ' '),
    List.replicate_append_replicate] at hrow
  · have hatRaw : Continues _ 4 _ := continues_spaces 3 hrow
    have hatName : Continues _ (4 + rawWidth + 2) _ := hatRaw.next hraw
    have hatNote : Continues _ (4 + rawWidth + 2 + nameWidth + 2) _ :=
      hatName.next hname
    refine ⟨[], ?_, by simp⟩
    rwa [List.append_nil]
  · intro c hc
    rw [toList_noteText_eq hnotes] at hc
    simp only [List.getLast?_append, hbracket] at hc
    cases hc
    decide

end Rows

theorem rowsAligned_of_hasNoBlank {summary : Summary}
    (hblank : ∀ variant ∈ summary.variants, HasNoBlank variant) :
    RowsAligned summary := by
  have hhead : headLines summary ≠ [] := List.cons_ne_nil _ _
  rw [RowsAligned, hasRows_iff hhead (toList_render summary)]
  · intro variant hvariant
    have hraw : variant.rawName.length ≤ rawWidth summary :=
      length_le_widest (List.mem_map_of_mem hvariant)
    have hname : variant.name.length ≤ nameWidth summary :=
      length_le_widest (List.mem_map_of_mem hvariant)
    exact ⟨standsAt_name hraw (hblank variant hvariant).name,
      standsAt_note hraw hname, isBlank_getLast?_trimEnd _⟩
  · intro variant hvariant
    exact newline_not_mem_row (hblank variant hvariant) _ _

end Detail

/-! ## Both reports -/

/-- Every column of a table and of a detail begins at one offset.  Rows have
their cells in full, except that the representative extension in a table is
without the blanks at its end, and no row ends in a blank. -/
theorem reports_aligned {summaries : List Summary}
    (hcount : ∀ summary ∈ summaries, summary.baseCount ≤ 9999)
    (hbreak : ∀ summary ∈ summaries, Table.HasNoBreak summary)
    {summary : Summary}
    (hblank : ∀ variant ∈ summary.variants, Detail.HasNoBlank variant)
    (source : String) :
    Table.RowsAligned trimEnd summaries source ∧
      Detail.RowsAligned summary := by
  refine ⟨?_, Detail.rowsAligned_of_hasNoBlank hblank⟩
  rw [Table.rowsAligned_iff hbreak]
  intro listed hlisted
  exact Table.isAligned_row hlisted (hcount listed hlisted)

theorem reports_aligned_shapes :
    (∀ summary ∈ Table.shapeSummaries "CUBE" (some "VK_KHR_ball"),
        summary.baseCount ≤ 9999) ∧
      (∀ summary ∈ Table.shapeSummaries "CUBE" (some "VK_KHR_ball"),
        Table.HasNoBreak summary) ∧
      (∀ variant ∈ (Detail.ballSummary false).variants,
        Detail.HasNoBlank variant) ∧
      Table.RowsAligned trimEnd
        (Table.shapeSummaries "CUBE" (some "VK_KHR_ball")) "vk.xml" ∧
      Detail.RowsAligned (Detail.ballSummary false) := by
  have hcount : ∀ summary ∈ Table.shapeSummaries "CUBE" (some "VK_KHR_ball"),
      summary.baseCount ≤ 9999 := by decide
  have hcell : ∀ extension ∈ some "VK_KHR_ball", IsCell extension := by
    rintro _ ⟨⟩
    decide +kernel
  have hlegible := Table.isLegible_shapeSummaries "CUBE" hcell
  have hbreak : ∀ summary ∈ Table.shapeSummaries "CUBE" (some "VK_KHR_ball"),
      Table.HasNoBreak summary :=
    fun summary hsummary => (hlegible summary hsummary).hasNoBreak
  have hblank : ∀ variant ∈ (Detail.ballSummary false).variants,
      Detail.HasNoBlank variant := fun variant hvariant =>
    ((Detail.isLegible_ballSummary false).variants variant hvariant).hasNoBlank
  exact ⟨hcount, hbreak, hblank, reports_aligned hcount hbreak hblank "vk.xml"⟩

/-- A group whose only extension has a space at the end of its name. -/
def spacedSummary : Summary :=
  ⟨"VkShape", .enumeration, "Shape",
    [⟨"VK_SHAPE_BALL", "BALL", some "VK_KHR_ball ", false⟩],
    some "VK_KHR_ball "⟩

/-- No row has all its cells in full if it also may not end in a blank. -/
theorem not_rowsAligned_spaced :
    (∀ summary ∈ [spacedSummary], summary.baseCount ≤ 9999) ∧
      (∀ summary ∈ [spacedSummary], Table.HasNoBreak summary) ∧
      ¬Table.RowsAligned id [spacedSummary] "vk.xml" := by
  have hbreak : ∀ summary ∈ [spacedSummary], Table.HasNoBreak summary := by
    rintro _ (_ | ⟨_, ⟨⟩⟩)
    have hname : '\n' ∉ "VkShape".toList := by decide
    have htypeName : '\n' ∉ "Shape".toList := by decide
    have hextension : '\n' ∉ "VK_KHR_ball ".toList := by decide
    refine ⟨hname, htypeName, ?_⟩
    rintro _ ⟨⟩
    exact hextension
  refine ⟨by decide, hbreak, ?_⟩
  rw [Table.rowsAligned_iff hbreak]
  intro haligned
  have hwhole :=
    (haligned spacedSummary List.mem_cons_self).representative _ rfl
  revert hwhole
  decide +kernel

end VulkanRegistry
