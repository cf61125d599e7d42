import VulkanRegistry.Proofs.Registry.Reading
import VulkanRegistry.Proofs.Text.Cell
import VulkanRegistry.Report.Table

/-!
# Reading a table back

The text of a table determines what it tells of each group, provided that names
are cells.  The widths of the columns cannot be read off and need not be: a
column ends at the first gap.  The counts need no gap.  A large count leaves one
space only before the next column, but that column begins with a plus sign.
-/

namespace VulkanRegistry.Table

open Text

/-! ## Rows -/

/-- How many spaces the gaps of a row have beyond those that always stand. -/
structure Gaps where
  name : Nat
  kind : Nat
  typeName : Nat
  values : Nat

/-- The gaps of a row in columns of the given widths. -/
def Gaps.of (widths : Widths) (summary : Summary) : Gaps :=
  { name := widths.name - summary.name.length
    kind := widths.kind - summary.kind.label.length
    typeName := widths.typeName - summary.typeName.length
    values := 11 - s!"{summary.baseCount} values".length }

/-- The counts of a group, and what stands behind them. -/
def countsText (more : Nat) (summary : Summary) (ending : List Char) :
    List Char :=
  (toString summary.baseCount).toList ++ " values".toList ++
    (List.replicate (more + 1) ' ' ++ (['+'] ++
      ((toString summary.extensionCount).toList ++ " ext".toList ++ ending)))

/-- A row with the given gaps and the given text behind its counts. -/
def rowText (gaps : Gaps) (summary : Summary) (ending : List Char) :
    List Char :=
  [' ', ' '] ++ (summary.name.toList ++ (gap gaps.name ++
    (summary.kind.label.toList ++ (gap gaps.kind ++
      (summary.typeName.toList ++ (gap gaps.typeName ++
        countsText gaps.values summary ending))))))

/-- The representative extension as it stands at the end of a row. -/
def representativeText (summary : Summary) : List Char :=
  match summary.representative with
  | none => []
  | some extension => [' ', ' '] ++ extension.toList

/-- A summary whose name, type name and representative extension are cells. -/
structure IsLegible (summary : Summary) : Prop where
  name : IsCell summary.name
  typeName : IsCell summary.typeName
  representative : ∀ extension ∈ summary.representative, IsCell extension

/-- A summary that has no line break in what a table tells of it. -/
structure HasNoBreak (summary : Summary) : Prop where
  name : '\n' ∉ summary.name.toList
  typeName : '\n' ∉ summary.typeName.toList
  representative : ∀ extension ∈ summary.representative,
    '\n' ∉ extension.toList

theorem IsLegible.hasNoBreak {summary : Summary} (h : IsLegible summary) :
    HasNoBreak summary :=
  ⟨h.name.newline_not_mem, h.typeName.newline_not_mem,
    fun extension hfound => (h.representative extension hfound).newline_not_mem⟩

/-- Summaries of which a table tells the same. -/
structure TellsSame (summary other : Summary) : Prop where
  name : summary.name = other.name
  kind : summary.kind = other.kind
  typeName : summary.typeName = other.typeName
  baseCount : summary.baseCount = other.baseCount
  extensionCount : summary.extensionCount = other.extensionCount
  representative : summary.representative = other.representative

section Rows

variable {summary other : Summary}

theorem rowText_append (gaps : Gaps) (summary : Summary)
    (ending : List Char) :
    rowText gaps summary [] ++ ending = rowText gaps summary ending := by
  simp [rowText, countsText]

theorem toList_cells (widths : Widths) (summary : Summary) :
    (cells widths summary).toList =
      rowText (Gaps.of widths summary) summary (List.replicate
        (9 - s!"+{summary.extensionCount} ext".length) ' ') := by
  have hspace : ∀ more, List.replicate (more + 1) ' ' =
      List.replicate more ' ' ++ " ".toList :=
    fun _ => List.replicate_succ'
  simp only [cells, rowText, countsText, Gaps.of, String.toList_append,
    toList_padEnd, gap_eq, hspace, List.append_assoc]
  rfl

/-- A row ends in a letter where nothing stands behind its counts. -/
theorem isBlank_getLast?_rowText (gaps : Gaps) (summary : Summary) :
    ∀ c ∈ (rowText gaps summary []).getLast?, isBlank c = false := by
  have hlast : (rowText gaps summary []).getLast? = some 't' := by
    simp only [rowText, countsText, List.getLast?_append]
    rfl
  rw [hlast]
  rintro c ⟨⟩
  decide

theorem toList_trimEnd_cells (widths : Widths) (summary : Summary) :
    (trimEnd (cells widths summary)).toList =
      rowText (Gaps.of widths summary) summary [] := by
  have hcells := toList_cells widths summary
  rw [← rowText_append] at hcells
  apply toList_trimEnd hcells _ (isBlank_getLast?_rowText _ _)
  exact fun _ hc => isBlank_of_mem_spaces hc

/-- The row of any group, legible or not. -/
theorem toList_row_eq (widths : Widths) (summary : Summary) :
    (row widths summary).toList =
      rowText (Gaps.of widths summary) summary
        ((representativeText summary).rdropWhile isBlank) := by
  rw [row, representativeText]
  cases hrepresentative : summary.representative with
  | none => exact toList_trimEnd_cells widths summary
  | some extension =>
      have hrow : (trimEnd (cells widths summary) ++ "  " ++ extension).toList =
          rowText (Gaps.of widths summary) summary [] ++
            ([' ', ' '] ++ extension.toList) := by
        rw [String.toList_append, String.toList_append, toList_trimEnd_cells,
          List.append_assoc]
        rfl
      rw [← rowText_append]
      exact toList_trimEnd_append hrow (isBlank_getLast?_rowText _ _)

theorem isBlank_getLast?_representativeText (hlegible : IsLegible summary) :
    ∀ c ∈ (representativeText summary).getLast?, isBlank c = false := by
  rw [representativeText]
  cases hrepresentative : summary.representative with
  | none => simp
  | some extension =>
      have hcell := hlegible.representative extension hrepresentative
      have hnonempty := mt String.toList_eq_nil_iff.mp hcell.nonempty
      rw [List.getLast?_append_of_ne_nil _ hnonempty]
      exact hcell.isBlank_getLast?

theorem toList_row (hlegible : IsLegible summary) (widths : Widths) :
    (row widths summary).toList =
      rowText (Gaps.of widths summary) summary
        (representativeText summary) := by
  rw [toList_row_eq, rdropWhile_isBlank_eq_self
    (isBlank_getLast?_representativeText hlegible)]

/-! ## Reading rows -/

theorem isCell_label (kind : GroupKind) : IsCell kind.label := by
  cases kind <;> decide +kernel

theorem label_inj {kind other : GroupKind} (h : kind.label = other.label) :
    kind = other := by
  revert h
  cases kind <;> cases other <;> decide +kernel

theorem head?_countsText (more : Nat) (summary : Summary)
    (ending : List Char) :
    (countsText more summary ending).head? ≠ some ' ' := by
  rw [countsText, List.append_assoc]
  exact head?_toString_append _ _

theorem countsText_inj {more others : Nat} {ending rest : List Char}
    (h : countsText more summary ending = countsText others other rest) :
    summary.baseCount = other.baseCount ∧
      summary.extensionCount = other.extensionCount ∧ ending = rest := by
  rw [countsText, countsText] at h
  simp only [List.append_assoc] at h
  obtain ⟨hbase, hvalues⟩ := toString_append_space_inj h
  have hspaces := List.append_cancel_left hvalues
  have hplus := spaces_append_inj (by simp) (by simp) hspaces
  obtain ⟨hextension, hending⟩ :=
    toString_append_space_inj (List.append_cancel_left hplus)
  exact ⟨hbase, hextension, List.append_cancel_left hending⟩

theorem representativeText_inj
    (h : representativeText summary = representativeText other) :
    summary.representative = other.representative := by
  rw [representativeText, representativeText] at h
  cases hleft : summary.representative with
  | none =>
      cases hright : other.representative with
      | none => rfl
      | some extension => simp [hleft, hright] at h
  | some extension =>
      cases hright : other.representative with
      | none => simp [hleft, hright] at h
      | some found =>
          rw [hleft, hright] at h
          have hsame := List.append_cancel_left h
          rw [String.toList_injective hsame]

theorem tellsSame_of_rowText_eq (hlegible : IsLegible summary)
    (hother : IsLegible other) {gaps others : Gaps}
    (h : rowText gaps summary (representativeText summary) =
      rowText others other (representativeText other)) :
    TellsSame summary other := by
  have hrow := List.append_cancel_left h
  obtain ⟨hname, hrest⟩ := hlegible.name.append_gap_inj hother.name
    ((isCell_label _).head?_append _) ((isCell_label _).head?_append _) hrow
  obtain ⟨hkind, hrest⟩ := (isCell_label _).append_gap_inj (isCell_label _)
    (hlegible.typeName.head?_append _) (hother.typeName.head?_append _) hrest
  obtain ⟨htypeName, hrest⟩ := hlegible.typeName.append_gap_inj hother.typeName
    (head?_countsText _ _ _) (head?_countsText _ _ _) hrest
  obtain ⟨hbase, hextension, hending⟩ := countsText_inj hrest
  exact ⟨hname, label_inj hkind, htypeName, hbase, hextension,
    representativeText_inj hending⟩

theorem newline_not_mem_row (h : HasNoBreak summary) (widths : Widths) :
    '\n' ∉ (row widths summary).toList := by
  have hrepresentative :
      '\n' ∉ (representativeText summary).rdropWhile isBlank := by
    intro hmem
    have hwhole := (List.rdropWhile_prefix isBlank _).subset hmem
    rw [representativeText] at hwhole
    cases hfound : summary.representative with
    | none => simp [hfound] at hwhole
    | some extension =>
        simp [hfound, h.representative extension hfound] at hwhole
  rw [toList_row_eq]
  simp only [rowText, countsText, gap, List.mem_append, not_or]
  have hlabel := (isCell_label summary.kind).newline_not_mem
  refine ⟨by decide, h.name, newline_not_mem_spaces _,
    hlabel, newline_not_mem_spaces _, h.typeName,
    newline_not_mem_spaces _, ⟨not_mem_toString (by decide) _, by decide⟩,
    newline_not_mem_spaces _, by decide,
    ⟨not_mem_toString (by decide) _, by decide⟩, hrepresentative⟩

/-- What a table tells of a group determines its row. -/
theorem TellsSame.row_eq (h : TellsSame summary other) (widths : Widths) :
    row widths summary = row widths other := by
  have hcells : cells widths summary = cells widths other := by
    rw [cells, cells, h.name, h.kind, h.typeName, h.baseCount,
      h.extensionCount]
  rw [row, row, h.representative, hcells]

end Rows

/-! ## Tables -/

/-- The first line of a table. -/
def headerText (count : Nat) (source : String) : List Char :=
  (toString count).toList ++ " enum groups in ".toList ++
    (source.toList ++ [':'])

theorem headerText_inj {count others : Nat} {source other : String}
    (h : headerText count source = headerText others other) :
    source = other := by
  rw [headerText, headerText, List.append_assoc, List.append_assoc] at h
  obtain ⟨-, hrest⟩ := toString_append_space_inj h
  have hsource := List.append_cancel_left hrest
  exact String.toList_injective (List.append_cancel_right hsource)

theorem newline_not_mem_headerText {source : String}
    (hsource : '\n' ∉ source.toList) (count : Nat) :
    '\n' ∉ headerText count source := by
  simp only [headerText, List.mem_append, not_or]
  exact ⟨⟨not_mem_toString (by decide) count, by decide⟩, hsource, by decide⟩

/-- The lines of a table. -/
def tableLines (summaries : List Summary) (source : String) :
    List (List Char) :=
  [headerText summaries.length source, []] ++
    summaries.map (fun summary =>
      (row (Widths.of summaries) summary).toList) ++ [[]]

theorem toList_render (summaries : List Summary) (source : String) :
    (render summaries source).toList =
      ['\n'].intercalate (tableLines summaries source) := by
  have hheader : (s!"{summaries.length} enum groups in {source}:").toList =
      headerText summaries.length source := by
    simp only [String.toList_append, headerText, List.append_assoc]
    rfl
  rw [render, String.toList_intercalate, tableLines, List.map_append,
    List.map_append, List.map_map, List.map_cons, hheader]
  rfl

theorem newline_not_mem_tableLines {summaries : List Summary}
    {source : String} (hlegible : ∀ summary ∈ summaries, IsLegible summary)
    (hsource : '\n' ∉ source.toList) :
    ∀ line ∈ tableLines summaries source, '\n' ∉ line := by
  intro line hline
  simp only [tableLines, List.mem_append, List.mem_cons, List.mem_map,
    List.not_mem_nil, or_false] at hline
  rcases hline with ((rfl | rfl) | ⟨summary, hsummary, rfl⟩) | rfl
  · exact newline_not_mem_headerText hsource _
  · simp
  · exact newline_not_mem_row (hlegible summary hsummary).hasNoBreak _
  · simp

/-- What tables tell of their groups can be read off their lines. -/
theorem tellsSame_of_tableLines_eq {summaries others : List Summary}
    {source other : String}
    (hsummaries : ∀ summary ∈ summaries, IsLegible summary)
    (hothers : ∀ summary ∈ others, IsLegible summary)
    (h : tableLines summaries source = tableLines others other) :
    source = other ∧ List.Forall₂ TellsSame summaries others := by
  have hlines := List.append_cancel_right h
  obtain ⟨hheader, hrest⟩ := List.cons.inj hlines
  obtain ⟨-, hrows⟩ := List.cons.inj hrest
  refine ⟨headerText_inj hheader, ?_⟩
  have hpairs := forall₂_and_of_forall (forall₂_of_map_eq hrows) hsummaries
    hothers
  refine hpairs.imp ?_
  rintro summary other ⟨hsummary, hother, hequal⟩
  rw [toList_row hsummary, toList_row hother] at hequal
  exact tellsSame_of_rowText_eq hsummary hother hequal

/-- Tables tell the same of their groups in their order. -/
theorem render_eq_of_tellsSame {summaries others : List Summary}
    (h : List.Forall₂ TellsSame summaries others) (source : String) :
    render summaries source = render others source := by
  have hwidths : Widths.of summaries = Widths.of others := by
    have hnames : summaries.map Summary.name = others.map Summary.name :=
      map_eq_map_of_forall₂ (fun _ _ hsame => hsame.name) h
    have hkinds : summaries.map (fun summary => summary.kind.label) =
        others.map fun summary => summary.kind.label :=
      map_eq_map_of_forall₂ (fun _ _ hsame => by rw [hsame.kind]) h
    have htypeNames : summaries.map Summary.typeName =
        others.map Summary.typeName :=
      map_eq_map_of_forall₂ (fun _ _ hsame => hsame.typeName) h
    rw [Widths.of, Widths.of, hnames, hkinds, htypeNames]
  have hrows : summaries.map (row (Widths.of summaries)) =
      others.map (row (Widths.of others)) := by
    rw [hwidths]
    exact map_eq_map_of_forall₂ (fun _ _ hsame => hsame.row_eq _) h
  rw [render, render, h.length_eq, hrows]

/-- The texts of two tables are equal exactly if their sources are and they
list groups of which, in order, the same is told: name, kind, type name, both
counts, and the representative extension or that there is none. -/
theorem render_eq_iff_tellsSame {summaries others : List Summary}
    {source other : String}
    (hsummaries : ∀ summary ∈ summaries, IsLegible summary)
    (hothers : ∀ summary ∈ others, IsLegible summary)
    (hsource : '\n' ∉ source.toList) (hother : '\n' ∉ other.toList) :
    render summaries source = render others other ↔
      source = other ∧ List.Forall₂ TellsSame summaries others := by
  constructor
  · intro h
    have htext := congrArg String.toList h
    rw [toList_render, toList_render] at htext
    apply tellsSame_of_tableLines_eq hsummaries hothers
    apply intercalate_fields_inj _ _ _ _ htext
    · simp [tableLines]
    · simp [tableLines]
    · exact newline_not_mem_tableLines hsummaries hsource
    · exact newline_not_mem_tableLines hothers hother
  · rintro ⟨rfl, hsame⟩
    exact render_eq_of_tellsSame hsame source

/-- Two groups, one of them with a space in its name.  Left open are the name
of a variant, which a table does not tell, and the representative extension,
which it tells. -/
def shapeSummaries (variant : String) (representative : Option String) :
    List Summary :=
  [⟨"API Constants", .constants, "API Constants",
      [⟨"VK_TRUE", "TRUE", none, false⟩], none⟩,
    ⟨"VkShapeFlagBits", .flagSet, "ShapeFlags",
      [⟨variant, variant, none, false⟩,
        ⟨"VK_SHAPE_BALL", "BALL", some "VK_KHR_ball", true⟩], representative⟩]

theorem isLegible_shapeSummaries (variant : String)
    {representative : Option String}
    (hrepresentative : ∀ extension ∈ representative, IsCell extension) :
    ∀ summary ∈ shapeSummaries variant representative, IsLegible summary := by
  have hconstants : IsCell "API Constants" := by decide +kernel
  have hname : IsCell "VkShapeFlagBits" := by decide +kernel
  have htypeName : IsCell "ShapeFlags" := by decide +kernel
  simp only [shapeSummaries, List.forall_mem_cons, List.not_mem_nil,
    false_implies, implies_true, and_true]
  exact ⟨⟨hconstants, hconstants, by simp⟩, hname, htypeName, hrepresentative⟩

theorem render_eq_iff_tellsSame_shapes :
    (∀ summary ∈ shapeSummaries "CUBE" none, IsLegible summary) ∧
      (∀ summary ∈ shapeSummaries "CONE" none, IsLegible summary) ∧
      (∀ summary ∈ shapeSummaries "CUBE" (some "VK_KHR_ball"),
        IsLegible summary) ∧
      '\n' ∉ "vk.xml".toList ∧
      render (shapeSummaries "CUBE" none) "vk.xml" =
        render (shapeSummaries "CONE" none) "vk.xml" ∧
      render (shapeSummaries "CUBE" none) "vk.xml" ≠
        render (shapeSummaries "CUBE" (some "VK_KHR_ball")) "vk.xml" := by
  have hnone : ∀ extension ∈ none, IsCell extension := by simp
  have hsome : ∀ extension ∈ some "VK_KHR_ball", IsCell extension := by
    intro extension hpresent
    cases hpresent
    decide +kernel
  have hcube := isLegible_shapeSummaries "CUBE" hnone
  have hcone := isLegible_shapeSummaries "CONE" hnone
  have hextended := isLegible_shapeSummaries "CUBE" hsome
  have hsource : '\n' ∉ "vk.xml".toList := by decide
  refine ⟨hcube, hcone, hextended, hsource, ?_, ?_⟩
  · rw [render_eq_iff_tellsSame hcube hcone hsource hsource]
    exact ⟨rfl, .cons ⟨rfl, rfl, rfl, rfl, rfl, rfl⟩
      (.cons ⟨rfl, rfl, rfl, rfl, rfl, rfl⟩ .nil)⟩
  · rw [Ne, render_eq_iff_tellsSame hcube hextended hsource hsource]
    rintro ⟨-, hsame⟩
    rcases hsame with _ | ⟨-, _ | ⟨hgroup, -⟩⟩
    cases hgroup.representative

end VulkanRegistry.Table
