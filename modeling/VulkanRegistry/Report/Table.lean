import VulkanRegistry.Report.Summary
import VulkanRegistry.Text.Blank
import VulkanRegistry.Text.Layout

/-!
# The table of groups

One row for each group with its name, its kind, its type name and its counts.  A
group that extensions contribute to has its representative extension in a last
column.  Columns are as wide as their widest cell, and no line ends in blanks.
-/

namespace VulkanRegistry.Table

/-- The widths of the columns that depend on the groups listed. -/
structure Widths where
  name : Nat
  kind : Nat
  typeName : Nat

/-- The widths that a list of groups needs. -/
def Widths.of (summaries : List Summary) : Widths :=
  { name := Text.widest (summaries.map Summary.name)
    kind := Text.widest (summaries.map fun summary => summary.kind.label)
    typeName := Text.widest (summaries.map Summary.typeName) }

/-- The row of a group without its representative extension. -/
def cells (widths : Widths) (summary : Summary) : String :=
  "  " ++ Text.padEnd widths.name summary.name
    ++ "  " ++ Text.padEnd widths.kind summary.kind.label
    ++ "  " ++ Text.padEnd widths.typeName summary.typeName
    ++ "  " ++ Text.padEnd 11 s!"{summary.baseCount} values"
    ++ " " ++ Text.padEnd 9 s!"+{summary.extensionCount} ext"

/-- The row of a group. -/
def row (widths : Widths) (summary : Summary) : String :=
  match summary.representative with
  | none => Text.trimEnd (cells widths summary)
  | some extension =>
      Text.trimEnd (Text.trimEnd (cells widths summary) ++ "  " ++ extension)

/-- The table of a list of groups that come from `source`. -/
def render (summaries : List Summary) (source : String) : String :=
  "\n".intercalate
    ([s!"{summaries.length} enum groups in {source}:", ""]
      ++ summaries.map (row (Widths.of summaries)) ++ [""])

end VulkanRegistry.Table
