import VulkanRegistry.Report.Summary
import VulkanRegistry.Text.Blank
import VulkanRegistry.Text.Layout

/-!
# The detail of one group

The type name of a group, the extension that represents its contributors, and
one row for each variant.  A note in brackets names the extension that a variant
comes from and marks aliases.
-/

namespace VulkanRegistry.Detail

/-- The notes on a variant. -/
def notes (variant : Variant) : List String :=
  variant.extension.toList ++ if variant.isAlias then ["alias"] else []

/-- The notes on a variant as they stand at the end of its row. -/
def noteText (variant : Variant) : String :=
  match notes variant with
  | [] => ""
  | found => "  [" ++ ", ".intercalate found ++ "]"

/-- The row of a variant, given the widths of its two columns. -/
def row (rawWidth nameWidth : Nat) (variant : Variant) : String :=
  Text.trimEnd
    ("    " ++ Text.padEnd rawWidth variant.rawName
      ++ "  " ++ Text.padEnd nameWidth variant.name ++ noteText variant)

/-- What the detail says of the contributing extensions; an empty name counts as
none. -/
def extendedBy (summary : Summary) : String :=
  match summary.representative with
  | none | some "" => "none"
  | some extension => extension

/-- The detail of a group. -/
def render (summary : Summary) : String :=
  let rawWidth := Text.widest (summary.variants.map Variant.rawName)
  let nameWidth := Text.widest (summary.variants.map Variant.name)
  "\n".intercalate
    ([s!"{summary.name} ({summary.kind.label})",
      s!"  Type name:   {summary.typeName}",
      s!"  Extended by: {extendedBy summary}",
      "",
      s!"  Variants ({summary.variants.length}):"]
      ++ summary.variants.map (row rawWidth nameWidth) ++ [""])

end VulkanRegistry.Detail
