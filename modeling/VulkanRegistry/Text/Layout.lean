/-!
# Padding and lines

Columns are padded on the right with spaces and counted in code points.
-/

namespace VulkanRegistry.Text

/-- A text followed by as many spaces as it lacks of `width` characters. -/
def padEnd (width : Nat) (text : String) : String :=
  text ++ String.ofList (List.replicate (width - text.length) ' ')

/-- The length of the longest text, and zero when there is none. -/
def widest (texts : List String) : Nat :=
  (texts.map String.length).foldl max 0

end VulkanRegistry.Text
