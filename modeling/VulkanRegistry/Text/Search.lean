/-!
# Search and replacement

Occurrence of one text in another, and replacement of all occurrences from left
to right, where a replaced occurrence shares no character with the next.
-/

namespace VulkanRegistry.Text

/-- Whether the characters of `needle` stand side by side somewhere in a
text. -/
def occursIn (needle : List Char) : List Char → Bool
  | [] => needle.isEmpty
  | c :: rest => needle.isPrefixOf (c :: rest) || occursIn needle rest

/-- Replaces the occurrences of `pattern`, leftmost first. -/
def replaceAll (pattern replacement : List Char) : List Char → List Char
  | [] => []
  | c :: rest =>
      if pattern.isPrefixOf (c :: rest) then
        replacement
          ++ replaceAll pattern replacement (rest.drop (pattern.length - 1))
      else c :: replaceAll pattern replacement rest
termination_by text => text.length
decreasing_by
  · simp only [List.length_drop, List.length_cons]
    omega
  · simp

/-- The text before the first occurrence of `stop`, and the text after it. -/
def cutAt (stop : List Char) : List Char → Option (List Char × List Char)
  | [] => none
  | c :: rest =>
      if stop.isPrefixOf (c :: rest) then
        some ([], (c :: rest).drop stop.length)
      else (cutAt stop rest).map fun (before, after) => (c :: before, after)

/-- A text is found exactly where it is an infix. -/
theorem occursIn_iff {needle text : List Char} :
    occursIn needle text = true ↔ needle <:+: text := by
  induction text with
  | nil => simp [occursIn]
  | cons c rest ih =>
      simp [occursIn, ih, List.infix_cons_iff]

/-- What follows a cut is no longer than the text. -/
theorem length_le_of_cutAt {stop text before after : List Char}
    (h : cutAt stop text = some (before, after)) :
    after.length ≤ text.length := by
  induction text generalizing before after with
  | nil => simp [cutAt] at h
  | cons c rest ih =>
      rw [cutAt] at h
      split at h
      · obtain ⟨-, rfl⟩ := by simpa using h
        simp
      · cases hcut : cutAt stop rest with
        | none => simp [hcut] at h
        | some pieces =>
            obtain ⟨head, tail⟩ := pieces
            have shorter := ih hcut
            simp only [hcut, Option.map_some, Option.some.injEq,
              Prod.mk.injEq] at h
            obtain ⟨-, rfl⟩ := h
            simp only [List.length_cons]
            omega

end VulkanRegistry.Text
