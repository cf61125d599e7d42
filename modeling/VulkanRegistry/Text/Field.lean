/-!
# Fields between separators

A text is a sequence of fields, each ended by a separator or by the end of the
text.  There is always one field more than there are separators, so fields may
be empty.
-/

namespace VulkanRegistry.Text

/-- Puts a character in front of the first field. -/
def consField (c : Char) : List (List Char) → List (List Char)
  | [] => [[c]]
  | field :: rest => (c :: field) :: rest

/-- The fields between the characters that `separates` accepts. -/
def fieldsBy (separates : Char → Bool) : List Char → List (List Char)
  | [] => [[]]
  | c :: rest =>
      if separates c then [] :: fieldsBy separates rest
      else consField c (fieldsBy separates rest)

/-- The maximal runs of the characters that `accepts` holds of. -/
def runsOf (accepts : Char → Bool) (text : List Char) : List (List Char) :=
  (fieldsBy (fun c => !accepts c) text).filter fun field => !field.isEmpty

/-- The tokens between the underscores of a name. -/
def tokens (name : String) : List String :=
  (fieldsBy (· == '_') name.toList).map String.ofList

theorem consField_ne_nil (c : Char) (fields : List (List Char)) :
    consField c fields ≠ [] := by
  cases fields <;> simp [consField]

theorem fieldsBy_ne_nil (separates : Char → Bool) (text : List Char) :
    fieldsBy separates text ≠ [] := by
  cases text with
  | nil => simp [fieldsBy]
  | cons c rest =>
      rw [fieldsBy]
      split
      · simp
      · exact consField_ne_nil _ _

theorem flatten_consField (c : Char) (fields : List (List Char)) :
    (consField c fields).flatten = c :: fields.flatten := by
  cases fields <;> simp [consField]

/-- The fields hold the characters that separate nothing, in their order. -/
theorem flatten_fieldsBy (separates : Char → Bool) (text : List Char) :
    (fieldsBy separates text).flatten = text.filter fun c => !separates c := by
  induction text with
  | nil => simp [fieldsBy]
  | cons c rest ih =>
      by_cases h : separates c = true
      · simp [fieldsBy, h, ih]
      · simp [fieldsBy, h, flatten_consField, ih]

/-- No field holds a separator. -/
theorem not_separates_of_mem_fieldsBy {separates : Char → Bool}
    {text field : List Char}
    (hfield : field ∈ fieldsBy separates text) {c : Char} (hc : c ∈ field) :
    separates c = false := by
  have member : c ∈ (fieldsBy separates text).flatten :=
    List.mem_flatten.mpr ⟨field, hfield, hc⟩
  rw [flatten_fieldsBy, List.mem_filter] at member
  simpa using member.2

end VulkanRegistry.Text
