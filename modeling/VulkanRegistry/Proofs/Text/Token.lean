import VulkanRegistry.Text.Field

/-!
# Joining and splitting

A join of tokens at underscores splits into the same tokens, provided that
there is a token and that no token holds an underscore.  So joins of different
tokens differ, and a name without empty tokens has no underscores but those
between tokens.
-/

namespace VulkanRegistry.Text

variable {separates : Char → Bool}

theorem fieldsBy_eq_singleton {field : List Char}
    (hfield : ∀ c ∈ field, separates c = false) :
    fieldsBy separates field = [field] := by
  induction field with
  | nil => rfl
  | cons c rest ih =>
      obtain ⟨hc, hrest⟩ := List.forall_mem_cons.mp hfield
      rw [fieldsBy, if_neg (Bool.eq_false_iff.mp hc), ih hrest, consField]

theorem beq_eq_false_of_not_mem {separator : Char} {field : List Char}
    (hfield : separator ∉ field) : ∀ c ∈ field, (c == separator) = false := by
  intro c hc
  rw [beq_eq_false_iff_ne]
  rintro rfl
  exact hfield hc

theorem consField_append (c : Char) {fields : List (List Char)}
    (hnonempty : fields ≠ []) (more : List (List Char)) :
    consField c (fields ++ more) = consField c fields ++ more := by
  cases fields with
  | nil => exact absurd rfl hnonempty
  | cons field rest => rfl

/-- No field reaches over a separator. -/
theorem fieldsBy_append_cons {separator : Char}
    (hseparator : separates separator = true) (before after : List Char) :
    fieldsBy separates (before ++ separator :: after) =
      fieldsBy separates before ++ fieldsBy separates after := by
  induction before with
  | nil => simp [fieldsBy, hseparator]
  | cons c before ih =>
      rw [List.cons_append, fieldsBy, fieldsBy, ih]
      split
      · rfl
      · exact consField_append c (fieldsBy_ne_nil separates before) _

/-- A field ends at the first separator. -/
theorem fieldsBy_append_separator {field : List Char} {separator : Char}
    (hfield : ∀ c ∈ field, separates c = false)
    (hseparator : separates separator = true) (text : List Char) :
    fieldsBy separates (field ++ separator :: text) =
      field :: fieldsBy separates text := by
  rw [fieldsBy_append_cons hseparator, fieldsBy_eq_singleton hfield,
    List.singleton_append]

/-- What stands before the first separator, and what stands behind it. -/
theorem append_separator_inj {separator : Char}
    {field other rest others : List Char} (hfield : separator ∉ field)
    (hother : separator ∉ other)
    (h : field ++ separator :: rest = other ++ separator :: others) :
    field = other ∧ rest = others := by
  have hsplit : ∀ before after : List Char, separator ∉ before →
      fieldsBy (· == separator) (before ++ separator :: after) =
        before :: fieldsBy (· == separator) after := by
    intro before after hbefore
    exact fieldsBy_append_separator (beq_eq_false_of_not_mem hbefore)
      (beq_self_eq_true separator) after
  have hfields := congrArg (fieldsBy (· == separator)) h
  rw [hsplit field rest hfield, hsplit other others hother] at hfields
  obtain ⟨rfl, -⟩ := List.cons.inj hfields
  exact ⟨rfl, (List.cons.inj (List.append_cancel_left h)).2⟩

/-- A text of accepted characters is a single run. -/
theorem runsOf_eq_singleton {accepts : Char → Bool} {text : List Char}
    (hnonempty : text ≠ []) (htext : ∀ c ∈ text, accepts c = true) :
    runsOf accepts text = [text] := by
  have hfields : fieldsBy (fun c => !accepts c) text = [text] := by
    apply fieldsBy_eq_singleton
    intro c hc
    simp [htext c hc]
  simp [runsOf, hfields, hnonempty]

theorem fieldsBy_intercalate {separator : Char}
    (hseparator : separates separator = true) {fields : List (List Char)}
    (hnonempty : fields ≠ [])
    (hfields : ∀ field ∈ fields, ∀ c ∈ field, separates c = false) :
    fieldsBy separates ([separator].intercalate fields) = fields := by
  induction fields with
  | nil => exact absurd rfl hnonempty
  | cons field rest ih =>
      obtain ⟨hfield, hothers⟩ := List.forall_mem_cons.mp hfields
      cases rest with
      | nil =>
          rw [List.intercalate_singleton]
          exact fieldsBy_eq_singleton hfield
      | cons next others =>
          rw [List.intercalate_cons_cons, List.append_assoc,
            List.singleton_append,
            fieldsBy_append_separator hfield hseparator,
            ih (List.cons_ne_nil next others) hothers]

/-- Joins of fields without the separator differ when the fields do. -/
theorem intercalate_fields_inj {separator : Char}
    {fields others : List (List Char)} (hnonempty : fields ≠ [])
    (hothersNonempty : others ≠ [])
    (hfields : ∀ field ∈ fields, separator ∉ field)
    (hothers : ∀ field ∈ others, separator ∉ field)
    (h : [separator].intercalate fields = [separator].intercalate others) :
    fields = others := by
  have hread : ∀ parts : List (List Char), parts ≠ [] →
      (∀ part ∈ parts, separator ∉ part) →
      fieldsBy (· == separator) ([separator].intercalate parts) = parts := by
    intro parts hparts habsent
    apply fieldsBy_intercalate _ hparts
    · exact fun part hpart => beq_eq_false_of_not_mem (habsent part hpart)
    · exact beq_self_eq_true separator
  rw [← hread fields hnonempty hfields, h, hread others hothersNonempty hothers]

/-- The tokens of a join are the tokens that were joined. -/
theorem tokens_intercalate {parts : List String} (hnonempty : parts ≠ [])
    (hparts : ∀ part ∈ parts, '_' ∉ part.toList) :
    tokens ("_".intercalate parts) = parts := by
  have hfields : ∀ field ∈ parts.map String.toList, ∀ c ∈ field,
      (c == '_') = false := by
    intro field hfield
    obtain ⟨part, hpart, rfl⟩ := List.mem_map.mp hfield
    exact beq_eq_false_of_not_mem (hparts part hpart)
  have hsplit : fieldsBy (fun c => c == '_')
      (['_'].intercalate (parts.map String.toList)) =
        parts.map String.toList := by
    apply fieldsBy_intercalate _ _ hfields
    · rfl
    · simpa using hnonempty
  have hjoin : ("_".intercalate parts).toList =
      ['_'].intercalate (parts.map String.toList) :=
    String.toList_intercalate
  rw [tokens, hjoin, hsplit, List.map_map]
  simp [Function.comp_def]

/-! ## Tokens that can be told apart -/

/-- A token that a join keeps apart from its neighbours. -/
def IsToken (token : String) : Prop :=
  token ≠ "" ∧ '_' ∉ token.toList

instance : DecidablePred IsToken := fun _ =>
  inferInstanceAs (Decidable (_ ∧ _))

theorem underscore_not_mem_of_mem_tokens {name token : String}
    (h : token ∈ tokens name) : '_' ∉ token.toList := by
  obtain ⟨field, hfield, rfl⟩ := List.mem_map.mp h
  rw [String.toList_ofList]
  intro hunderscore
  have hseparates := not_separates_of_mem_fieldsBy hfield hunderscore
  cases hseparates

/-- The tokens of a join of tokens, of which there may be none. -/
theorem filter_tokens_intercalate {parts : List String}
    (hparts : ∀ part ∈ parts, IsToken part) :
    (tokens ("_".intercalate parts)).filter (· ≠ "") = parts := by
  by_cases hnonempty : parts = []
  · subst hnonempty
    rfl
  · rw [tokens_intercalate hnonempty fun part hpart => (hparts part hpart).2,
      List.filter_eq_self]
    intro part hpart
    exact decide_eq_true (hparts part hpart).1

theorem intercalate_inj {parts others : List String}
    (hparts : ∀ part ∈ parts, IsToken part)
    (hothers : ∀ part ∈ others, IsToken part) :
    "_".intercalate parts = "_".intercalate others ↔ parts = others := by
  constructor
  · intro hequal
    rw [← filter_tokens_intercalate hparts, hequal,
      filter_tokens_intercalate hothers]
  · rintro rfl
    rfl

/-- A name without an underscore at either end and without two in a row. -/
structure WellSeparated (name : String) : Prop where
  head : name.toList.head? ≠ some '_'
  last : name.toList.getLast? ≠ some '_'
  single : ¬['_', '_'] <:+: name.toList

theorem wellSeparated_empty : WellSeparated "" := by
  constructor <;> decide

theorem tokens_of_toList_eq {name : String} {before after : List Char}
    (h : name.toList = before ++ '_' :: after) :
    tokens name =
      tokens (String.ofList before) ++ tokens (String.ofList after) := by
  simp only [tokens, h, String.toList_ofList]
  rw [fieldsBy_append_cons rfl, List.map_append]

theorem empty_mem_tokens_of_head {text : List Char}
    (h : text.head? = some '_') : "" ∈ tokens (String.ofList text) := by
  obtain ⟨rest, rfl⟩ := List.head?_eq_some_iff.mp h
  simp [tokens, fieldsBy]

/-- An underscore at an end, or two in a row, leaves an empty token. -/
theorem wellSeparated_of_tokens {name : String}
    (htokens : ∀ token ∈ tokens name, token ≠ "") : WellSeparated name := by
  constructor
  · intro hhead
    have hempty := empty_mem_tokens_of_head hhead
    rw [String.ofList_toList] at hempty
    exact htokens "" hempty rfl
  · intro hlast
    obtain ⟨front, hfront⟩ := List.getLast?_eq_some_iff.mp hlast
    refine htokens "" ?_ rfl
    rw [tokens_of_toList_eq hfront]
    exact List.mem_append_right _ List.mem_cons_self
  · rintro ⟨before, after, hboth⟩
    have hbetween : name.toList = before ++ '_' :: ('_' :: after) := by
      simp [← hboth]
    refine htokens "" ?_ rfl
    rw [tokens_of_toList_eq hbetween]
    exact List.mem_append_right _ (empty_mem_tokens_of_head rfl)

end VulkanRegistry.Text
