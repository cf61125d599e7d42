import VulkanRegistry.Text.Search

/-!
# Replacement

Replacement cuts a text at the occurrences of a pattern, leftmost first: what
stands before an occurrence does not complete the pattern earlier.  A
replacement may in general join its neighbours to a new occurrence.  This cannot
happen when pattern and replacement begin with one character that neither has
again: then a word without that character begins the result exactly when it
begins the text.
-/

namespace VulkanRegistry.Text

section Replacement

variable {pattern replacement : List Char}

/-- The replacement of a pattern in a text, leftmost occurrences first. -/
inductive Replaces (pattern replacement : List Char) :
    List Char → List Char → Prop where
  | none {text : List Char} (hnone : ¬pattern <:+: text) :
      Replaces pattern replacement text text
  | next (before : List Char) {rest result : List Char}
      (hfirst : ∀ front back, before ++ pattern = front ++ pattern ++ back →
        back = [])
      (hrest : Replaces pattern replacement rest result) :
      Replaces pattern replacement (before ++ pattern ++ rest)
        (before ++ replacement ++ result)

theorem replaceAll_cons_of_not_isPrefix {c : Char} {rest : List Char}
    (h : ¬pattern <+: c :: rest) :
    replaceAll pattern replacement (c :: rest) =
      c :: replaceAll pattern replacement rest := by
  rw [replaceAll, if_neg (mt List.isPrefixOf_iff_prefix.mp h)]

theorem replaceAll_pattern_append (hpattern : pattern ≠ [])
    (rest : List Char) :
    replaceAll pattern replacement (pattern ++ rest) =
      replacement ++ replaceAll pattern replacement rest := by
  obtain ⟨first, others, rfl⟩ := List.exists_cons_of_ne_nil hpattern
  have hprefix : (first :: others).isPrefixOf (first :: (others ++ rest)) :=
    List.isPrefixOf_iff_prefix.mpr (List.prefix_append _ rest)
  have hdrop : (others ++ rest).drop ((first :: others).length - 1) = rest :=
    List.drop_left
  rw [List.cons_append, replaceAll, if_pos hprefix, hdrop]

/-! ## The function and the relation -/

theorem replaceAll_of_not_infix {text : List Char} (h : ¬pattern <:+: text) :
    replaceAll pattern replacement text = text := by
  induction text with
  | nil => rw [replaceAll]
  | cons c rest ih =>
      rw [List.infix_cons_iff, not_or] at h
      rw [replaceAll_cons_of_not_isPrefix h.1, ih h.2]

/-- Nothing is replaced before the first occurrence. -/
theorem replaceAll_append_pattern (hpattern : pattern ≠ [])
    {before : List Char}
    (hfirst : ∀ front back, before ++ pattern = front ++ pattern ++ back →
      back = [])
    (rest : List Char) :
    replaceAll pattern replacement (before ++ pattern ++ rest) =
      before ++ replacement ++ replaceAll pattern replacement rest := by
  induction before with
  | nil => exact replaceAll_pattern_append hpattern rest
  | cons c before ih =>
      have hlater : ∀ front back,
          before ++ pattern = front ++ pattern ++ back → back = [] := by
        intro front back hsplit
        exact hfirst (c :: front) back (by simp [hsplit])
      have hnone : ¬pattern <+: c :: (before ++ pattern ++ rest) := by
        intro hprefix
        have hwhole : c :: before ++ pattern <+:
            c :: (before ++ pattern ++ rest) :=
          List.prefix_append _ rest
        obtain ⟨back, hback⟩ :=
          List.prefix_of_prefix_length_le hprefix hwhole (by simp; omega)
        obtain rfl : back = [] := hfirst [] back hback.symm
        have hlength := congrArg List.length hback
        simp only [List.append_nil, List.length_append, List.length_cons]
          at hlength
        omega
      rw [List.cons_append, List.cons_append,
        replaceAll_cons_of_not_isPrefix hnone, ih hlater, List.cons_append,
        List.cons_append]

/-- A further character in front that begins no occurrence is kept. -/
theorem Replaces.cons {c : Char} {text result : List Char}
    (h : Replaces pattern replacement text result)
    (hnone : ¬pattern <+: c :: text) :
    Replaces pattern replacement (c :: text) (c :: result) := by
  cases h with
  | none hrest =>
      refine .none ?_
      rw [List.infix_cons_iff]
      exact not_or.mpr ⟨hnone, hrest⟩
  | @next before rest result hfirst hrest =>
      refine .next (c :: before) ?_ hrest
      intro front back hsplit
      cases front with
      | nil =>
          refine absurd ?_ hnone
          have hbegins : pattern <+: c :: before ++ pattern :=
            ⟨back, hsplit.symm⟩
          exact hbegins.trans (List.prefix_append _ rest)
      | cons d front =>
          exact hfirst front back (List.cons.inj hsplit).2

theorem replaces_replaceAll (hpattern : pattern ≠ []) (text : List Char) :
    Replaces pattern replacement text
      (replaceAll pattern replacement text) := by
  fun_induction replaceAll pattern replacement text with
  | case1 => exact .none (by rwa [List.infix_nil])
  | case2 c rest hprefix ih =>
      obtain ⟨first, others, rfl⟩ := List.exists_cons_of_ne_nil hpattern
      obtain ⟨after, hafter⟩ := List.isPrefixOf_iff_prefix.mp hprefix
      have hrest : others ++ after = rest := (List.cons.inj hafter).2
      have hdrop : rest.drop ((first :: others).length - 1) = after := by
        rw [← hrest]
        exact List.drop_left
      rw [hdrop] at ih ⊢
      rw [← hafter]
      refine .next [] ?_ ih
      intro front back hsplit
      have hlength := congrArg List.length hsplit
      simp only [List.nil_append, List.length_append] at hlength
      exact List.length_eq_zero_iff.mp (by omega)
  | case3 c rest hnone ih =>
      exact ih.cons (mt List.isPrefixOf_iff_prefix.mpr hnone)

/-- The function finds the replacement, and there is only one. -/
theorem replaces_iff (hpattern : pattern ≠ []) {text result : List Char} :
    Replaces pattern replacement text result ↔
      replaceAll pattern replacement text = result := by
  constructor
  · intro h
    induction h with
    | none hnone => exact replaceAll_of_not_infix hnone
    | next _ hfirst _ ih => rw [replaceAll_append_pattern hpattern hfirst, ih]
  · rintro rfl
    exact replaces_replaceAll hpattern text

/-! ## No new occurrences -/

section Beginnings

variable {first : Char} {word : List Char}

/-- A word without the character that begins both pattern and replacement is not
reached by a replacement. -/
theorem prefix_replaceAll_iff (hword : first ∉ word) {text : List Char} :
    word <+: replaceAll (first :: pattern) (first :: replacement) text ↔
      word <+: text := by
  induction word generalizing text with
  | nil => simp
  | cons c word ih =>
      rw [List.mem_cons, not_or] at hword
      obtain ⟨hc, hothers⟩ := hword
      by_cases hprefix : first :: pattern <+: text
      · obtain ⟨rest, rfl⟩ := hprefix
        rw [replaceAll_pattern_append (List.cons_ne_nil _ _),
          List.cons_append, List.cons_append, List.cons_prefix_cons,
          List.cons_prefix_cons]
        exact iff_of_false (fun h => hc h.1.symm) fun h => hc h.1.symm
      · cases text with
        | nil => rw [replaceAll]
        | cons d rest =>
            rw [replaceAll_cons_of_not_isPrefix hprefix, List.cons_prefix_cons,
              List.cons_prefix_cons, ih hothers]

/-- Nothing is replaced among characters that do not begin the pattern. -/
theorem replaceAll_append_of_not_mem {kept : List Char} (hkept : first ∉ kept)
    (rest : List Char) :
    replaceAll (first :: pattern) replacement (kept ++ rest) =
      kept ++ replaceAll (first :: pattern) replacement rest := by
  induction kept with
  | nil => rfl
  | cons c kept ih =>
      rw [List.mem_cons, not_or] at hkept
      obtain ⟨hc, hothers⟩ := hkept
      have hnone : ¬first :: pattern <+: c :: (kept ++ rest) := by
        rw [List.cons_prefix_cons]
        exact fun hbegins => hc hbegins.1
      rw [List.cons_append, replaceAll_cons_of_not_isPrefix hnone, ih hothers,
        List.cons_append]

/-- An occurrence does not begin among characters that do not begin it. -/
theorem infix_append_of_not_mem {skipped : List Char}
    (hskipped : first ∉ skipped) {text : List Char}
    (h : first :: word <:+: skipped ++ text) : first :: word <:+: text := by
  induction skipped with
  | nil => exact h
  | cons c skipped ih =>
      rw [List.mem_cons, not_or] at hskipped
      obtain ⟨hc, hothers⟩ := hskipped
      rw [List.cons_append, List.infix_cons_iff, List.cons_prefix_cons] at h
      exact ih hothers (h.resolve_left fun hbegins => hc hbegins.1)

/-- Nothing is left of a pattern that is replaced by a text that begins as it
does and then differs from it. -/
theorem not_infix_replaceAll (hpattern : first ∉ pattern)
    (hreplacement : first ∉ replacement)
    (hapart : ¬pattern <+: replacement) (hshort : ¬replacement <+: pattern)
    (text : List Char) :
    ¬first :: pattern <:+:
      replaceAll (first :: pattern) (first :: replacement) text := by
  fun_induction replaceAll (first :: pattern) (first :: replacement) text with
  | case1 => simp
  | case2 c rest hprefix ih =>
      rw [List.cons_append, List.infix_cons_iff, List.cons_prefix_cons]
      rintro (⟨-, hbegins⟩ | hlater)
      · rcases List.prefix_or_prefix_of_prefix hbegins
          (List.prefix_append replacement _) with hwithin | hbeyond
        · exact hapart hwithin
        · exact hshort hbeyond
      · exact ih (infix_append_of_not_mem hreplacement hlater)
  | case3 c rest hnone ih =>
      rw [List.infix_cons_iff, List.cons_prefix_cons,
        prefix_replaceAll_iff hpattern, ← List.cons_prefix_cons]
      rintro (hbegins | hlater)
      · exact hnone (List.isPrefixOf_iff_prefix.mpr hbegins)
      · exact ih hlater

end Beginnings

end Replacement

end VulkanRegistry.Text
