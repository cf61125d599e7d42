import VulkanRegistry.Proofs.Text.Cell
import VulkanRegistry.Proofs.Text.Run

/-!
# Words between blanks

The words of a line are its maximal runs of characters that are not blank.  A
blank parts the words before it from those after it, so padding and trimming
change the words of no line.
-/

namespace VulkanRegistry.Text

/-- A text without blanks. -/
def IsBlankFree (text : String) : Prop :=
  ∀ c ∈ text.toList, isBlank c = false

instance : DecidablePred IsBlankFree := fun text =>
  List.decidableBAll (fun c => isBlank c = false) text.toList

theorem IsBlankFree.newline_not_mem {text : String} (h : IsBlankFree text) :
    '\n' ∉ text.toList := by
  intro hmem
  have hblank := h '\n' hmem
  revert hblank
  decide

theorem newline_not_mem_padEnd {text : String} (h : '\n' ∉ text.toList)
    (width : Nat) : '\n' ∉ (padEnd width text).toList := by
  rw [toList_padEnd, List.mem_append, not_or]
  exact ⟨h, newline_not_mem_spaces _⟩

/-! ## Trimmed texts -/

/-- Only blanks at the end are trimmed. -/
theorem exists_blanks_of_trimEnd (text : String) :
    ∃ blanks, text.toList = (trimEnd text).toList ++ blanks ∧
      ∀ c ∈ blanks, isBlank c = true := by
  refine ⟨text.toList.rtakeWhile isBlank, ?_, ?_⟩
  · rw [toList_trimEnd_eq, List.rdropWhile_append_rtakeWhile]
  · intro c hc
    exact List.mem_rtakeWhile_imp hc

theorem mem_of_mem_trimEnd {text : String} {c : Char}
    (hc : c ∈ (trimEnd text).toList) : c ∈ text.toList := by
  rw [toList_trimEnd_eq] at hc
  exact (List.rdropWhile_prefix isBlank text.toList).subset hc

/-- No trimmed text ends in a blank. -/
theorem isBlank_getLast?_trimEnd (text : String) :
    ∀ c ∈ (trimEnd text).toList.getLast?, isBlank c = false := by
  intro c hc
  rw [toList_trimEnd_eq] at hc
  have hnonempty : text.toList.rdropWhile isBlank ≠ [] := by
    rintro hempty
    simp [hempty] at hc
  have hlast := List.rdropWhile_last_not isBlank text.toList hnonempty
  rw [List.getLast?_eq_some_getLast hnonempty] at hc
  cases hc
  simpa using hlast

/-! ## Words -/

/-- The words of a line. -/
def wordsOf (text : List Char) : List (List Char) :=
  runsOf (fun c => !isBlank c) text

theorem wordsOf_append_blank {c : Char} (hc : isBlank c = true)
    (before after : List Char) :
    wordsOf (before ++ c :: after) = wordsOf before ++ wordsOf after := by
  rw [wordsOf, runsOf, fieldsBy_append_cons (by simpa using hc),
    List.filter_append]
  rfl

theorem wordsOf_blanks_append {blanks : List Char}
    (h : ∀ c ∈ blanks, isBlank c = true) (text : List Char) :
    wordsOf (blanks ++ text) = wordsOf text := by
  apply runsOf_gap_append
  intro c hc
  rw [h c hc]
  rfl

/-- Words do not reach over a place where a blank follows. -/
theorem wordsOf_append {text rest : List Char}
    (h : ∀ c ∈ rest.head?, isBlank c = true) :
    wordsOf (text ++ rest) = wordsOf text ++ wordsOf rest := by
  rcases rest with _ | ⟨c, rest⟩
  · rw [List.append_nil]
    exact (List.append_nil _).symm
  · have hc : isBlank c = true := h c rfl
    have hcons : wordsOf ([c] ++ rest) = wordsOf rest :=
      wordsOf_blanks_append (by simpa using hc) rest
    rw [wordsOf_append_blank hc, ← hcons, List.singleton_append]

theorem wordsOf_append_blanks {blanks : List Char}
    (h : ∀ c ∈ blanks, isBlank c = true) (text : List Char) :
    wordsOf (text ++ blanks) = wordsOf text := by
  have hblanks : wordsOf (blanks ++ []) = [] := wordsOf_blanks_append h []
  rw [List.append_nil] at hblanks
  rw [wordsOf_append, hblanks, List.append_nil]
  exact fun c hc => h c (List.mem_of_mem_head? hc)

theorem wordsOf_trimEnd (text : String) :
    wordsOf (trimEnd text).toList = wordsOf text.toList := by
  obtain ⟨blanks, htext, hblanks⟩ := exists_blanks_of_trimEnd text
  rw [htext, wordsOf_append_blanks hblanks]

theorem wordsOf_padEnd (width : Nat) (text : String) :
    wordsOf (padEnd width text).toList = wordsOf text.toList := by
  rw [toList_padEnd]
  exact wordsOf_append_blanks (fun _ hc => isBlank_of_mem_spaces hc) _

theorem wordsOf_word {word : List Char} (hnonempty : word ≠ [])
    (h : ∀ c ∈ word, isBlank c = false) : wordsOf word = [word] := by
  apply runsOf_eq_singleton hnonempty
  intro c hc
  rw [h c hc]
  rfl

theorem wordsOf_blankFree {text : String} (h : IsBlankFree text) :
    wordsOf text.toList = if text = "" then [] else [text.toList] := by
  split
  · rename_i hempty
    rw [hempty]
    rfl
  · rename_i hnonempty
    exact wordsOf_word (mt String.toList_eq_nil_iff.mp hnonempty) h

end VulkanRegistry.Text
