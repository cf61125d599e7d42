import VulkanRegistry.Proofs.Text.Token

/-!
# Maximal runs

The maximal runs of a text are told apart by the gaps between them: no gap
holds an accepted character, no run a rejected one, and a run goes on as long as
accepted characters follow.  This determines the runs, and they are the
non-empty fields between the rejected characters.
-/

namespace VulkanRegistry.Text

variable {accepts : Char → Bool} {text : List Char}

/-- The maximal runs of accepted characters in a text, in their order. -/
inductive MaximalRuns (accepts : Char → Bool) :
    List Char → List (List Char) → Prop where
  | none {gap : List Char} (hgap : ∀ c ∈ gap, accepts c = false) :
      MaximalRuns accepts gap []
  | next {gap run rest : List Char} {runs : List (List Char)}
      (hgap : ∀ c ∈ gap, accepts c = false)
      (hnonempty : run ≠ []) (hrun : ∀ c ∈ run, accepts c = true)
      (hstop : ∀ c ∈ rest.head?, accepts c = false)
      (hrest : MaximalRuns accepts rest runs) :
      MaximalRuns accepts (gap ++ run ++ rest) (run :: runs)

theorem runsOf_gap_append {gap : List Char}
    (hgap : ∀ c ∈ gap, accepts c = false) (rest : List Char) :
    runsOf accepts (gap ++ rest) = runsOf accepts rest := by
  induction gap with
  | nil => rfl
  | cons c gap ih =>
      obtain ⟨hc, hothers⟩ := List.forall_mem_cons.mp hgap
      have hrest := ih hothers
      rw [runsOf] at hrest ⊢
      simp [fieldsBy, hc, hrest, runsOf]

theorem runsOf_run_append {run rest : List Char} (hnonempty : run ≠ [])
    (hrun : ∀ c ∈ run, accepts c = true)
    (hstop : ∀ c ∈ rest.head?, accepts c = false) :
    runsOf accepts (run ++ rest) = run :: runsOf accepts rest := by
  cases rest with
  | nil =>
      rw [List.append_nil, runsOf_eq_singleton hnonempty hrun]
      rfl
  | cons stop rest =>
      have hstopped : accepts stop = false := hstop stop rfl
      have hfields : fieldsBy (fun c => !accepts c) (run ++ stop :: rest) =
          run :: fieldsBy (fun c => !accepts c) rest := by
        apply fieldsBy_append_separator
        · intro c hc
          simp [hrun c hc]
        · simp [hstopped]
      simp [runsOf, hfields, hnonempty, fieldsBy, hstopped]

/-- A rejected character in front makes the first gap longer. -/
theorem MaximalRuns.cons_rejected {c : Char} {runs : List (List Char)}
    (h : MaximalRuns accepts text runs) (hc : accepts c = false) :
    MaximalRuns accepts (c :: text) runs := by
  cases h with
  | none hgap => exact .none (List.forall_mem_cons.mpr ⟨hc, hgap⟩)
  | @next gap run rest runs hgap hnonempty hrun hstop hrest =>
      have hlonger : ∀ d ∈ c :: gap, accepts d = false :=
        List.forall_mem_cons.mpr ⟨hc, hgap⟩
      exact .next hlonger hnonempty hrun hstop hrest

/-- An accepted character in front begins the run that the text begins with, or
a run of its own. -/
theorem MaximalRuns.cons_accepted {c : Char} {runs : List (List Char)}
    (h : MaximalRuns accepts text runs) (hc : accepts c = true) :
    ∃ more, MaximalRuns accepts (c :: text) more := by
  have hempty : ∀ d ∈ ([] : List Char), accepts d = false := by simp
  by_cases hstop : ∀ d ∈ text.head?, accepts d = false
  · have hrun : ∀ d ∈ [c], accepts d = true := by simpa using hc
    exact ⟨[c] :: runs, .next hempty (List.cons_ne_nil c []) hrun hstop h⟩
  · cases h with
    | none hgap =>
        refine absurd ?_ hstop
        intro d hd
        exact hgap d (List.mem_of_mem_head? hd)
    | @next gap run rest runs hgap hnonempty hrun hend hrest =>
        cases gap with
        | nil =>
            have hlonger : ∀ d ∈ c :: run, accepts d = true :=
              List.forall_mem_cons.mpr ⟨hc, hrun⟩
            exact ⟨(c :: run) :: runs, .next hempty (List.cons_ne_nil c run)
              hlonger hend hrest⟩
        | cons d gap =>
            refine absurd ?_ hstop
            intro first hfirst
            obtain rfl : d = first := by simpa using hfirst
            exact hgap d List.mem_cons_self

theorem exists_maximalRuns (accepts : Char → Bool) (text : List Char) :
    ∃ runs, MaximalRuns accepts text runs := by
  induction text with
  | nil => exact ⟨[], MaximalRuns.none (by simp)⟩
  | cons c rest ih =>
      obtain ⟨runs, hruns⟩ := ih
      cases hc : accepts c with
      | false => exact ⟨runs, hruns.cons_rejected hc⟩
      | true => exact hruns.cons_accepted hc

/-- The runs of a text are its maximal runs, and no other runs are. -/
theorem maximalRuns_iff {runs : List (List Char)} :
    MaximalRuns accepts text runs ↔ runs = runsOf accepts text := by
  have hunique : ∀ runs, MaximalRuns accepts text runs →
      runs = runsOf accepts text := by
    intro runs h
    induction h with
    | @none gap hgap =>
        have hruns := runsOf_gap_append hgap []
        rw [List.append_nil] at hruns
        rw [hruns]
        rfl
    | next hgap hnonempty hrun hstop _ ih =>
        rw [List.append_assoc, runsOf_gap_append hgap,
          runsOf_run_append hnonempty hrun hstop, ih]
  constructor
  · exact hunique runs
  · rintro rfl
    obtain ⟨found, hfound⟩ := exists_maximalRuns accepts text
    rwa [← hunique found hfound]

/-- Runs that are joined at a rejected character are found again. -/
theorem runsOf_intercalate {separator : Char}
    (hseparator : accepts separator = false) {runs : List (List Char)}
    (hruns : ∀ run ∈ runs, run ≠ [] ∧ ∀ c ∈ run, accepts c = true) :
    runsOf accepts ([separator].intercalate runs) = runs := by
  by_cases hnonempty : runs = []
  · subst hnonempty
    rfl
  · have hfields : fieldsBy (fun c => !accepts c)
        ([separator].intercalate runs) = runs := by
      apply fieldsBy_intercalate _ hnonempty
      · intro run hrun c hc
        simp [(hruns run hrun).2 c hc]
      · simp [hseparator]
    rw [runsOf, hfields, List.filter_eq_self]
    intro run hrun
    simp [(hruns run hrun).1]

/-- A maximal run stands in one piece in the text. -/
theorem isInfix_of_mem_runsOf {run : List Char}
    (h : run ∈ runsOf accepts text) :
    run <:+: text ∧ ∀ c ∈ run, accepts c = true := by
  have hruns : MaximalRuns accepts text (runsOf accepts text) :=
    maximalRuns_iff.mpr rfl
  generalize runsOf accepts text = runs at h hruns
  induction hruns with
  | none => cases h
  | @next gap first rest runs _ _ hrun _ _ ih =>
      rcases List.mem_cons.mp h with rfl | hmem
      · exact ⟨⟨gap, rest, rfl⟩, hrun⟩
      · obtain ⟨hinside, haccepted⟩ := ih hmem
        have hsuffix : rest <:+ gap ++ first ++ rest := List.suffix_append _ _
        exact ⟨hinside.trans hsuffix.isInfix, haccepted⟩

theorem flatten_runsOf (accepts : Char → Bool) (text : List Char) :
    (runsOf accepts text).flatten = text.filter accepts := by
  rw [runsOf, List.flatten_filter_not_isEmpty, flatten_fieldsBy]
  simp

end VulkanRegistry.Text
