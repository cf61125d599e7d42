import VulkanRegistry.Text.LetterCase

/-!
# Letter case is unambiguous

No character is both lower-case and upper-case.  Comparing the bounds of two
runs is not enough, because small letters and capitals alternate in many
alphabets: there the runs interlock, one with the even code points and one with
the odd ones.
-/

namespace VulkanRegistry.Text

/-- A member of a table lies on one of its runs. -/
theorem exists_run_of_onRuns {table : List (Nat × Nat × Nat)} {n : Nat}
    (h : onRuns table n = true) :
    ∃ run ∈ table, run.1 ≤ n ∧ n ≤ run.2.1 ∧ (n - run.1) % run.2.2 = 0 := by
  induction table with
  | nil => simp [onRuns] at h
  | cons run rest ih =>
      obtain ⟨first, last, step⟩ := run
      rw [onRuns] at h
      split at h
      · simp at h
      · rename_i hfirst
        split at h
        · rename_i hlast
          have hstep : (n - first) % step = 0 := by simpa using h
          exact ⟨(first, last, step), by simp, by omega, hlast, hstep⟩
        · obtain ⟨run, hmem, hrun⟩ := ih h
          exact ⟨run, List.mem_cons_of_mem _ hmem, hrun⟩

/-- Whether all code points on a run are even or all are odd. -/
def hasOneParity (run : Nat × Nat × Nat) : Bool :=
  run.2.2 == 2 || run.1 == run.2.1

/-- Whether two runs lie apart or interlock. -/
def areDisjoint (left right : Nat × Nat × Nat) : Bool :=
  Nat.blt left.2.1 right.1 || Nat.blt right.2.1 left.1 ||
    (hasOneParity left && hasOneParity right && left.1 % 2 != right.1 % 2)

theorem mod_two_of_hasOneParity {run : Nat × Nat × Nat} {n : Nat}
    (h : hasOneParity run = true) (hfirst : run.1 ≤ n) (hlast : n ≤ run.2.1)
    (hstep : (n - run.1) % run.2.2 = 0) : n % 2 = run.1 % 2 := by
  simp only [hasOneParity, Bool.or_eq_true, beq_iff_eq] at h
  rcases h with htwo | hsingle
  · rw [htwo] at hstep
    omega
  · omega

theorem areDisjoint_lowerRuns_upperRuns :
    (lowerRuns.all fun lower => upperRuns.all (areDisjoint lower)) = true := by
  decide +kernel

theorem not_isUpper_of_isLower {c : Char} (h : isLower c = true) :
    isUpper c = false := by
  rw [Bool.eq_false_iff]
  intro hcapital
  obtain ⟨lower, hlower, hbegin, hend, hstep⟩ := exists_run_of_onRuns h
  obtain ⟨upper, hupper, hbegin', hend', hstep'⟩ :=
    exists_run_of_onRuns hcapital
  have hall := List.all_eq_true.mp areDisjoint_lowerRuns_upperRuns lower hlower
  have hdisjoint := List.all_eq_true.mp hall upper hupper
  simp only [areDisjoint, Bool.or_eq_true, Nat.blt_eq, Bool.and_eq_true,
    bne_iff_ne] at hdisjoint
  rcases hdisjoint with (hbelow | habove) | ⟨⟨hlowerParity, hupperParity⟩, hne⟩
  · omega
  · omega
  · have hmod := mod_two_of_hasOneParity hlowerParity hbegin hend hstep
    have hmod' := mod_two_of_hasOneParity hupperParity hbegin' hend' hstep'
    exact hne (hmod.symm.trans hmod')

theorem not_isLower_of_isUpper {c : Char} (h : isUpper c = true) :
    isLower c = false := by
  rw [Bool.eq_false_iff]
  intro hsmall
  rw [not_isUpper_of_isLower hsmall] at h
  cases h

end VulkanRegistry.Text
