import Mathlib.Data.List.Basic
import VulkanRegistry.Text.Alphanumeric
import VulkanRegistry.Text.CaseMapping

/-!
# Capitals

The upper-case form of a text has no underscore that the text itself does not
have.  No character becomes an underscore: neither the images of runs nor the
sequences of the exceptions contain its code point.

An upper-case form need not be made of capitals.  The ordinal indicator `ª`
stays a small letter, and `ΐ` becomes a capital with two combining marks, which
are not alphanumeric.  Where none of this happens, capitals stay as they are.
-/

namespace VulkanRegistry.Text

/-- The sequence found for a code point is one of the table's. -/
theorem exists_of_exceptionFor {table : List (Nat × List Nat)} {n : Nat}
    {points : List Nat} (h : exceptionFor table n = some points) :
    ∃ entry ∈ table, entry.2 = points := by
  induction table with
  | nil => simp [exceptionFor] at h
  | cons entry rest ih =>
      obtain ⟨point, image⟩ := entry
      rw [exceptionFor] at h
      split at h
      · simp at h
      · split at h
        · exact ⟨(point, image), List.mem_cons_self, Option.some.inj h⟩
        · obtain ⟨entry, hmem, hentry⟩ := ih h
          exact ⟨entry, List.mem_cons_of_mem _ hmem, hentry⟩

/-- The image found for a code point lies on the image of one of the runs. -/
theorem exists_of_imageOnRuns {table : List (Nat × Nat × Nat × Nat)}
    {n point : Nat} (h : imageOnRuns table n = some point) :
    ∃ run ∈ table, run.2.2.2 ≤ point ∧
      point ≤ run.2.2.2 + (run.2.1 - run.1) := by
  induction table with
  | nil => simp [imageOnRuns] at h
  | cons run rest ih =>
      obtain ⟨first, last, step, image⟩ := run
      rw [imageOnRuns] at h
      split at h
      · simp at h
      · split at h
        · rename_i hlast
          split at h
          · obtain rfl := Option.some.inj h
            refine ⟨(first, last, step, image), List.mem_cons_self,
              Nat.le_add_right _ _, ?_⟩
            dsimp only
            omega
          · simp at h
        · obtain ⟨run, hmem, hrun⟩ := ih h
          exact ⟨run, List.mem_cons_of_mem _ hmem, hrun⟩

theorem upperExceptions_avoid_underscore :
    (upperExceptions.all fun entry => entry.2.all (· != 95)) = true := by
  decide +kernel

theorem upperImages_avoid_underscore :
    (upperImages.all fun run =>
      Nat.blt (run.2.2.2 + (run.2.1 - run.1)) 95 ||
        Nat.blt 95 run.2.2.2) = true := by
  decide +kernel

theorem eq_of_ofNat_eq_underscore {n : Nat} (h : Char.ofNat n = '_') :
    n = 95 := by
  by_cases hvalid : n.isValidChar
  · have hpoint : (Char.ofNat n).toNat = n := by
      rw [Char.ofNat, dif_pos hvalid]
      rfl
    rw [h] at hpoint
    exact hpoint.symm
  · rw [Char.ofNat, dif_neg hvalid] at h
    cases h

theorem eq_underscore_of_mem_upperChar {c : Char} (h : '_' ∈ upperChar c) :
    c = '_' := by
  rw [upperChar, mapCase] at h
  split at h
  · rename_i points hpoints
    obtain ⟨point, hpoint, hunderscore⟩ := List.mem_map.mp h
    obtain ⟨entry, hentry, rfl⟩ := exists_of_exceptionFor hpoints
    have hall := List.all_eq_true.mp upperExceptions_avoid_underscore entry
      hentry
    have hne := List.all_eq_true.mp hall point hpoint
    rw [eq_of_ofNat_eq_underscore hunderscore] at hne
    cases hne
  · have hsingle := List.mem_singleton.mp h
    rcases himage : imageOnRuns upperImages c.toNat with _ | point
    · rw [himage] at hsingle
      exact hsingle.symm
    · rw [himage] at hsingle
      obtain ⟨run, hrun, hfirst, hlast⟩ := exists_of_imageOnRuns himage
      have hapart := List.all_eq_true.mp upperImages_avoid_underscore run hrun
      have hpoint : point = 95 := eq_of_ofNat_eq_underscore hsingle.symm
      simp only [Bool.or_eq_true, Nat.blt_eq] at hapart
      omega

theorem underscore_not_mem_upper {text : String} (h : '_' ∉ text.toList) :
    '_' ∉ (upper text).toList := by
  rw [upper, String.toList_ofList, List.mem_flatMap]
  rintro ⟨c, hc, hunderscore⟩
  rw [eq_underscore_of_mem_upperChar hunderscore] at hc
  exact h hc

/-! ## Characters with settled capitals -/

/-- A character whose upper-case form consists of alphanumeric characters, none
of them small, and is the upper-case form of itself. -/
def HasCapital (c : Char) : Prop :=
  upperChar c ≠ [] ∧
    (∀ d ∈ upperChar c, isAlphanumeric d = true ∧ isLower d = false) ∧
    (upperChar c).flatMap upperChar = upperChar c

-- The instance for lists is named: characters are finitely many, and an
-- instance that searches through all of them must not be found before it.
instance : DecidablePred HasCapital := fun c =>
  letI := List.decidableBAll
    (fun d => isAlphanumeric d = true ∧ isLower d = false) (upperChar c)
  inferInstanceAs (Decidable (_ ∧ _ ∧ _))

section Settled

variable {text : String}

theorem upper_upper (htext : ∀ c ∈ text.toList, HasCapital c) :
    upper (upper text) = upper text := by
  have hsettled : (text.toList.flatMap upperChar).flatMap upperChar =
      text.toList.flatMap upperChar := by
    rw [List.flatMap_assoc]
    apply List.flatMap_congr
    intro c hc
    exact (htext c hc).2.2
  rw [upper, upper, String.toList_ofList, hsettled]

theorem upper_ne_empty (htext : ∀ c ∈ text.toList, HasCapital c)
    (hnonempty : text ≠ "") : upper text ≠ "" := by
  obtain ⟨c, rest, hchars⟩ := List.exists_cons_of_ne_nil
    (mt String.toList_eq_nil_iff.mp hnonempty)
  have hcapital : upperChar c ≠ [] := by
    refine (htext c ?_).1
    rw [hchars]
    exact List.mem_cons_self
  rw [upper, hchars, List.flatMap_cons, ne_eq, String.ofList_eq_empty_iff,
    List.append_eq_nil_iff]
  exact fun hboth => hcapital hboth.1

theorem capital_of_mem_upper (htext : ∀ c ∈ text.toList, HasCapital c)
    {d : Char} (hd : d ∈ (upper text).toList) :
    isAlphanumeric d = true ∧ isLower d = false := by
  rw [upper, String.toList_ofList, List.mem_flatMap] at hd
  obtain ⟨c, hc, hd⟩ := hd
  exact (htext c hc).2.1 d hd

end Settled

end VulkanRegistry.Text
