import VulkanRegistry.Text.Field

/-!
# Cuts at given places

A cut divides a list into non-empty pieces that end exactly at given places.
There is at most one such cut, whatever algorithm finds it.
-/

namespace VulkanRegistry.Text

section Cuts

variable {α : Type} {endsAt : Nat → Prop} {run : List α} {piece : List α}
  {pieces others : List (List α)} {count : Nat}

/-- Whether the first `count` elements are made up of whole pieces. -/
def EndsAfter (pieces : List (List α)) (count : Nat) : Prop :=
  ∃ front back, pieces = front ++ back ∧ front.flatten.length = count

/-- Non-empty pieces that make up a list and end exactly at the given places,
where place `j` lies between the elements `j` and `j + 1`. -/
structure IsCut (endsAt : Nat → Prop) (run : List α)
    (pieces : List (List α)) : Prop where
  flatten : pieces.flatten = run
  nonempty : ∀ piece ∈ pieces, piece ≠ []
  ends : ∀ j, j + 1 < run.length → (EndsAfter pieces (j + 1) ↔ endsAt j)

theorem endsAfter_zero (pieces : List (List α)) : EndsAfter pieces 0 :=
  ⟨[], pieces, rfl, rfl⟩

theorem endsAfter_cons_iff :
    EndsAfter (piece :: pieces) (piece.length + count) ↔
      EndsAfter pieces count := by
  constructor
  · rintro ⟨front, back, hsplit, hlength⟩
    cases front with
    | nil =>
        have hzero : count = 0 := by
          simp only [List.flatten_nil, List.length_nil] at hlength
          omega
        rw [hzero]
        exact endsAfter_zero pieces
    | cons first front =>
        obtain ⟨rfl, rfl⟩ := List.cons.inj hsplit
        rw [List.flatten_cons, List.length_append] at hlength
        exact ⟨front, back, rfl, by omega⟩
  · rintro ⟨front, back, rfl, hlength⟩
    refine ⟨piece :: front, back, rfl, ?_⟩
    rw [List.flatten_cons, List.length_append, hlength]

/-- No piece ends within the first one. -/
theorem length_le_of_endsAfter (h : EndsAfter (piece :: pieces) count)
    (hcount : count ≠ 0) : piece.length ≤ count := by
  obtain ⟨front, back, hsplit, rfl⟩ := h
  cases front with
  | nil => exact absurd rfl hcount
  | cons first front =>
      obtain ⟨rfl, -⟩ := List.cons.inj hsplit
      rw [List.flatten_cons, List.length_append]
      exact Nat.le_add_right _ _

namespace IsCut

theorem tail (h : IsCut endsAt run (piece :: pieces)) :
    IsCut (fun j => endsAt (piece.length + j)) pieces.flatten pieces where
  flatten := rfl
  nonempty := (List.forall_mem_cons.mp h.nonempty).2
  ends := by
    intro j hj
    have hplace : piece.length + j + 1 < run.length := by
      rw [← h.flatten, List.flatten_cons, List.length_append]
      omega
    rw [← h.ends _ hplace, Nat.add_assoc, endsAfter_cons_iff]

/-- The first piece of a cut ends at the first of the given places. -/
theorem length_head_le {other : List α}
    (h : IsCut endsAt run (piece :: pieces))
    (hother : IsCut endsAt run (other :: others)) :
    other.length ≤ piece.length := by
  apply Nat.le_of_not_lt
  intro hlonger
  obtain ⟨hnonempty, -⟩ := List.forall_mem_cons.mp h.nonempty
  have hpositive : 0 < piece.length := List.length_pos_iff.mpr hnonempty
  have hplace : piece.length - 1 + 1 = piece.length :=
    Nat.sub_add_cancel hpositive
  have hwithin : piece.length - 1 + 1 < run.length := by
    rw [← hother.flatten, List.flatten_cons, List.length_append]
    omega
  have hends : EndsAfter (piece :: pieces) (piece.length - 1 + 1) := by
    rw [hplace]
    exact endsAfter_cons_iff.mpr (endsAfter_zero pieces)
  have hsame := (hother.ends _ hwithin).mpr ((h.ends _ hwithin).mp hends)
  rw [hplace] at hsame
  have hshorter := length_le_of_endsAfter hsame (Nat.ne_of_gt hpositive)
  exact Nat.not_lt_of_le hshorter hlonger

theorem eq_nil_iff (h : IsCut endsAt run pieces) : pieces = [] ↔ run = [] := by
  rw [← h.flatten]
  cases pieces with
  | nil => simp
  | cons piece pieces =>
      obtain ⟨hnonempty, -⟩ := List.forall_mem_cons.mp h.nonempty
      simp [hnonempty]

/-- The places determine the cut. -/
theorem unique (h : IsCut endsAt run pieces)
    (hother : IsCut endsAt run others) : pieces = others := by
  induction pieces generalizing endsAt run others with
  | nil => exact (hother.eq_nil_iff.mpr (h.eq_nil_iff.mp rfl)).symm
  | cons piece pieces ih =>
      cases others with
      | nil => exact h.eq_nil_iff.mpr (hother.eq_nil_iff.mp rfl)
      | cons other others =>
          have hlength : piece.length = other.length :=
            Nat.le_antisymm (hother.length_head_le h) (h.length_head_le hother)
          have hflatten : piece ++ pieces.flatten = other ++ others.flatten :=
            h.flatten.trans hother.flatten.symm
          obtain ⟨rfl, hrest⟩ := List.append_inj hflatten hlength
          have htail := h.tail
          rw [hrest] at htail
          rw [ih htail hother.tail]

end IsCut

end Cuts

section Extend

variable {endsAt : Nat → Prop} {c next : Char} {rest : List Char}
  {pieces : List (List Char)}

/-- A cut with a further character in front, after which a piece ends. -/
theorem IsCut.cons_ending
    (h : IsCut (fun j => endsAt (j + 1)) (next :: rest) pieces)
    (hends : endsAt 0) :
    IsCut endsAt (c :: next :: rest) ([c] :: pieces) where
  flatten := by rw [List.flatten_cons, h.flatten, List.singleton_append]
  nonempty := List.forall_mem_cons.mpr ⟨List.cons_ne_nil c [], h.nonempty⟩
  ends := by
    intro j hj
    have hfirst : EndsAfter ([c] :: pieces) ([c].length + j) ↔
        EndsAfter pieces j := endsAfter_cons_iff
    rw [Nat.add_comm j 1]
    refine hfirst.trans ?_
    cases j with
    | zero => exact iff_of_true (endsAfter_zero pieces) hends
    | succ j => exact h.ends j (Nat.lt_of_succ_lt_succ hj)

/-- A cut with a further character in front that joins the first piece. -/
theorem IsCut.cons_joining
    (h : IsCut (fun j => endsAt (j + 1)) (next :: rest) pieces)
    (hends : ¬endsAt 0) :
    IsCut endsAt (c :: next :: rest) (consField c pieces) := by
  cases pieces with
  | nil => exact absurd (h.eq_nil_iff.mp rfl) (List.cons_ne_nil next rest)
  | cons piece pieces =>
      obtain ⟨hnonempty, hothers⟩ := List.forall_mem_cons.mp h.nonempty
      have hpositive : 0 < piece.length := List.length_pos_iff.mpr hnonempty
      have hlength : (c :: piece).length = piece.length + 1 := rfl
      refine ⟨?_, ?_, ?_⟩
      · rw [flatten_consField, h.flatten]
      · exact List.forall_mem_cons.mpr ⟨List.cons_ne_nil c piece, hothers⟩
      · intro j hj
        rw [consField]
        cases j with
        | zero =>
            refine iff_of_false ?_ hends
            intro hfirst
            have hshort := length_le_of_endsAfter hfirst (by omega)
            omega
        | succ j =>
            rw [← h.ends j (Nat.lt_of_succ_lt_succ hj)]
            by_cases hwithin : j + 1 < piece.length
            · refine iff_of_false ?_ ?_
              · intro hlonger
                have := length_le_of_endsAfter hlonger (by omega)
                omega
              · intro hshorter
                have := length_le_of_endsAfter hshorter (by omega)
                omega
            · obtain ⟨count, hcount⟩ :=
                Nat.exists_eq_add_of_le (Nat.le_of_not_lt hwithin)
              have hfurther : j + 1 + 1 = (c :: piece).length + count := by
                omega
              rw [hfurther, hcount, endsAfter_cons_iff, endsAfter_cons_iff]

end Extend

end VulkanRegistry.Text
