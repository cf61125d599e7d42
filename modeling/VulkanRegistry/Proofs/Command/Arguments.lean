import VulkanRegistry.Command.Arguments
import VulkanRegistry.Proofs.Traversal

/-!
# Consistent arguments

Each switch that takes effect keeps the arguments consistent, so a command line
that is obeyed never asks for a listing and the detail of a group together, and
it never leaves the registry open.
-/

namespace VulkanRegistry

/-- What no order of switches can break. -/
structure Arguments.Consistent (arguments : Arguments) : Prop where
  exclusive : arguments.listEnums = true → arguments.info = .absent
  located : arguments.registry ≠ .absent

namespace Given

theorem eq_absent_of_not_isGiven {α : Type} {given : Given α}
    (h : ¬given.isGiven = true) : given = .absent := by
  cases given with
  | absent => rfl
  | bare => simp [isGiven] at h
  | value a => simp [isGiven] at h

theorem map_ne_absent {α β : Type} {f : α → β} {given : Given α}
    (h : given ≠ .absent) : given.map f ≠ .absent := by
  cases given with
  | absent => exact absurd rfl h
  | bare => simp [map]
  | value a => simp [map]

theorem ofAttached_ne_absent (text : String) :
    ofAttached text ≠ .absent := by
  rw [ofAttached]
  split <;> simp

end Given

namespace Arguments

variable {arguments next : Arguments}

theorem Consistent.give (h : arguments.Consistent) {switch : Switch}
    {given : Given String} (hgiven : given ≠ .absent)
    (hnext : arguments.give switch given = .ok next) : next.Consistent := by
  cases switch with
  | help => cases hnext
  | registry =>
      cases hnext
      exact ⟨h.exclusive, Given.map_ne_absent hgiven⟩
  | listEnums =>
      rw [Arguments.give] at hnext
      split at hnext
      · cases hnext
      · cases hnext
        have hinfo := Given.eq_absent_of_not_isGiven (by assumption)
        exact ⟨fun _ => hinfo, h.located⟩
  | info =>
      rw [Arguments.give] at hnext
      split at hnext
      · cases hnext
      · cases hnext
        exact ⟨fun hlist => absurd hlist (by assumption), h.located⟩
  | filter =>
      cases hnext
      exact ⟨h.exclusive, h.located⟩

theorem Consistent.turnOn (h : arguments.Consistent) {switch : Switch}
    {attachment : Attachment}
    (hnext : arguments.turnOn switch attachment = .ok next) :
    next.Consistent := by
  have hbare : (Given.bare : Given String) ≠ .absent := by simp
  cases attachment with
  | none => exact h.give hbare hnext
  | assigned value => cases hnext
  | joined letters =>
      rw [Arguments.turnOn] at hnext
      split at hnext
      · cases hnext
      · exact h.give hbare hnext

/-- Whatever switches follow, they leave the arguments consistent. -/
theorem Consistent.obey (h : arguments.Consistent) {extra : List String}
    {classes : List ArgumentClass}
    (hnext : arguments.obey extra classes = .ok next) :
    next.Consistent := by
  fun_induction arguments.obey extra classes with
  | case1 =>
      cases hnext
      exact h
  | case2 => cases hnext
  | case3 _ _ _ _ ih | case4 _ _ _ _ ih | case5 _ _ _ ih => exact ih h hnext
  | case6 _ _ _ _ text _ ih | case7 _ _ _ _ text _ ih =>
      obtain ⟨given, hgiven, hrest⟩ := bind_eq_ok_iff.mp hnext
      exact ih given (h.give (Given.ofAttached_ne_absent text) hgiven) hrest
  | case8 _ _ _ _ text _ ih =>
      obtain ⟨given, hgiven, hrest⟩ := bind_eq_ok_iff.mp hnext
      exact ih given (h.give (by simp) hgiven) hrest
  | case9 => cases hnext
  | case10 _ _ _ _ _ _ ih =>
      obtain ⟨given, hgiven, hrest⟩ := bind_eq_ok_iff.mp hnext
      exact ih given (h.turnOn hgiven) hrest

theorem consistent_of_parse {default : Path} {line : List String}
    (hparse : parse default line = .ok arguments) : arguments.Consistent := by
  rw [parse] at hparse
  split at hparse
  · cases hparse
  · apply Consistent.obey _ hparse
    exact ⟨by simp, by simp⟩

end Arguments

end VulkanRegistry
