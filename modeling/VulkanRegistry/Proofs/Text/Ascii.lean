import Mathlib.Data.List.Basic
import VulkanRegistry.Text.Alphanumeric
import VulkanRegistry.Text.CaseMapping

/-!
# The classes of ASCII characters

On ASCII the tables of Unicode say what the character predicates of the
standard library say, and letter case maps one character to one.
-/

namespace VulkanRegistry.Text

/-! ## Letters and digits by code point -/

section CodePoints

variable {c : Char}

theorem char_isUpper_iff : c.isUpper ↔ 65 ≤ c.toNat ∧ c.toNat ≤ 90 := by
  change decide (65 ≤ c.val ∧ c.val ≤ 90) = true ↔ _
  rw [decide_eq_true_iff, UInt32.le_iff_toNat_le, UInt32.le_iff_toNat_le]
  rfl

theorem char_isLower_iff : c.isLower ↔ 97 ≤ c.toNat ∧ c.toNat ≤ 122 := by
  change (decide (97 ≤ c.val) && decide (c.val ≤ 122)) = true ↔ _
  rw [Bool.and_eq_true, decide_eq_true_iff, decide_eq_true_iff,
    UInt32.le_iff_toNat_le, UInt32.le_iff_toNat_le]
  rfl

theorem char_isDigit_iff : c.isDigit ↔ 48 ≤ c.toNat ∧ c.toNat ≤ 57 :=
  Char.isDigit_iff_toNat

theorem char_isAlphanum_iff :
    c.isAlphanum ↔ (c.isUpper ∨ c.isLower) ∨ c.isDigit := by
  change (c.isUpper || c.isLower || c.isDigit) = true ↔ _
  rw [Bool.or_eq_true, Bool.or_eq_true]

theorem ascii_of_isAlphanum (hc : c.isAlphanum) : c.toNat < 128 := by
  rw [char_isAlphanum_iff, char_isUpper_iff, char_isLower_iff,
    char_isDigit_iff] at hc
  omega

end CodePoints

/-! ## The tables on ASCII -/

/-- What the first 128 code points satisfy, every ASCII character does. -/
theorem of_forall_ascii {P : Char → Prop}
    (hP : ∀ n : Fin 128, P (Char.ofNat n)) {c : Char} (hc : c.toNat < 128) :
    P c := by
  have hpoint := hP ⟨c.toNat, hc⟩
  rwa [Char.ofNat_toNat] at hpoint

section Tables

variable {c : Char}

/-- What the tables say of an ASCII character. -/
theorem tables_of_ascii (hc : c.toNat < 128) :
    isLower c = c.isLower ∧ isUpper c = c.isUpper ∧
      isAlphanumeric c = c.isAlphanum ∧ upperChar c = [c.toUpper] := by
  revert hc
  apply of_forall_ascii
  decide +kernel

theorem isLower_of_ascii (hc : c.toNat < 128) : isLower c = c.isLower :=
  (tables_of_ascii hc).1

theorem isUpper_of_ascii (hc : c.toNat < 128) : isUpper c = c.isUpper :=
  (tables_of_ascii hc).2.1

theorem isAlphanumeric_of_ascii (hc : c.toNat < 128) :
    isAlphanumeric c = c.isAlphanum :=
  (tables_of_ascii hc).2.2.1

theorem upperChar_of_ascii (hc : c.toNat < 128) :
    upperChar c = [c.toUpper] :=
  (tables_of_ascii hc).2.2.2

/-- Raising an ASCII character makes no underscore and leaves capitals as they
are. -/
theorem toUpper_of_ascii (hc : c.toNat < 128) :
    (c.isAlphanum → c.toUpper ≠ '_') ∧ (c.isUpper → c.toUpper = c) := by
  revert hc
  apply of_forall_ascii
  decide +kernel

theorem toUpper_ne_underscore (hc : c.isAlphanum) : c.toUpper ≠ '_' :=
  (toUpper_of_ascii (ascii_of_isAlphanum hc)).1 hc

theorem toUpper_of_isUpper (hc : c.isUpper) : c.toUpper = c := by
  have hascii : c.toNat < 128 := by
    rw [char_isUpper_iff] at hc
    omega
  exact (toUpper_of_ascii hascii).2 hc

end Tables

/-- An ASCII text in capitals is the text with its small letters raised. -/
theorem upper_ofList_of_isAlphanum {text : List Char}
    (htext : ∀ c ∈ text, c.isAlphanum) :
    upper (String.ofList text) = String.ofList (text.map Char.toUpper) := by
  have himage : text.flatMap upperChar = text.map Char.toUpper := by
    rw [List.map_eq_flatMap]
    apply List.flatMap_congr
    intro c hc
    exact upperChar_of_ascii (ascii_of_isAlphanum (htext c hc))
  rw [upper, String.toList_ofList, himage]

end VulkanRegistry.Text
