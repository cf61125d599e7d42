import VulkanRegistry.Naming.TypeName
import VulkanRegistry.Proofs.Text.Replacement

/-!
# Type names are normal forms

A type name is what is left when all copies of `Vk` in front are gone, and the
type name of a flag set has no `FlagBits` either.  Deriving a type name again
changes nothing.  The two steps can be done in either order: `Vk` shares no
character with `FlagBits` or `Flags`, so a replacement neither makes nor breaks
a `Vk` in front, and stripping takes nothing that is replaced.
-/

namespace VulkanRegistry.Naming

open Text

/-! ## Copies of `Vk` -/

/-- The name `rest` with copies of `Vk` in front of it, where `rest` has none
left in front. -/
def Strips (name rest : String) : Prop :=
  (∃ copies, name = String.join (List.replicate copies "Vk") ++ rest) ∧
    ¬"Vk".toList <+: rest.toList

theorem stripVk_of_not_isPrefix {name : List Char} (h : ¬['V', 'k'] <+: name) :
    stripVk name = name := by
  rw [stripVk]
  rintro rest rfl
  exact h (List.prefix_append ['V', 'k'] rest)

theorem not_prefix_stripVk (name : List Char) :
    ¬['V', 'k'] <+: stripVk name := by
  fun_induction stripVk name with
  | case1 rest ih => exact ih
  | case2 name hnone =>
      rintro ⟨rest, rfl⟩
      exact hnone rest rfl

theorem exists_copies_stripVk (name : List Char) :
    ∃ copies, name =
      (List.replicate copies ['V', 'k']).flatten ++ stripVk name := by
  fun_induction stripVk name with
  | case1 rest ih =>
      obtain ⟨copies, hcopies⟩ := ih
      refine ⟨copies + 1, ?_⟩
      rw [List.replicate_succ, List.flatten_cons, List.append_assoc, ← hcopies]
      rfl
  | case2 name hnone => exact ⟨0, rfl⟩

theorem stripVk_copies_append (copies : Nat) (rest : List Char) :
    stripVk ((List.replicate copies ['V', 'k']).flatten ++ rest) =
      stripVk rest := by
  induction copies with
  | zero => rfl
  | succ copies ih =>
      rw [List.replicate_succ, List.flatten_cons, List.append_assoc]
      exact ih

theorem toList_join_copies (copies : Nat) :
    (String.join (List.replicate copies "Vk")).toList =
      (List.replicate copies ['V', 'k']).flatten := by
  rw [String.toList_join, List.flatMap_replicate]
  rfl

theorem toList_typeName (name : String) :
    (typeName name).toList = stripVk name.toList :=
  String.toList_ofList

/-- The type name is all that can be left of a name. -/
theorem strips_iff {name rest : String} :
    Strips name rest ↔ typeName name = rest := by
  constructor
  · rintro ⟨⟨copies, rfl⟩, hnone⟩
    rw [typeName, String.toList_append, toList_join_copies,
      stripVk_copies_append, stripVk_of_not_isPrefix hnone,
      String.ofList_toList]
  · rintro rfl
    obtain ⟨copies, hcopies⟩ := exists_copies_stripVk name.toList
    refine ⟨⟨copies, ?_⟩, ?_⟩
    · apply String.toList_injective
      rw [String.toList_append, toList_join_copies, toList_typeName]
      exact hcopies
    · rw [toList_typeName]
      exact not_prefix_stripVk name.toList

/-! ## Flags for flag bits -/

/-- A name with `Flags` in place of every `FlagBits`. -/
def NamesFlags (name replaced : String) : Prop :=
  Replaces "FlagBits".toList "Flags".toList name.toList replaced.toList

/-- A type name of a flag set that no derivation changes. -/
structure IsFlagsName (name : String) : Prop where
  bits : ¬"FlagBits".toList <:+: name.toList
  stripped : ¬"Vk".toList <+: name.toList

/-- The characters of a name with `Flags` in place of every `FlagBits`. -/
def nameFlags (name : List Char) : List Char :=
  replaceAll "FlagBits".toList "Flags".toList name

theorem prefix_nameFlags_iff {name : List Char} :
    ['V', 'k'] <+: nameFlags name ↔ ['V', 'k'] <+: name :=
  prefix_replaceAll_iff (by decide)

theorem not_infix_nameFlags (name : List Char) :
    ¬"FlagBits".toList <:+: nameFlags name :=
  not_infix_replaceAll (by decide) (by decide) (by decide)
    (by decide) name

theorem nameFlags_of_not_infix {name : List Char}
    (h : ¬"FlagBits".toList <:+: name) : nameFlags name = name :=
  replaceAll_of_not_infix h

theorem nameFlags_vk_append (rest : List Char) :
    nameFlags ('V' :: 'k' :: rest) = 'V' :: 'k' :: nameFlags rest := by
  have hkept : 'F' ∉ ['V', 'k'] := by decide
  exact replaceAll_append_of_not_mem hkept rest

/-- Stripping and replacing can change places. -/
theorem stripVk_nameFlags (name : List Char) :
    stripVk (nameFlags name) = nameFlags (stripVk name) := by
  fun_induction stripVk name with
  | case1 rest ih => rw [nameFlags_vk_append, stripVk, ih]
  | case2 name hnone =>
      apply stripVk_of_not_isPrefix
      rw [prefix_nameFlags_iff]
      rintro ⟨rest, rfl⟩
      exact hnone rest rfl

theorem namesFlags_iff {name replaced : String} :
    NamesFlags name replaced ↔ nameFlags name.toList = replaced.toList :=
  replaces_iff (by decide)

theorem toList_flagSetTypeName (name : String) :
    (flagSetTypeName name).toList = nameFlags (stripVk name.toList) := by
  rw [← toList_typeName]
  exact String.toList_ofList

theorem isFlagsName_flagSetTypeName (name : String) :
    IsFlagsName (flagSetTypeName name) where
  bits := by
    rw [toList_flagSetTypeName]
    exact not_infix_nameFlags _
  stripped := by
    rw [toList_flagSetTypeName]
    exact mt prefix_nameFlags_iff.mp (not_prefix_stripVk name.toList)

theorem IsFlagsName.typeName_eq {name : String} (h : IsFlagsName name) :
    typeName name = name := by
  rw [typeName, stripVk_of_not_isPrefix h.stripped, String.ofList_toList]

theorem IsFlagsName.flagSetTypeName_eq {name : String} (h : IsFlagsName name) :
    flagSetTypeName name = name := by
  apply String.toList_injective
  rw [toList_flagSetTypeName, stripVk_of_not_isPrefix h.stripped,
    nameFlags_of_not_infix h.bits]

/-- A name with its flag bits replaced has the type name of the flag set. -/
theorem typeName_of_namesFlags {name replaced : String}
    (h : NamesFlags name replaced) :
    typeName replaced = flagSetTypeName name := by
  apply String.toList_injective
  rw [toList_typeName, ← namesFlags_iff.mp h, stripVk_nameFlags,
    toList_flagSetTypeName]

/-- A type name is the one rest of a name without `Vk` in front.  The type name
of a flag set is the type name with its flag bits replaced, has neither
`FlagBits` in it nor `Vk` in front, and stays as it is when it is derived again.
Replacing first and then stripping gives the same. -/
theorem typeName_flagSetTypeName_normal (name : String) :
    (∀ rest, Strips name rest ↔ typeName name = rest) ∧
      NamesFlags (typeName name) (flagSetTypeName name) ∧
      IsFlagsName (flagSetTypeName name) ∧
      typeName (flagSetTypeName name) = flagSetTypeName name ∧
      flagSetTypeName (flagSetTypeName name) = flagSetTypeName name ∧
      ∃ replaced, (∀ other, NamesFlags name other ↔ other = replaced) ∧
        typeName replaced = flagSetTypeName name := by
  have hnormal := isFlagsName_flagSetTypeName name
  have hreplaced : NamesFlags name (String.ofList (nameFlags name.toList)) :=
    namesFlags_iff.mpr String.toList_ofList.symm
  have hunique : ∀ other, NamesFlags name other ↔
      other = String.ofList (nameFlags name.toList) := by
    intro other
    rw [namesFlags_iff, ← String.toList_inj, String.toList_ofList]
    exact eq_comm
  refine ⟨fun _ => strips_iff, ?_, hnormal, hnormal.typeName_eq,
    hnormal.flagSetTypeName_eq, _, hunique, typeName_of_namesFlags hreplaced⟩
  rw [namesFlags_iff, toList_typeName, toList_flagSetTypeName]

/-- Pieces of the pattern around an occurrence do not join to another one. -/
example : flagSetTypeName "VkVkFlagFlagBitsBitsVkFlagBits" =
    "FlagFlagsBitsVkFlags" := by
  decide +kernel

end VulkanRegistry.Naming
