import VulkanRegistry.Proofs.Naming.Shouty
import VulkanRegistry.Proofs.Naming.VariantName

/-!
# Variants without a name

The variant of a well-separated name is well-separated, and its tokens are
tokens of the name in their order.  It is empty only in three cases: the name
says nothing that its group does not say at the same place, or nothing but
`BIT`, or nothing but `BIT` and a vendor tag.
-/

namespace VulkanRegistry.Naming

open Text

/-- The tokens of an enumerant that its group does not have at their places. -/
def ownTokens (owner enumerant : String) : List String :=
  unmatchedTokens (capitalWords owner) (tokens enumerant)

/-- A name that joins some of the given tokens, at least one, in their order. -/
def JoinsSome (available : List String) (name : String) : Prop :=
  ∃ kept : List String, kept ≠ [] ∧ (∀ token ∈ kept, IsToken token) ∧
    kept.Sublist available ∧ name = "_".intercalate kept

theorem unmatchedTokens_empty_owner {tokens : List String}
    (htokens : ∀ token ∈ tokens, token ≠ "") :
    unmatchedTokens [""] tokens = unmatchedTokens [] tokens := by
  cases tokens with
  | nil => rfl
  | cons token rest =>
      have hne : "" ≠ token := (htokens token List.mem_cons_self).symm
      simp [unmatchedTokens_cons, hne]

theorem join_eq_empty_iff {kept : List String}
    (hkept : ∀ token ∈ kept, IsToken token) :
    "_".intercalate kept = "" ↔ kept = [] := by
  have hnone : ∀ token ∈ ([] : List String), IsToken token := by simp
  exact intercalate_inj hkept hnone

theorem JoinsSome.wellSeparated {available : List String} {name : String}
    (h : JoinsSome available name) : WellSeparated name := by
  obtain ⟨kept, hnonempty, hkept, -, rfl⟩ := h
  apply wellSeparated_of_tokens
  rw [tokens_intercalate hnonempty fun token hmem => (hkept token hmem).2]
  exact fun token hmem => (hkept token hmem).1

section Enumerant

variable {owner enumerant : String}

/-- The comparison leaves the enumerant's own tokens, also when the group has no
word. -/
theorem differingTokens_eq_ownTokens
    (htokens : ∀ token ∈ tokens enumerant, token ≠ "") :
    differingTokens (tokens (shouty owner)) (tokens enumerant) =
      ownTokens owner enumerant := by
  rw [differingTokens_eq_unmatchedTokens htokens, ownTokens]
  by_cases hwords : words owner = []
  · rw [tokens_shouty_of_words_eq_nil hwords,
      unmatchedTokens_empty_owner htokens, capitalWords, hwords,
      List.map_nil]
  · rw [tokens_shouty hwords]

theorem isToken_of_mem_ownTokens
    (htokens : ∀ token ∈ tokens enumerant, token ≠ "") {token : String}
    (h : token ∈ ownTokens owner enumerant) : IsToken token := by
  have hmem := (unmatchedTokens_sublist _ _).subset h
  exact ⟨htokens token hmem, underscore_not_mem_of_mem_tokens hmem⟩

theorem exists_trims_ownTokens (tags : List String) (owner : String)
    (htokens : ∀ token ∈ tokens enumerant, token ≠ "") :
    ∃ kept, Trims tags (ownTokens owner enumerant) kept ∧
      (∀ token ∈ kept, IsToken token) ∧ kept.Sublist (tokens enumerant) ∧
      variantName tags owner enumerant = "_".intercalate kept := by
  have htrims : Trims tags (ownTokens owner enumerant)
      (trimBit (trimTag tags (ownTokens owner enumerant))) :=
    trims_iff.mpr rfl
  have hbegins := htrims.isPrefix
  refine ⟨_, htrims, ?_, ?_, ?_⟩
  · intro token hmem
    exact isToken_of_mem_ownTokens htokens (hbegins.subset hmem)
  · exact hbegins.sublist.trans (unmatchedTokens_sublist _ _)
  · rw [variantName, differingTokens_eq_ownTokens htokens]

theorem variantName_eq_empty_iff (tags : List String)
    (htokens : ∀ token ∈ tokens enumerant, token ≠ "") :
    variantName tags owner enumerant = "" ↔
      Trims tags (ownTokens owner enumerant) [] := by
  obtain ⟨kept, htrims, hkept, -, hname⟩ :=
    exists_trims_ownTokens tags owner htokens
  rw [hname, join_eq_empty_iff hkept, trims_iff, trims_iff.mp htrims]

end Enumerant

/-- The variant of a name without empty tokens is empty or a join of some of its
tokens.  It is empty exactly when the group does not have at their places no
token, or only `BIT`, or only `BIT` and a vendor tag.  So without a `BIT` it is
empty exactly when the group begins with all tokens of the name. -/
theorem variantName_wellSeparated (tags : List String)
    (owner enumerant : String)
    (htokens : ∀ token ∈ tokens enumerant, token ≠ "") :
    (variantName tags owner enumerant = "" ∨
        JoinsSome (tokens enumerant) (variantName tags owner enumerant)) ∧
      WellSeparated (variantName tags owner enumerant) ∧
      (variantName tags owner enumerant = "" ↔
        ownTokens owner enumerant = [] ∨
          ownTokens owner enumerant = ["BIT"] ∨
          ∃ tag ∈ tags, ownTokens owner enumerant = ["BIT", tag]) ∧
      ("BIT" ∉ ownTokens owner enumerant →
        (variantName tags owner enumerant = "" ↔
          tokens enumerant <+: capitalWords owner)) := by
  have hform : variantName tags owner enumerant = "" ∨
      JoinsSome (tokens enumerant) (variantName tags owner enumerant) := by
    obtain ⟨kept, -, hkept, hsublist, hname⟩ :=
      exists_trims_ownTokens tags owner htokens
    by_cases hempty : kept = []
    · exact Or.inl (hname.trans ((join_eq_empty_iff hkept).mpr hempty))
    · exact Or.inr ⟨kept, hempty, hkept, hsublist, hname⟩
  refine ⟨hform, ?_, ?_, ?_⟩
  · rcases hform with hempty | hjoin
    · rw [hempty]
      exact wellSeparated_empty
    · exact hjoin.wellSeparated
  · rw [variantName_eq_empty_iff tags htokens, trims_nil_iff]
  · intro hbit
    rw [variantName_eq_empty_iff tags htokens, trims_nil_iff,
      ← unmatchedTokens_eq_nil_iff, ← ownTokens]
    constructor
    · rintro (hnone | honly | ⟨tag, -, hboth⟩)
      · exact hnone
      · simp [honly] at hbit
      · simp [hboth] at hbit
    · exact Or.inl

/-- A flag of which nothing is left, and a tag that is all there is. -/
theorem variantName_wellSeparated_foo :
    (∀ token ∈ tokens "VK_BIT_NV", token ≠ "") ∧
      variantName ["NV"] "VkFoo" "VK_BIT_NV" = "" ∧
      (∀ token ∈ tokens "VK_NV", token ≠ "") ∧
      JoinsSome (tokens "VK_NV") (variantName ["NV"] "VkFoo" "VK_NV") := by
  have hflag : ∀ token ∈ tokens "VK_BIT_NV", token ≠ "" := by decide
  have htag : ∀ token ∈ tokens "VK_NV", token ≠ "" := by decide
  obtain ⟨-, -, hemptyFlag, -⟩ :=
    variantName_wellSeparated ["NV"] "VkFoo" "VK_BIT_NV" hflag
  obtain ⟨hform, -, -, hemptyTag⟩ :=
    variantName_wellSeparated ["NV"] "VkFoo" "VK_NV" htag
  have hlost : ownTokens "VkFoo" "VK_BIT_NV" = ["BIT", "NV"] := by
    decide +kernel
  have hleft : ownTokens "VkFoo" "VK_NV" = ["NV"] := by decide +kernel
  refine ⟨hflag, ?_, htag, ?_⟩
  · exact hemptyFlag.mpr (Or.inr (Or.inr ⟨"NV", by decide, hlost⟩))
  · refine hform.resolve_left ?_
    rw [hemptyTag (by rw [hleft]; decide), ← unmatchedTokens_eq_nil_iff,
      ← ownTokens, hleft]
    decide

end VulkanRegistry.Naming
