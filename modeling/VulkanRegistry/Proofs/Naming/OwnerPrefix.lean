import VulkanRegistry.Proofs.Naming.Shouty
import VulkanRegistry.Proofs.Naming.VariantName

/-!
# Names with the prefix of their group

An enumerant that begins with all words of its group, in capitals, is named by
the tokens behind them, less what the trims take.  The comparison stops exactly
at the end of the prefix: no later token is lost because it repeats a word of
the group.  So two such names that the trims leave alone never meet in one
variant.
-/

namespace VulkanRegistry.Naming

open Text

/-- The name with all words of `owner` in capitals and then the tokens `own`. -/
def prefixedName (owner : String) (own : List String) : String :=
  "_".intercalate (capitalWords owner ++ own)

section Prefixed

variable {owner : String} {own : List String}

theorem tokens_prefixedName (hwords : words owner ≠ [])
    (hown : ∀ token ∈ own, IsToken token) :
    tokens (prefixedName owner own) = capitalWords owner ++ own := by
  apply tokens_intercalate
  · simp [capitalWords, hwords]
  · intro token htoken
    rcases List.mem_append.mp htoken with hword | hmem
    · exact underscore_not_mem_capitalWords hword
    · exact (hown token hmem).2

/-- The comparison leaves exactly the tokens behind the prefix. -/
theorem differingTokens_prefixedName (hwords : words owner ≠ [])
    (hown : ∀ token ∈ own, IsToken token) :
    differingTokens (tokens (shouty owner))
      (tokens (prefixedName owner own)) = own := by
  have hshared := differingTokens_append_left (capitalWords owner) [] own
  rw [List.append_nil] at hshared
  rw [tokens_shouty hwords, tokens_prefixedName hwords hown, hshared]
  exact differingTokens_nil fun token hmem => (hown token hmem).1

theorem variantName_prefixedName_eq_iff (hwords : words owner ≠ [])
    (hown : ∀ token ∈ own, IsToken token) {tags : List String}
    {name : String} :
    variantName tags owner (prefixedName owner own) = name ↔
      ∃ kept, Trims tags own kept ∧ "_".intercalate kept = name := by
  rw [variantName, differingTokens_prefixedName hwords hown]
  simp [trims_iff]

end Prefixed

/-- The variant of a name with the full prefix of its group is the join of the
tokens behind the prefix, less a vendor tag that is not alone, and then less a
`BIT`.  Names whose tokens neither trim shortens have different variants. -/
theorem variantName_prefixedName (tags : List String) (owner : String)
    (hwords : words owner ≠ []) :
    (∀ own : List String, (∀ token ∈ own, IsToken token) → ∀ name,
      variantName tags owner (prefixedName owner own) = name ↔
        ∃ kept, Trims tags own kept ∧ "_".intercalate kept = name) ∧
      ∀ own others : List String,
        (∀ token ∈ own, IsToken token) → (∀ token ∈ others, IsToken token) →
        KeepsTag tags own → KeepsBit own →
        KeepsTag tags others → KeepsBit others →
        variantName tags owner (prefixedName owner own) =
            variantName tags owner (prefixedName owner others) →
          prefixedName owner own = prefixedName owner others := by
  constructor
  · intro own hown name
    exact variantName_prefixedName_eq_iff hwords hown
  · intro own others hown hothers htag hbit htagOther hbitOther hequal
    have hname : variantName tags owner (prefixedName owner own) =
        "_".intercalate own :=
      (variantName_prefixedName_eq_iff hwords hown).mpr
        ⟨own, trims_self htag hbit, rfl⟩
    have hother : variantName tags owner (prefixedName owner others) =
        "_".intercalate others :=
      (variantName_prefixedName_eq_iff hwords hothers).mpr
        ⟨others, trims_self htagOther hbitOther, rfl⟩
    rw [hname, hother] at hequal
    rw [(intercalate_inj hown hothers).mp hequal]

/-- A group whose capitals are longer than its words, an enumerant that repeats
one of them, and a tag that is the only token of its own. -/
theorem variantName_prefixedName_strasse :
    words "VkStraßeFlagBits" ≠ [] ∧
      prefixedName "VkStraßeFlagBits" ["STRASSE", "BIT", "KHR"] =
        "VK_STRASSE_FLAG_BITS_STRASSE_BIT_KHR" ∧
      variantName ["KHR"] "VkStraßeFlagBits"
          "VK_STRASSE_FLAG_BITS_STRASSE_BIT_KHR" = "STRASSE" ∧
      variantName ["KHR"] "VkStraßeFlagBits" "VK_STRASSE_FLAG_BITS_KHR" ≠
        variantName ["KHR"] "VkStraßeFlagBits"
          "VK_STRASSE_FLAG_BITS_STRASSE" := by
  have hwords : words "VkStraßeFlagBits" ≠ [] := by decide +kernel
  have hflag : prefixedName "VkStraßeFlagBits" ["STRASSE", "BIT", "KHR"] =
      "VK_STRASSE_FLAG_BITS_STRASSE_BIT_KHR" := by
    decide +kernel
  have htagOnly : prefixedName "VkStraßeFlagBits" ["KHR"] =
      "VK_STRASSE_FLAG_BITS_KHR" := by
    decide +kernel
  have hplain : prefixedName "VkStraßeFlagBits" ["STRASSE"] =
      "VK_STRASSE_FLAG_BITS_STRASSE" := by
    decide +kernel
  obtain ⟨hname, hapart⟩ :=
    variantName_prefixedName ["KHR"] "VkStraßeFlagBits" hwords
  refine ⟨hwords, hflag, ?_, ?_⟩
  · rw [← hflag, hname _ (by decide)]
    have htrims : Trims ["KHR"] (["STRASSE", "BIT"] ++ ["KHR"]) ["STRASSE"] :=
      ⟨_, .dropped (by decide) (by decide), .dropped ["STRASSE"]⟩
    exact ⟨["STRASSE"], htrims, by decide⟩
  · intro hequal
    rw [← htagOnly, ← hplain] at hequal
    have hsame := hapart ["KHR"] ["STRASSE"] (by decide) (by decide)
      (keepsTag_singleton _ _) (keepsBit_singleton (by decide))
      (keepsTag_singleton _ _) (keepsBit_singleton (by decide)) hequal
    rw [htagOnly, hplain] at hsame
    revert hsame
    decide

end VulkanRegistry.Naming
