import VulkanRegistry.Proofs.Naming.CamelCase
import VulkanRegistry.Proofs.Naming.VariantName

/-!
# The naming convention

A group is named `Vk`, its words, `FlagBits` if it is a flag set, and the tag of
a vendor if it has one.  Its enumerants repeat all of this in capitals around
their own tokens, with `BIT` for a flag.  Variant names undo the convention: the
tokens between are what is left.

An enumerant whose own token meets the group's token at the same place is the
exception, because the two cannot be told apart there.
-/

namespace VulkanRegistry.Naming

open Text

/-- The parts from which the convention makes the name of a group.  The tag is
empty for a group without a vendor. -/
structure Convention where
  words : List CamelWord
  isFlagSet : Bool
  tag : String
  isUpper_tag : ∀ c ∈ tag.toList, c.isUpper

namespace Convention

variable (scheme : Convention)

/-- The name of the group. -/
def groupName : String :=
  "Vk" ++ String.join (scheme.words.map CamelWord.text) ++
    (if scheme.isFlagSet then "FlagBits" else "") ++ scheme.tag

/-- The tokens with which the group and its enumerants begin. -/
def stem : List String :=
  "VK" :: scheme.words.map CamelWord.token

/-- The tokens of the group after its stem. -/
def ownerEnd : List String :=
  (if scheme.isFlagSet then ["FLAG", "BITS"] else []) ++
    tagTokens scheme.tag

/-- The tokens of the group. -/
def ownerTokens : List String :=
  scheme.stem ++ scheme.ownerEnd

/-- The token that marks a flag. -/
def bitTokens : List String :=
  if scheme.isFlagSet then ["BIT"] else []

/-- The name of the enumerant with the given tokens of its own. -/
def enumerantName (own : List String) : String :=
  "_".intercalate
    (scheme.stem ++ own ++ scheme.bitTokens ++ tagTokens scheme.tag)

/-! ## The tokens of the two names -/

/-- The word `Vk`. -/
def vk : CamelWord :=
  ⟨'V', 'k', [], by decide, by decide, by simp⟩

/-- The word `Flag`. -/
def flag : CamelWord :=
  ⟨'F', 'l', ['a', 'g'], by decide, by decide, by simp⟩

/-- The word `Bits`. -/
def bits : CamelWord :=
  ⟨'B', 'i', ['t', 's'], by decide, by decide, by simp⟩

/-- All words of the group's name. -/
def camel : List CamelWord :=
  vk :: scheme.words ++ if scheme.isFlagSet then [flag, bits] else []

theorem groupName_eq_join :
    scheme.groupName =
      String.join (scheme.camel.map CamelWord.text) ++ scheme.tag := by
  have hvk : vk.text = "Vk" := by decide
  have hflag : flag.text ++ bits.text = "FlagBits" := by decide
  cases hset : scheme.isFlagSet with
  | false => simp [groupName, camel, hset, hvk, String.join_cons]
  | true =>
      simp [groupName, camel, hset, hvk, ← hflag, String.join_cons,
        String.join_append, String.append_assoc]

theorem camel_tokens :
    scheme.camel.map CamelWord.token ++ tagTokens scheme.tag =
      scheme.ownerTokens := by
  have hvk : vk.token = "VK" := by decide
  have hflag : flag.token = "FLAG" := by decide
  have hbits : bits.token = "BITS" := by decide
  cases hset : scheme.isFlagSet with
  | false => simp [camel, ownerTokens, stem, ownerEnd, hset, hvk]
  | true => simp [camel, ownerTokens, stem, ownerEnd, hset, hvk, hflag, hbits]

/-- The group's name is split into the tokens of its parts. -/
theorem tokens_shouty_groupName :
    tokens (shouty scheme.groupName) = scheme.ownerTokens := by
  rw [groupName_eq_join, tokens_shouty_camel _ scheme.isUpper_tag,
    camel_tokens]
  simp [camel]

theorem tokens_enumerantName {own : List String}
    (hown : ∀ token ∈ own, '_' ∉ token.toList) :
    tokens (scheme.enumerantName own) =
      scheme.stem ++ own ++ scheme.bitTokens ++ tagTokens scheme.tag := by
  apply tokens_intercalate
  · simp [stem]
  · intro token htoken
    rw [List.mem_append, List.mem_append, List.mem_append] at htoken
    rcases htoken with ((hstem | hmem) | hbit) | htag
    · rcases List.mem_cons.mp hstem with rfl | hword
      · decide
      · obtain ⟨word, -, rfl⟩ := List.mem_map.mp hword
        exact word.underscore_not_mem_token
    · exact hown token hmem
    · rw [bitTokens] at hbit
      split at hbit
      · obtain rfl := List.mem_singleton.mp hbit
        decide
      · simp at hbit
    · exact underscore_not_mem_tagTokens scheme.isUpper_tag htag

/-! ## What the comparison and the trims leave -/

/-- A tag is dropped by the comparison or kept as a whole. -/
theorem differingTokens_tagTokens (tag : String) (n : Nat) :
    differingTokens ((tagTokens tag).drop n) (tagTokens tag) = [] ∨
      differingTokens ((tagTokens tag).drop n) (tagTokens tag) =
        tagTokens tag := by
  cases n with
  | zero =>
      left
      have hsame := differingTokens_append_left (tagTokens tag) [] []
      rwa [List.append_nil] at hsame
  | succ n =>
      right
      have hdrop : (tagTokens tag).drop (n + 1) = [] := by
        apply List.drop_eq_nil_of_le
        have hshort := length_tagTokens_le tag
        omega
      rw [hdrop]
      exact differingTokens_nil fun _ => ne_empty_of_mem_tagTokens

theorem bit_not_mem_ownerEnd (hbit : scheme.tag ≠ "BIT") :
    "BIT" ∉ scheme.ownerEnd := by
  have htag : "BIT" ∉ tagTokens scheme.tag := by
    rw [tagTokens]
    split
    · simp
    · simpa using Ne.symm hbit
  cases hset : scheme.isFlagSet with
  | false => simpa [ownerEnd, hset] using htag
  | true => simpa [ownerEnd, hset] using htag

/-- Behind the tokens of its own, an enumerant loses at most the tag to the
comparison.  In a flag set `FLAG` and `BITS` face one token fewer than there
are, so the tag meets its like exactly when there is one token of its own. -/
theorem differingTokens_ends {n : Nat} (hn : 0 < n)
    (hbit : scheme.tag ≠ "BIT") :
    ∃ kept, (kept = [] ∨ kept = tagTokens scheme.tag) ∧
      differingTokens (scheme.ownerEnd.drop n)
          (scheme.bitTokens ++ tagTokens scheme.tag) =
        scheme.bitTokens ++ kept := by
  cases hset : scheme.isFlagSet with
  | false =>
      refine ⟨_, differingTokens_tagTokens scheme.tag n, ?_⟩
      simp [ownerEnd, bitTokens, hset]
  | true =>
      obtain ⟨m, rfl⟩ := Nat.exists_eq_succ_of_ne_zero (Nat.ne_of_gt hn)
      have hfirst : (scheme.ownerEnd.drop (m + 1)).head? ≠ some "BIT" := by
        intro hfound
        have hmem := List.mem_of_mem_drop (List.mem_of_mem_head? hfound)
        exact scheme.bit_not_mem_ownerEnd hbit hmem
      refine ⟨_, differingTokens_tagTokens scheme.tag m, ?_⟩
      have hbits : scheme.bitTokens = ["BIT"] := by simp [bitTokens, hset]
      have hrest : (scheme.ownerEnd.drop (m + 1)).tail =
          (tagTokens scheme.tag).drop m := by
        simp [ownerEnd, hset]
      rw [hbits, List.singleton_append,
        differingTokens_cons_of_ne (by decide) hfirst, hrest,
        List.singleton_append]

theorem trimTag_tagTokens {tags tokens kept : List String}
    (htag : scheme.tag ≠ "" → scheme.tag ∈ tags) (hnonempty : tokens ≠ [])
    (hlast : ∀ token, tokens.getLast? = some token → token ∉ tags)
    (hkept : kept = [] ∨ kept = tagTokens scheme.tag) :
    trimTag tags (tokens ++ kept) = tokens := by
  have hplain : trimTag tags (tokens ++ []) = tokens := by
    rw [List.append_nil, trimTag_of_not_mem hlast]
  rcases hkept with rfl | rfl
  · exact hplain
  · rw [tagTokens]
    split
    · exact hplain
    · exact trimTag_append_tag (htag (by assumption)) hnonempty

theorem trimBit_bitTokens {tokens : List String}
    (hlast : tokens.getLast? ≠ some "BIT") :
    trimBit (tokens ++ scheme.bitTokens) = tokens := by
  rw [bitTokens]
  split
  · exact trimBit_append_bit
  · rw [List.append_nil, trimBit_of_ne_bit hlast]

theorem not_mem_tags_of_getLast? {tags own : List String}
    (hbit : "BIT" ∉ tags)
    (hlast : ∀ token, own.getLast? = some token → token ∉ tags) :
    ∀ token, (own ++ scheme.bitTokens).getLast? = some token →
      token ∉ tags := by
  intro token htoken
  rw [bitTokens] at htoken
  split at htoken
  · obtain rfl : "BIT" = token := by simpa using htoken
    exact hbit
  · rw [List.append_nil] at htoken
    exact hlast token htoken

/-- The name of a variant is the join of the enumerant's own tokens, unless one
of them meets the group's token at the same place. -/
theorem variantName_enumerantName (tags own : List String)
    (hbit : "BIT" ∉ tags) (htag : scheme.tag ≠ "" → scheme.tag ∈ tags)
    (hnonempty : own ≠ [])
    (htokens : ∀ token ∈ own, token ≠ "" ∧ '_' ∉ token.toList)
    (hlast : ∀ token, own.getLast? = some token →
      token ≠ "BIT" ∧ token ∉ tags)
    (hplace : ∀ (i : Nat) (token : String), own[i]? = some token →
      scheme.ownerTokens[scheme.stem.length + i]? ≠ some token) :
    variantName tags scheme.groupName (scheme.enumerantName own) =
      "_".intercalate own := by
  have hdistinct : ∀ (i : Nat) (token : String), own[i]? = some token →
      scheme.ownerEnd[i]? ≠ some token := by
    intro i token htoken
    have hat := hplace i token htoken
    rwa [ownerTokens, List.getElem?_append_right (Nat.le_add_right _ _),
      Nat.add_sub_cancel_left] at hat
  have hnotBit : scheme.tag ≠ "BIT" := by
    intro hequal
    have hne : scheme.tag ≠ "" := by
      rw [hequal]
      decide
    exact hbit (hequal ▸ htag hne)
  obtain ⟨kept, hkept, hends⟩ :=
    scheme.differingTokens_ends (List.length_pos_iff.mpr hnonempty) hnotBit
  have hdiffer :
      differingTokens (tokens (shouty scheme.groupName))
          (tokens (scheme.enumerantName own)) =
        own ++ scheme.bitTokens ++ kept := by
    rw [scheme.tokens_shouty_groupName,
      scheme.tokens_enumerantName fun token hmem => (htokens token hmem).2,
      ownerTokens, List.append_assoc, List.append_assoc,
      differingTokens_append_left,
      differingTokens_append_of_distinct
        (fun token hmem => (htokens token hmem).1) hdistinct,
      hends, List.append_assoc]
  have htrimmed :
      trimTag tags (own ++ scheme.bitTokens ++ kept) =
        own ++ scheme.bitTokens := by
    apply scheme.trimTag_tagTokens htag _ _ hkept
    · simp [hnonempty]
    · exact scheme.not_mem_tags_of_getLast? hbit fun token htoken =>
        (hlast token htoken).2
  rw [variantName, hdiffer, htrimmed, scheme.trimBit_bitTokens]
  intro hfound
  exact (hlast "BIT" hfound).1 rfl

/-- The flag set `VkSurfaceCounterFlagBitsEXT`. -/
def surfaceCounter : Convention where
  words :=
    [⟨'S', 'u', ['r', 'f', 'a', 'c', 'e'], by decide, by decide, by simp⟩,
      ⟨'C', 'o', ['u', 'n', 't', 'e', 'r'], by decide, by decide, by simp⟩]
  isFlagSet := true
  tag := "EXT"
  isUpper_tag := by simp

theorem variantName_surfaceCounter :
    surfaceCounter.groupName = "VkSurfaceCounterFlagBitsEXT" ∧
      surfaceCounter.enumerantName ["VBLANK", "2"] =
        "VK_SURFACE_COUNTER_VBLANK_2_BIT_EXT" ∧
      variantName ["EXT", "KHR"] surfaceCounter.groupName
          (surfaceCounter.enumerantName ["VBLANK", "2"]) = "VBLANK_2" := by
  refine ⟨by decide +kernel, by decide +kernel, ?_⟩
  apply surfaceCounter.variantName_enumerantName ["EXT", "KHR"]
    ["VBLANK", "2"]
  · decide
  · decide
  · decide
  · decide
  · decide
  · intro i token htoken
    match i with
    | 0 =>
        obtain rfl : "VBLANK" = token := by simpa using htoken
        decide
    | 1 =>
        obtain rfl : "2" = token := by simpa using htoken
        decide
    | i + 2 => simp at htoken

end Convention

end VulkanRegistry.Naming
