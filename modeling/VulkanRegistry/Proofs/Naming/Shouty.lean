import VulkanRegistry.Naming.VariantName
import VulkanRegistry.Proofs.Naming.Boundary
import VulkanRegistry.Proofs.Text.Ascii
import VulkanRegistry.Proofs.Text.UpperCase

/-!
# Names in capitals

A name in capitals splits at its underscores into the words of the name, each in
capitals.  A word is alphanumeric and no capital form brings an underscore of
its own, so no token is torn or joined to its neighbour.

A name in capitals is also cut into these words, and so it is the form in
capitals of itself.  This holds where capitals are settled: a word ends only
next to a small letter, before or behind it, so a run without small letters is
one word whatever digits stand in it.
-/

namespace VulkanRegistry.Naming

open Text

/-- The words of a name in capitals. -/
def capitalWords (name : String) : List String :=
  (words name).map upper

theorem underscore_not_mem_capitalWords {name token : String}
    (h : token ∈ capitalWords name) : '_' ∉ token.toList := by
  obtain ⟨word, hword, rfl⟩ := List.mem_map.mp h
  obtain ⟨-, -, halphanumeric⟩ := word_within_run hword
  apply underscore_not_mem_upper
  intro hunderscore
  have hunderscore := halphanumeric '_' hunderscore
  revert hunderscore
  decide +kernel

theorem tokens_shouty {name : String} (hwords : words name ≠ []) :
    tokens (shouty name) = capitalWords name := by
  apply tokens_intercalate
  · simpa using hwords
  · exact fun _ => underscore_not_mem_capitalWords

theorem tokens_shouty_of_words_eq_nil {name : String}
    (hwords : words name = []) : tokens (shouty name) = [""] := by
  rw [shouty, hwords]
  rfl

/-! ## Words without small letters -/

/-- A run without small letters is one word. -/
theorem cutWords_of_not_isLower {last : Option Case} {run : List Char}
    (hlast : last ≠ some .lower) (hnonempty : run ≠ [])
    (hrun : ∀ c ∈ run, isLower c = false) : cutWords last run = [run] := by
  induction run generalizing last with
  | nil => exact absurd rfl hnonempty
  | cons c run ih =>
      obtain ⟨hc, hothers⟩ := List.forall_mem_cons.mp hrun
      cases run with
      | nil => rfl
      | cons next rest =>
          have hnext := hothers next List.mem_cons_self
          have hafter : Case.after last c ≠ some .lower := by
            rw [Case.after, if_neg (Bool.eq_false_iff.mp hc)]
            split
            · simp
            · exact hlast
          simp [cutWords, hafter, hnext, consField,
            ih hafter (List.cons_ne_nil next rest) hothers]

/-! ## Names that are in capitals already -/

/-- A name whose alphanumeric characters have settled capitals. -/
def HasCapitals (name : String) : Prop :=
  ∀ c ∈ name.toList, isAlphanumeric c = true → HasCapital c

instance : DecidablePred HasCapitals := fun name =>
  List.decidableBAll (fun c => isAlphanumeric c = true → HasCapital c)
    name.toList

theorem hasCapital_of_ascii {c : Char} (hascii : c.toNat < 128)
    (hc : isAlphanumeric c = true) : HasCapital c :=
  of_forall_ascii (P := fun c => isAlphanumeric c = true → HasCapital c)
    (by decide +kernel) hascii hc

section Settled

variable {name : String}

theorem hasCapital_of_mem_words (hname : HasCapitals name) {word : String}
    (hword : word ∈ words name) : ∀ c ∈ word.toList, HasCapital c := by
  obtain ⟨-, hwithin, halphanumeric⟩ := word_within_run hword
  intro c hc
  exact hname c (hwithin.subset hc) (halphanumeric c hc)

theorem ne_empty_of_mem_capitalWords (hname : HasCapitals name) {token : String}
    (htoken : token ∈ capitalWords name) : token ≠ "" := by
  obtain ⟨word, hword, rfl⟩ := List.mem_map.mp htoken
  exact upper_ne_empty (hasCapital_of_mem_words hname hword)
    (word_within_run hword).1

theorem capital_of_mem_capitalWords (hname : HasCapitals name) {token : String}
    (htoken : token ∈ capitalWords name) {c : Char} (hc : c ∈ token.toList) :
    isAlphanumeric c = true ∧ isLower c = false := by
  obtain ⟨word, hword, rfl⟩ := List.mem_map.mp htoken
  exact capital_of_mem_upper (hasCapital_of_mem_words hname hword) hc

theorem map_upper_capitalWords (hname : HasCapitals name) :
    (capitalWords name).map upper = capitalWords name := by
  rw [capitalWords, List.map_map]
  apply List.map_congr_left
  intro word hword
  exact upper_upper (hasCapital_of_mem_words hname hword)

/-- The underscores of a name in capitals are its word boundaries, and it has no
others. -/
theorem words_shouty (hname : HasCapitals name) :
    words (shouty name) = capitalWords name := by
  have hruns : runsOf isAlphanumeric (shouty name).toList =
      (capitalWords name).map String.toList := by
    rw [shouty, String.toList_intercalate]
    apply runsOf_intercalate
    · decide +kernel
    · intro run hrun
      obtain ⟨token, htoken, rfl⟩ := List.mem_map.mp hrun
      refine ⟨?_, fun c hc => (capital_of_mem_capitalWords hname htoken hc).1⟩
      rw [ne_eq, String.toList_eq_nil_iff]
      exact ne_empty_of_mem_capitalWords hname htoken
  have hcut : ∀ token ∈ capitalWords name,
      cutWords none token.toList = [token.toList] := by
    intro token htoken
    apply cutWords_of_not_isLower
    · simp
    · rw [ne_eq, String.toList_eq_nil_iff]
      exact ne_empty_of_mem_capitalWords hname htoken
    · exact fun c hc => (capital_of_mem_capitalWords hname htoken hc).2
  rw [words, hruns, List.flatMap_map, List.flatMap_congr hcut,
    ← List.map_eq_flatMap, List.map_map]
  simp [Function.comp_def]

theorem shouty_shouty (hname : HasCapitals name) :
    shouty (shouty name) = shouty name := by
  rw [shouty, words_shouty hname, map_upper_capitalWords hname]
  rfl

theorem wellSeparated_shouty (hname : HasCapitals name) :
    WellSeparated (shouty name) := by
  by_cases hwords : words name = []
  · rw [shouty, hwords]
    exact wellSeparated_empty
  · apply wellSeparated_of_tokens
    rw [tokens_shouty hwords]
    exact fun _ => ne_empty_of_mem_capitalWords hname

end Settled

/-- A name in capitals is its own form in capitals, at least where the capitals
of its characters are settled, as they are in ASCII.  Its words are those of the
name, in capitals, with single underscores between them and none at the ends.
So a group may be given by either name when variants are named. -/
theorem shouty_isNormal :
    (∀ name : String, (∀ c ∈ name.toList, c.toNat < 128) →
      HasCapitals name) ∧
    ∀ name, HasCapitals name →
      shouty (shouty name) = shouty name ∧
        words (shouty name) = (words name).map upper ∧
        WellSeparated (shouty name) ∧
        ∀ tags enumerant, variantName tags (shouty name) enumerant =
          variantName tags name enumerant := by
  constructor
  · intro name hascii c hc
    exact hasCapital_of_ascii (hascii c hc)
  · intro name hname
    have hsame := shouty_shouty hname
    refine ⟨hsame, words_shouty hname, wellSeparated_shouty hname, ?_⟩
    intro tags enumerant
    rw [variantName, variantName, hsame]

/-- An ASCII name with digits behind small letters and capitals, and a name with
characters of which the capitals are several. -/
theorem shouty_isNormal_mixed :
    (∀ c ∈ "vkR8G8B8_UNorm2Type".toList, c.toNat < 128) ∧
      shouty "vkR8G8B8_UNorm2Type" = "VK_R8G8B8_U_NORM2_TYPE" ∧
      words "VK_R8G8B8_U_NORM2_TYPE" =
        ["VK", "R8G8B8", "U", "NORM2", "TYPE"] ∧
      HasCapitals "VkStraßeŉ" ∧
      shouty "VkStraßeŉ" = "VK_STRASSEʼN" ∧
      variantName [] "VK_STRASSEʼN" "VK_2D" =
        variantName [] "VkStraßeŉ" "VK_2D" := by
  obtain ⟨hplain, hnormal⟩ := shouty_isNormal
  have hascii : ∀ c ∈ "vkR8G8B8_UNorm2Type".toList, c.toNat < 128 := by
    simp
  have hshouty : shouty "vkR8G8B8_UNorm2Type" = "VK_R8G8B8_U_NORM2_TYPE" := by
    decide +kernel
  have hwords : (words "vkR8G8B8_UNorm2Type").map upper =
      ["VK", "R8G8B8", "U", "NORM2", "TYPE"] := by
    decide +kernel
  have hcapitals : HasCapitals "VkStraßeŉ" := by decide +kernel
  have hseveral : shouty "VkStraßeŉ" = "VK_STRASSEʼN" := by decide +kernel
  have hfirst := (hnormal _ (hplain _ hascii)).2.1
  have hsecond := (hnormal _ hcapitals).2.2.2 [] "VK_2D"
  rw [hshouty, hwords] at hfirst
  rw [hseveral] at hsecond
  exact ⟨hascii, hshouty, hfirst, hcapitals, hseveral, hsecond⟩

end VulkanRegistry.Naming
