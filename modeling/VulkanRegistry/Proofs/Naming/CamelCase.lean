import VulkanRegistry.Proofs.Naming.Shouty
import VulkanRegistry.Proofs.Text.Ascii

/-!
# Names in camel case

A name in camel case is a sequence of words, each a capital and then small
letters and digits.  Cutting such a name at its capitals gives the words back,
also when capitals follow the last of them.
-/

namespace VulkanRegistry.Naming

open Text

/-! ## Words -/

/-- A word in camel case: an ASCII capital, an ASCII small letter, and then
ASCII small letters and digits. -/
structure CamelWord where
  capital : Char
  small : Char
  tail : List Char
  isUpper_capital : capital.isUpper
  isLower_small : small.isLower
  tail_plain : ∀ c ∈ tail, c.isLower ∨ c.isDigit

namespace CamelWord

/-- The characters of a word. -/
def chars (word : CamelWord) : List Char :=
  word.capital :: word.small :: word.tail

/-- A word as it stands in a name. -/
def text (word : CamelWord) : String :=
  String.ofList word.chars

/-- A word in capitals. -/
def token (word : CamelWord) : String :=
  String.ofList (word.chars.map Char.toUpper)

theorem isAlphanum_chars (word : CamelWord) :
    ∀ c ∈ word.chars, c.isAlphanum := by
  intro c hc
  rw [chars, List.mem_cons, List.mem_cons] at hc
  rw [char_isAlphanum_iff]
  rcases hc with rfl | rfl | hc
  · exact Or.inl (Or.inl word.isUpper_capital)
  · exact Or.inl (Or.inr word.isLower_small)
  · rcases word.tail_plain c hc with hlower | hdigit
    · exact Or.inl (Or.inr hlower)
    · exact Or.inr hdigit

@[simp] theorem upper_text (word : CamelWord) :
    upper word.text = word.token :=
  upper_ofList_of_isAlphanum word.isAlphanum_chars

theorem underscore_not_mem_token (word : CamelWord) :
    '_' ∉ word.token.toList := by
  rw [token, String.toList_ofList, List.mem_map]
  rintro ⟨c, hc, hupper⟩
  exact toUpper_ne_underscore (word.isAlphanum_chars c hc) hupper

end CamelWord

/-! ## Cutting at capitals -/

section Cutting

variable {c : Char}

theorem case_of_isUpper (hc : c.isUpper) :
    isUpper c = true ∧ isLower c = false := by
  have hpoints := char_isUpper_iff.mp hc
  have hascii : c.toNat < 128 := by omega
  rw [isUpper_of_ascii hascii, isLower_of_ascii hascii]
  refine ⟨hc, ?_⟩
  rw [Bool.eq_false_iff, ne_eq, char_isLower_iff]
  omega

theorem case_of_isLower (hc : c.isLower) :
    isLower c = true ∧ isUpper c = false := by
  have hpoints := char_isLower_iff.mp hc
  have hascii : c.toNat < 128 := by omega
  rw [isUpper_of_ascii hascii, isLower_of_ascii hascii]
  refine ⟨hc, ?_⟩
  rw [Bool.eq_false_iff, ne_eq, char_isUpper_iff]
  omega

theorem case_of_isDigit (hc : c.isDigit) :
    isLower c = false ∧ isUpper c = false := by
  have hpoints := char_isDigit_iff.mp hc
  have hascii : c.toNat < 128 := by omega
  rw [isUpper_of_ascii hascii, isLower_of_ascii hascii]
  constructor
  · rw [Bool.eq_false_iff, ne_eq, char_isLower_iff]
    omega
  · rw [Bool.eq_false_iff, ne_eq, char_isUpper_iff]
    omega

/-- Within a word, small letters and digits keep the case small. -/
theorem after_lower_of_plain (hc : c.isLower ∨ c.isDigit) :
    Case.after (some .lower) c = some .lower := by
  rcases hc with hlower | hdigit
  · simp [Case.after, (case_of_isLower hlower).1]
  · simp [Case.after, (case_of_isDigit hdigit).1,
      (case_of_isDigit hdigit).2]

end Cutting

/-- A word goes on through small letters and digits and ends before a
capital. -/
theorem cutWords_plain {last : Option Case} {letter : Char}
    {tail rest : List Char} (hafter : Case.after last letter = some .lower)
    (hletter : isUpper letter = false)
    (htail : ∀ c ∈ tail, c.isLower ∨ c.isDigit)
    (hrest : ∀ c ∈ rest.head?, c.isUpper) :
    cutWords last (letter :: (tail ++ rest)) =
      (letter :: tail) :: cutWords none rest := by
  induction tail generalizing last letter with
  | nil =>
      cases rest with
      | nil => rfl
      | cons next others =>
          have hnext : isUpper next = true :=
            (case_of_isUpper (hrest next rfl)).1
          simp [cutWords, hafter, hnext]
  | cons next tail ih =>
      obtain ⟨hplain, hothers⟩ := List.forall_mem_cons.mp htail
      have hnext : isUpper next = false := by
        rcases hplain with hlower | hdigit
        · exact (case_of_isLower hlower).2
        · exact (case_of_isDigit hdigit).2
      have hcut := ih (after_lower_of_plain hplain) hnext hothers
      simp [cutWords, hafter, hletter, hnext, hcut, consField]

theorem cutWords_word (word : CamelWord) {rest : List Char}
    (hrest : ∀ c ∈ rest.head?, c.isUpper) :
    cutWords none (word.chars ++ rest) =
      word.chars :: cutWords none rest := by
  obtain ⟨hcapital, hcapitalLower⟩ := case_of_isUpper word.isUpper_capital
  obtain ⟨hsmall, hsmallUpper⟩ := case_of_isLower word.isLower_small
  have hafter : Case.after none word.capital = some .upper := by
    simp [Case.after, hcapital, hcapitalLower]
  have hsmallAfter : Case.after (some .upper) word.small = some .lower := by
    simp [Case.after, hsmall]
  have hcut := cutWords_plain hsmallAfter hsmallUpper word.tail_plain hrest
  rw [CamelWord.chars, List.cons_append, List.cons_append, cutWords]
  simp [hafter, hcut, consField]

/-- Camel case is cut into its words, whatever capitals follow them. -/
theorem cutWords_camel (camel : List CamelWord) {capitals : List Char}
    (hcapitals : ∀ c ∈ capitals, c.isUpper) :
    cutWords none (camel.flatMap CamelWord.chars ++ capitals) =
      camel.map CamelWord.chars ++ cutWords none capitals := by
  induction camel with
  | nil => rfl
  | cons word camel ih =>
      have hrest : ∀ c ∈ (camel.flatMap CamelWord.chars ++ capitals).head?,
          c.isUpper := by
        cases camel with
        | nil =>
            intro c hc
            exact hcapitals c (List.mem_of_mem_head? hc)
        | cons next others =>
            intro c hc
            obtain rfl : next.capital = c := by
              simpa [CamelWord.chars] using hc
            exact next.isUpper_capital
      rw [List.flatMap_cons, List.append_assoc, cutWords_word word hrest, ih,
        List.map_cons, List.cons_append]

/-! ## Names -/

theorem words_ofList {text : List Char} (htext : ∀ c ∈ text, c.isAlphanum) :
    words (String.ofList text) =
      (cutWords none text).map String.ofList := by
  rw [words, String.toList_ofList]
  by_cases hempty : text = []
  · subst hempty
    rfl
  · have halphanumeric : ∀ c ∈ text, isAlphanumeric c = true := by
      intro c hc
      rw [isAlphanumeric_of_ascii (ascii_of_isAlphanum (htext c hc))]
      exact htext c hc
    rw [runsOf_eq_singleton hempty halphanumeric, List.flatMap_singleton]

/-- The tokens of a vendor tag: none if there is no tag. -/
def tagTokens (tag : String) : List String :=
  if tag = "" then [] else [tag]

theorem length_tagTokens_le (tag : String) : (tagTokens tag).length ≤ 1 := by
  rw [tagTokens]
  split <;> simp

theorem ne_empty_of_mem_tagTokens {tag token : String}
    (htoken : token ∈ tagTokens tag) : token ≠ "" := by
  rw [tagTokens] at htoken
  split at htoken
  · simp at htoken
  · obtain rfl := List.mem_singleton.mp htoken
    assumption

section Names

variable {tag : String}

theorem isAlphanum_of_isUpper {c : Char} (hc : c.isUpper) :
    c.isAlphanum :=
  char_isAlphanum_iff.mpr (Or.inl (Or.inl hc))

theorem map_cutWords_tag (htag : ∀ c ∈ tag.toList, c.isUpper) :
    (cutWords none tag.toList).map String.ofList = tagTokens tag := by
  cases hchars : tag.toList with
  | nil =>
      have hempty : tag = "" := String.toList_eq_nil_iff.mp hchars
      simp [tagTokens, hempty, cutWords]
  | cons capital capitals =>
      have hnonempty : tag ≠ "" := by
        rintro rfl
        simp at hchars
      rw [hchars] at htag
      have hlower : ∀ c ∈ capital :: capitals, isLower c = false :=
        fun c hc => (case_of_isUpper (htag c hc)).2
      rw [cutWords_of_not_isLower (by simp) (List.cons_ne_nil _ _) hlower,
        ← hchars, tagTokens, if_neg hnonempty]
      simp

theorem underscore_not_mem_tagTokens (htag : ∀ c ∈ tag.toList, c.isUpper)
    {part : String} (hpart : part ∈ tagTokens tag) :
    '_' ∉ part.toList := by
  intro hunderscore
  rw [tagTokens] at hpart
  split at hpart
  · simp at hpart
  · obtain rfl := List.mem_singleton.mp hpart
    have hupper := htag '_' hunderscore
    simp at hupper

/-- The words of a name in camel case with a vendor tag at its end. -/
theorem words_camel (camel : List CamelWord)
    (htag : ∀ c ∈ tag.toList, c.isUpper) :
    words (String.join (camel.map CamelWord.text) ++ tag) =
      camel.map CamelWord.text ++ tagTokens tag := by
  have hname : String.join (camel.map CamelWord.text) ++ tag =
      String.ofList (camel.flatMap CamelWord.chars ++ tag.toList) := by
    apply String.toList_injective
    simp [String.toList_join, Function.comp_def, CamelWord.text, List.flatMap]
  have hchars : ∀ c ∈ camel.flatMap CamelWord.chars ++ tag.toList,
      c.isAlphanum := by
    intro c hc
    rcases List.mem_append.mp hc with hword | hcapital
    · obtain ⟨word, -, hc⟩ := List.mem_flatMap.mp hword
      exact word.isAlphanum_chars c hc
    · exact isAlphanum_of_isUpper (htag c hcapital)
  rw [hname, words_ofList hchars, cutWords_camel camel htag, List.map_append,
    map_cutWords_tag htag, List.map_map]
  rfl

theorem upper_tag (htag : ∀ c ∈ tag.toList, c.isUpper) : upper tag = tag := by
  have himage : tag.toList.map Char.toUpper = tag.toList := by
    have hraise := List.map_congr_left fun c hc =>
      toUpper_of_isUpper (htag c hc)
    rwa [List.map_id'] at hraise
  have hupper := upper_ofList_of_isAlphanum fun c hc =>
    isAlphanum_of_isUpper (htag c hc)
  rwa [himage, String.ofList_toList] at hupper

/-- The tokens that a name in camel case becomes. -/
theorem tokens_shouty_camel {camel : List CamelWord} (hcamel : camel ≠ [])
    (htag : ∀ c ∈ tag.toList, c.isUpper) :
    tokens (shouty (String.join (camel.map CamelWord.text) ++ tag)) =
      camel.map CamelWord.token ++ tagTokens tag := by
  have htagUpper : (tagTokens tag).map upper = tagTokens tag := by
    by_cases hempty : tag = ""
    · simp [tagTokens, hempty]
    · simp [tagTokens, hempty, upper_tag htag]
  have hupper : (camel.map CamelWord.text ++ tagTokens tag).map upper =
      camel.map CamelWord.token ++ tagTokens tag := by
    rw [List.map_append, List.map_map, htagUpper]
    simp [Function.comp_def]
  have hwords := words_camel camel htag
  rw [tokens_shouty, capitalWords, hwords, hupper]
  rw [hwords]
  simp [hcamel]

end Names

end VulkanRegistry.Naming
