import Mathlib.Data.List.Infix
import VulkanRegistry.Text.CaseMapping

/-!
# Small letters in context

The lower-case form of a character is its own affair, unless it is a capital
sigma: that one becomes a final sigma or not, as the characters on both sides
say.  So the lower-case form of a text may change when the text is put between
others.  `aΣ` becomes `aς`, but within `aΣa` it becomes `aσ`, and `Σ` alone
becomes `σ`, but `ς` behind a letter.

A capital sigma is open when a side of the text holds nothing that letter case
notices and the other side does not settle the form alone.  A text keeps its
lower-case form in every surrounding text exactly when none of its capital
sigmas is open.
-/

namespace VulkanRegistry.Text

/-! ## What a capital sigma meets -/

/-- The first character that letter case does not ignore. -/
def firstNoticed (text : List Char) : Option Char :=
  text.find? fun c => !inRanges caseIgnorableRanges c.toNat

theorem meetsCased_eq (text : List Char) :
    meetsCased text = (firstNoticed text).any isCased := by
  induction text with
  | nil => rfl
  | cons c rest ih =>
      rw [meetsCased, firstNoticed, List.find?_cons]
      by_cases hignored : inRanges caseIgnorableRanges c.toNat = true
      · simp [hignored, ih, firstNoticed]
      · simp [hignored]

theorem firstNoticed_append (text more : List Char) :
    firstNoticed (text ++ more) = (firstNoticed text).or (firstNoticed more) :=
  List.find?_append

theorem firstNoticed_sigma (rest : List Char) :
    firstNoticed ('\u03A3' :: rest) = some '\u03A3' := by
  rw [firstNoticed, List.find?_cons_of_pos]
  decide +kernel

/-- Whether a capital sigma becomes a final one between the characters before
it, nearest first, and the characters after it. -/
def isFinal (before after : List Char) : Bool :=
  meetsCased before && !meetsCased after

theorem lowerChar_sigma (before after : List Char) :
    lowerChar before '\u03A3' after =
      [if isFinal before after then '\u03C2' else '\u03C3'] := by
  rw [lowerChar, if_pos rfl, isFinal]
  split <;> rfl

theorem lowerChar_of_ne {c : Char} (hc : c ≠ '\u03A3')
    (before others after rest : List Char) :
    lowerChar before c after = lowerChar others c rest := by
  rw [lowerChar, lowerChar, if_neg hc, if_neg hc]

/-! ## Texts between others -/

/-- The lower-case form of a text between the characters before it, nearest
first, and the characters after it. -/
def lowerBetween (before : List Char) : List Char → List Char → List Char
  | [], _ => []
  | c :: rest, after =>
      lowerChar before c (rest ++ after) ++
        lowerBetween (c :: before) rest after

theorem lowerBetween_empty (before after : List Char) :
    lowerBetween before [] after = [] := rfl

theorem lowerBetween_nil (before text : List Char) :
    lowerBetween before text [] = lowerAfter before text := by
  induction text generalizing before with
  | nil => rfl
  | cons c rest ih => rw [lowerBetween, lowerAfter, List.append_nil, ih]

theorem lowerBetween_append (before text more after : List Char) :
    lowerBetween before (text ++ more) after =
      lowerBetween before text (more ++ after) ++
        lowerBetween (text.reverse ++ before) more after := by
  induction text generalizing before with
  | nil => rfl
  | cons c rest ih =>
      rw [List.cons_append, lowerBetween, lowerBetween, ih]
      simp

/-- Only what letter case notices first on either side matters. -/
theorem lowerBetween_congr {before others after rest : List Char}
    (hbefore : firstNoticed before = firstNoticed others)
    (hafter : firstNoticed after = firstNoticed rest) (text : List Char) :
    lowerBetween before text after = lowerBetween others text rest := by
  induction text generalizing before others with
  | nil => rfl
  | cons c text ih =>
      have hnext : firstNoticed (c :: before) = firstNoticed (c :: others) := by
        rw [← List.singleton_append, firstNoticed_append, hbefore,
          ← firstNoticed_append, List.singleton_append]
      have hchar : lowerChar before c (text ++ after) =
          lowerChar others c (text ++ rest) := by
        by_cases hsigma : c = '\u03A3'
        · subst hsigma
          simp only [lowerChar_sigma, isFinal, meetsCased_eq, hbefore,
            firstNoticed_append, hafter]
        · exact lowerChar_of_ne hsigma _ _ _ _
      rw [lowerBetween, lowerBetween, hchar, ih hnext]

/-! ## Open sigmas -/

/-- A capital sigma whose form hangs on what a text stands in, given the
characters of the text before it, nearest first, and after it. -/
def IsOpen (before after : List Char) : Prop :=
  (firstNoticed before = none ∧ meetsCased after = false) ∨
    (firstNoticed after = none ∧ meetsCased before = true)

instance (before after : List Char) : Decidable (IsOpen before after) :=
  inferInstanceAs (Decidable (_ ∨ _))

/-- A text in which no capital sigma is open. -/
def IsSettled (text : List Char) : Prop :=
  ∀ before after, text = before ++ '\u03A3' :: after →
    ¬ IsOpen before.reverse after

theorem isFinal_append_of_not_isOpen {before after : List Char}
    (h : ¬ IsOpen before after) (earlier later : List Char) :
    isFinal (before ++ earlier) (after ++ later) = isFinal before after := by
  simp only [IsOpen, not_or, not_and, Bool.not_eq_false,
    Bool.not_eq_true] at h
  obtain ⟨hfront, hback⟩ := h
  simp only [isFinal, meetsCased_eq, firstNoticed_append] at hfront hback ⊢
  rcases hbefore : firstNoticed before with _ | c
  · -- Nothing is noticed in front, so a cased character follows.
    have hcased := hfront hbefore
    rcases hafter : firstNoticed after with _ | d
    · simp [hafter] at hcased
    · simp_all
  · rcases hafter : firstNoticed after with _ | d
    · -- Nothing is noticed behind, so no cased character comes before.
      have huncased := hback hafter
      simp_all
    · simp

/-- The form of a settled text between others, where a part of the text, which
stands in front of it, has been read already. -/
theorem lowerBetween_of_settled {read text : List Char}
    (h : ∀ before after, text = before ++ '\u03A3' :: after →
      ¬ IsOpen (before.reverse ++ read) after) (earlier later : List Char) :
    lowerBetween (read ++ earlier) text later = lowerBetween read text [] := by
  induction text generalizing read with
  | nil => rfl
  | cons c rest ih =>
      have hrest : ∀ before after, rest = before ++ '\u03A3' :: after →
          ¬ IsOpen (before.reverse ++ (c :: read)) after := by
        rintro before after rfl
        have hopen := h (c :: before) after rfl
        rwa [List.reverse_cons, List.append_assoc] at hopen
      have hchar : lowerChar (read ++ earlier) c (rest ++ later) =
          lowerChar read c (rest ++ []) := by
        by_cases hsigma : c = '\u03A3'
        · subst hsigma
          have hopen : ¬ IsOpen read rest := h [] rest rfl
          rw [lowerChar_sigma, lowerChar_sigma, List.append_nil,
            isFinal_append_of_not_isOpen hopen]
        · exact lowerChar_of_ne hsigma _ _ _ _
      rw [lowerBetween, lowerBetween, hchar, ← List.cons_append, ih hrest]

/-- The form of a text without capital sigmas does not hang on anything. -/
theorem lowerBetween_of_not_mem {text : List Char} (h : '\u03A3' ∉ text)
    (before after : List Char) :
    lowerBetween before text after = lowerBetween [] text [] := by
  have hsettled : ∀ front back, text = front ++ '\u03A3' :: back →
      ¬ IsOpen (front.reverse ++ []) back := by
    rintro front back rfl
    exact absurd (by simp) h
  exact lowerBetween_of_settled hsettled before after

theorem sigma_not_mem_of_firstNoticed {text : List Char}
    (h : firstNoticed text = none) : '\u03A3' ∉ text := by
  intro hmem
  have hignored := List.find?_eq_none.mp h _ hmem
  revert hignored
  decide +kernel

/-! ## The form of a text within another -/

/-- The lower-case form of a text occurs in that of every text that it
occurs in. -/
def KeepsForm (text : String) : Prop :=
  ∀ name : String, text.toList <:+: name.toList →
    (lower text).toList <:+: (lower name).toList

theorem toList_lower (text : String) :
    (lower text).toList = lowerBetween [] text.toList [] := by
  rw [lower, String.toList_ofList, lowerBetween_nil]

theorem toList_lower_surrounded {name : String} {front text back : List Char}
    (hname : name.toList = front ++ text ++ back) :
    (lower name).toList =
      lowerBetween [] front (text ++ back) ++
        lowerBetween front.reverse text back ++
        lowerBetween (text.reverse ++ front.reverse) back [] := by
  rw [toList_lower, hname, lowerBetween_append, lowerBetween_append,
    List.reverse_append]
  simp only [List.append_nil]

theorem keepsForm_of_isSettled {text : String} (h : IsSettled text.toList) :
    KeepsForm text := by
  rintro name ⟨front, back, hname⟩
  have hsettled : ∀ before after, text.toList = before ++ '\u03A3' :: after →
      ¬ IsOpen (before.reverse ++ []) after := by
    intro before after htext
    rw [List.append_nil]
    exact h before after htext
  have hform := lowerBetween_of_settled hsettled front.reverse back
  rw [List.nil_append] at hform
  rw [toList_lower_surrounded hname.symm, hform, toList_lower]
  exact ⟨_, _, rfl⟩

/-- The form of a text around one of its sigmas. -/
theorem lowerBetween_sigma (before front back after : List Char) :
    lowerBetween before (front ++ '\u03A3' :: back) after =
      lowerBetween before front ('\u03A3' :: back) ++
        (if isFinal (front.reverse ++ before) (back ++ after) then '\u03C2'
          else '\u03C3') ::
        lowerBetween ('\u03A3' :: front.reverse) back after := by
  have hfront : firstNoticed ('\u03A3' :: back ++ after) =
      firstNoticed ('\u03A3' :: back) := by
    rw [List.cons_append, firstNoticed_sigma, firstNoticed_sigma]
  have hback : firstNoticed ('\u03A3' :: (front.reverse ++ before)) =
      firstNoticed ('\u03A3' :: front.reverse) := by
    rw [firstNoticed_sigma, firstNoticed_sigma]
  rw [lowerBetween_append, lowerBetween, lowerChar_sigma,
    lowerBetween_congr rfl hfront, lowerBetween_congr hback rfl]
  rfl

/-- A text with one character exchanged does not occur where nothing else of
that character stands around it. -/
theorem not_infix_of_exchanged {c d : Char} (hne : d ≠ c)
    {front before after back : List Char} (hfront : c ∉ front)
    (hback : c ∉ back) :
    ¬ before ++ c :: after <:+: front ++ (before ++ d :: after) ++ back := by
  intro hinside
  have hcount := hinside.sublist.count_le c
  simp only [List.count_append, List.count_cons_self,
    List.count_cons_of_ne hne, List.count_eq_zero.mpr hfront,
    List.count_eq_zero.mpr hback] at hcount
  omega

theorem lowerBetween_letter (before after : List Char) :
    lowerBetween before ['a'] after = ['a'] := by
  rw [lowerBetween_of_not_mem (by decide)]
  decide

/-- Where nothing is noticed in front of an open sigma, a letter in front makes
it a final one. -/
theorem not_keepsForm_of_open_front {text : String} {before after : List Char}
    (htext : text.toList = before ++ '\u03A3' :: after)
    (hnone : firstNoticed before.reverse = none)
    (huncased : meetsCased after = false) : ¬ KeepsForm text := by
  intro hkeeps
  have hplain : '\u03A3' ∉ before := by
    rw [← List.mem_reverse]
    exact sigma_not_mem_of_firstNoticed hnone
  have hfinal : isFinal before.reverse after = false := by
    rw [isFinal, meetsCased_eq, hnone]
    rfl
  have hchanged : isFinal (before.reverse ++ ['a']) after = true := by
    rw [isFinal, huncased, meetsCased_eq, firstNoticed_append, hnone]
    decide
  have hname : (String.ofList ('a' :: text.toList)).toList =
      ['a'] ++ text.toList ++ [] := by simp
  have hinside := hkeeps _ ⟨['a'], [], hname.symm⟩
  rw [toList_lower_surrounded hname, toList_lower, htext, lowerBetween_sigma,
    lowerBetween_sigma, lowerBetween_letter] at hinside
  simp only [List.append_nil, List.reverse_singleton, hfinal, hchanged,
    lowerBetween_empty, lowerBetween_of_not_mem hplain] at hinside
  rw [← List.append_nil (['a'] ++ _)] at hinside
  exact not_infix_of_exchanged (by decide) (by decide) (by decide) hinside

/-- Where nothing is noticed behind an open sigma, a letter behind keeps it from
being a final one. -/
theorem not_keepsForm_of_open_back {text : String} {before after : List Char}
    (htext : text.toList = before ++ '\u03A3' :: after)
    (hnone : firstNoticed after = none)
    (hcased : meetsCased before.reverse = true) : ¬ KeepsForm text := by
  intro hkeeps
  have hplain : '\u03A3' ∉ after := sigma_not_mem_of_firstNoticed hnone
  have hfinal : isFinal before.reverse after = true := by
    rw [isFinal, hcased, meetsCased_eq, hnone]
    rfl
  have hchanged : isFinal before.reverse (after ++ ['a']) = false := by
    rw [isFinal, hcased, meetsCased_eq, firstNoticed_append, hnone]
    decide
  have hname : (String.ofList (text.toList ++ ['a'])).toList =
      [] ++ text.toList ++ ['a'] := by simp
  have hinside := hkeeps _ ⟨[], ['a'], hname.symm⟩
  rw [toList_lower_surrounded hname, toList_lower, htext, List.reverse_nil,
    lowerBetween_sigma, lowerBetween_sigma, lowerBetween_letter] at hinside
  simp only [List.append_nil, hfinal, hchanged, lowerBetween_empty,
    lowerBetween_of_not_mem hplain] at hinside
  exact not_infix_of_exchanged (by decide) (by decide) (by decide) hinside

theorem keepsForm_iff (text : String) :
    KeepsForm text ↔ IsSettled text.toList := by
  refine ⟨?_, keepsForm_of_isSettled⟩
  intro hkeeps before after htext hopen
  rcases hopen with ⟨hnone, huncased⟩ | ⟨hnone, hcased⟩
  · exact not_keepsForm_of_open_front htext hnone huncased hkeeps
  · exact not_keepsForm_of_open_back htext hnone hcased hkeeps

end VulkanRegistry.Text
