import Mathlib.Data.List.Forall2
import Mathlib.Data.List.Induction
import VulkanRegistry.Naming.Words
import VulkanRegistry.Proofs.Text.Cut
import VulkanRegistry.Proofs.Text.LetterCase
import VulkanRegistry.Proofs.Text.Run

/-!
# Word boundaries

Where a word ends can be told from the run of characters around the place alone:
from the last letter with a case before it, from the capital after it, and from
the letter that follows the capital.  The cutting of words forgets the case of
the last letter at each cut.  This loses nothing, because next to a cut there is
always a letter with a case of its own, which decides in place of the forgotten
one.
-/

namespace VulkanRegistry.Naming

open Text

/-! ## The boundary rule -/

/-- The last character of a text that is lower-case or upper-case. -/
def lastCased (text : List Char) : Option Char :=
  (text.filter fun c => isLower c || isUpper c).getLast?

/-- The places at which a run is cut, where place `j` lies between the
characters `j` and `j + 1`. -/
structure IsBoundary (run : List Char) (j : Nat) : Prop where
  capital : ∃ c, run[j + 1]? = some c ∧ isUpper c = true
  turn : (∃ c, lastCased (run.take (j + 1)) = some c ∧ isLower c = true) ∨
    (∃ c, lastCased (run.take (j + 1)) = some c ∧ isUpper c = true) ∧
      ∃ c, run[j + 2]? = some c ∧ isLower c = true

/-- The case of the last letter of a text that has one. -/
def lastCase (text : List Char) : Option Case :=
  text.foldl Case.after none

theorem lastCase_append (text : List Char) (c : Char) :
    lastCase (text ++ [c]) = Case.after (lastCase text) c := by
  simp [lastCase]

theorem lastCased_append (text : List Char) (c : Char) :
    lastCased (text ++ [c]) =
      if isLower c = true ∨ isUpper c = true then some c
      else lastCased text := by
  by_cases h : isLower c = true ∨ isUpper c = true
  · simp [lastCased, List.filter_append, h]
  · simp only [not_or, Bool.not_eq_true] at h
    simp [lastCased, List.filter_append, h.1, h.2]

theorem lastCase_eq_lower_iff {text : List Char} :
    lastCase text = some .lower ↔
      ∃ c, lastCased text = some c ∧ isLower c = true := by
  induction text using List.reverseRecOn with
  | nil => simp [lastCase, lastCased]
  | append_singleton text c ih =>
      rw [lastCase_append, lastCased_append, Case.after]
      cases hl : isLower c <;> cases hu : isUpper c <;> simp [hl, ih]

theorem lastCase_eq_upper_iff {text : List Char} :
    lastCase text = some .upper ↔
      ∃ c, lastCased text = some c ∧ isUpper c = true := by
  induction text using List.reverseRecOn with
  | nil => simp [lastCase, lastCased]
  | append_singleton text c ih =>
      rw [lastCase_append, lastCased_append, Case.after]
      cases hl : isLower c with
      | false => cases hu : isUpper c <;> simp [hu, ih]
      | true => simp [not_isUpper_of_isLower hl]

/-- Whether a word ends between characters of which the last cased one has the
case `last` and the characters that follow them. -/
def endsBefore (last : Option Case) : List Char → Bool
  | [] => false
  | next :: rest =>
      isUpper next &&
        (last == some .lower || (last == some .upper && rest.head?.any isLower))

/-- The words of a run, cut wherever a word ends between the characters so far
and those that follow; `last` is never reset. -/
def cutSteadily (last : Option Case) : List Char → List (List Char)
  | [] => []
  | [c] => [[c]]
  | c :: next :: rest =>
      if endsBefore (Case.after last c) (next :: rest) then
        [c] :: cutSteadily (Case.after last c) (next :: rest)
      else consField c (cutSteadily (Case.after last c) (next :: rest))

/-- Two cases that no later cut tells apart: equal ones, or none after a reset,
which only happens next to a letter with a case of its own. -/
def Interchangeable (reset steady : Option Case) (c : Char) : Prop :=
  reset = steady ∨ reset = none ∧
    (steady = some .lower ∧ isUpper c = true ∨
      steady = some .upper ∧ isLower c = true)

theorem Interchangeable.after_eq {reset steady : Option Case} {c : Char}
    (h : Interchangeable reset steady c) :
    Case.after reset c = Case.after steady c := by
  rcases h with rfl | ⟨-, ⟨-, hupper⟩ | ⟨-, hlower⟩⟩
  · rfl
  · simp [Case.after, hupper]
  · simp [Case.after, hlower]

/-- A capital decides in place of a small letter that was forgotten. -/
theorem interchangeable_lower {next : Char} (hnext : isUpper next = true)
    (rest : List Char) :
    ∀ c ∈ (next :: rest).head?, Interchangeable none (some .lower) c := by
  intro c hc
  obtain rfl : next = c := by simpa using hc
  exact Or.inr ⟨rfl, Or.inl ⟨rfl, hnext⟩⟩

/-- A small letter decides in place of a capital that was forgotten. -/
theorem interchangeable_upper {next : Char} (hnext : isLower next = true)
    (rest : List Char) :
    ∀ c ∈ (next :: rest).head?, Interchangeable none (some .upper) c := by
  intro c hc
  obtain rfl : next = c := by simpa using hc
  exact Or.inr ⟨rfl, Or.inr ⟨rfl, hnext⟩⟩

/-- After a capital, a word ends before a capital that a small letter
follows. -/
theorem endsBefore_upper_iff {last : Option Case} {c next : Char}
    {rest : List Char} :
    last = some .upper ∧ endsBefore last (c :: next :: rest) = true ↔
      last = some .upper ∧ isUpper c = true ∧ isLower next = true := by
  refine and_congr_right ?_
  rintro rfl
  simp [endsBefore]

theorem eq_upper_of_endsBefore {last : Option Case} {next : Char}
    {rest : List Char} (h : endsBefore last (next :: rest) = true)
    (hcut : ¬(last = some .lower ∧ isUpper next = true)) :
    last = some .upper := by
  simp only [endsBefore, Bool.and_eq_true, Bool.or_eq_true, beq_iff_eq] at h
  obtain ⟨hnext, hlower | ⟨hupper, -⟩⟩ := h
  · exact absurd ⟨hlower, hnext⟩ hcut
  · exact hupper

theorem cutSteadily_of_lower {steady : Option Case} {c next : Char}
    {rest : List Char} (hafter : Case.after steady c = some .lower)
    (hnext : isUpper next = true) :
    cutSteadily steady (c :: next :: rest) =
      [c] :: cutSteadily (some .lower) (next :: rest) := by
  simp [cutSteadily, endsBefore, hafter, hnext]

theorem cutSteadily_of_upper {steady : Option Case} {c next : Char}
    {rest : List Char} (hupper : isUpper c = true)
    (hlower : isLower next = true) :
    cutSteadily steady (c :: next :: rest) =
      consField c (cutSteadily (some .upper) (next :: rest)) := by
  have hafter : Case.after steady c = some .upper := by
    simp [Case.after, hupper, not_isLower_of_isUpper hupper]
  simp [cutSteadily, endsBefore, hafter, not_isUpper_of_isLower hlower]

/-- The resets do not matter.  A cut before a capital that a small letter
follows is noticed at the capital; it leaves an empty word for what comes
before. -/
theorem cutWords_eq_cutSteadily {reset steady : Option Case} {run : List Char}
    (hsame : ∀ c ∈ run.head?, Interchangeable reset steady c) :
    cutWords reset run =
      if reset = some .upper ∧ endsBefore reset run = true then
        [] :: cutSteadily steady run
      else cutSteadily steady run := by
  fun_induction cutWords reset run generalizing steady with
  | case1 => simp [endsBefore, cutSteadily]
  | case2 => simp +contextual [endsBefore, cutSteadily]
  | case3 last c next rest present hcut =>
      rename_i ih
      obtain ⟨hpresent, hnext⟩ := hcut
      have hsteady : Case.after steady c = some .lower := by
        rw [← (hsame c rfl).after_eq]
        exact hpresent
      have hrest : cutWords none (next :: rest) =
          cutSteadily (some .lower) (next :: rest) := by
        simpa using ih (interchangeable_lower hnext rest)
      have hopen : ¬(last = some .upper ∧
          endsBefore last (c :: next :: rest) = true) := by
        rw [endsBefore_upper_iff]
        rintro ⟨-, -, hlower⟩
        exact absurd hnext (by simp [not_isUpper_of_isLower hlower])
      rw [if_neg hopen, cutSteadily_of_lower hsteady hnext, hrest]
  | case4 last c next rest present hcut hback =>
      rename_i ih
      obtain ⟨hlast, hupper, hlower⟩ := hback
      have hrest : cutWords none (next :: rest) =
          cutSteadily (some .upper) (next :: rest) := by
        simpa using ih (interchangeable_upper hlower rest)
      rw [if_pos (endsBefore_upper_iff.mpr ⟨hlast, hupper, hlower⟩),
        cutSteadily_of_upper hupper hlower, hrest]
  | case5 last c next rest present hcut hback =>
      rename_i ih
      have hsteady := (hsame c rfl).after_eq
      have hrest := ih fun _ _ => Or.inl rfl
      rw [if_neg (mt endsBefore_upper_iff.mp hback), cutSteadily, ← hsteady,
        hrest]
      by_cases hends : endsBefore present (next :: rest) = true
      · have hpresent := eq_upper_of_endsBefore hends hcut
        rw [if_pos ⟨hpresent, hends⟩, if_pos hends, consField]
      · have hkept : ¬(present = some .upper ∧
            endsBefore present (next :: rest) = true) :=
          fun hboth => hends hboth.2
        rw [if_neg hkept, if_neg hends]

/-- A place is a boundary when a word ends between the characters up to it and
those that follow. -/
theorem isBoundary_append_iff (before : List Char) (c next : Char)
    (rest : List Char) :
    IsBoundary (before ++ c :: next :: rest) before.length ↔
      endsBefore (lastCase (before ++ [c])) (next :: rest) = true := by
  have htaken : (before ++ c :: next :: rest).take (before.length + 1) =
      before ++ [c] := by
    rw [List.take_length_add_append]
    rfl
  have hnext : (before ++ c :: next :: rest)[before.length + 1]? =
      some next := by
    simp
  have hafter : (before ++ c :: next :: rest)[before.length + 2]? =
      rest.head? := by
    simp [List.getElem?_append_right, List.head?_eq_getElem?]
  have hrule : endsBefore (lastCase (before ++ [c])) (next :: rest) = true ↔
      isUpper next = true ∧ (lastCase (before ++ [c]) = some .lower ∨
        lastCase (before ++ [c]) = some .upper ∧
          ∃ d, rest.head? = some d ∧ isLower d = true) := by
    simp [endsBefore, Option.any_eq_true]
  rw [hrule, lastCase_eq_lower_iff, lastCase_eq_upper_iff]
  constructor
  · rintro ⟨hcapital, hturn⟩
    rw [hnext] at hcapital
    rw [htaken, hafter] at hturn
    obtain ⟨d, hd, hupper⟩ := hcapital
    cases hd
    exact ⟨hupper, hturn⟩
  · rintro ⟨hupper, hturn⟩
    constructor
    · exact ⟨next, hnext, hupper⟩
    · rw [htaken, hafter]
      exact hturn

/-- The induction is on what is left of a run; `before` is what has been cut. -/
theorem isCut_cutSteadily (before run : List Char) :
    IsCut (fun j => IsBoundary (before ++ run) (before.length + j)) run
      (cutSteadily (lastCase before) run) := by
  induction run generalizing before with
  | nil => exact ⟨rfl, by simp [cutSteadily], by simp⟩
  | cons c run ih =>
      cases run with
      | nil => exact ⟨rfl, by simp [cutSteadily], by simp⟩
      | cons next rest =>
          have hrest := ih (before ++ [c])
          rw [lastCase_append] at hrest
          have hplaces : (fun j => IsBoundary (before ++ [c] ++ next :: rest)
              ((before ++ [c]).length + j)) =
                fun j => IsBoundary (before ++ c :: next :: rest)
                  (before.length + (j + 1)) := by
            funext j
            rw [List.append_assoc, List.singleton_append, List.length_append,
              List.length_singleton, Nat.add_assoc, Nat.add_comm 1 j]
          rw [hplaces] at hrest
          have hfirst := isBoundary_append_iff before c next rest
          rw [lastCase_append] at hfirst
          rw [cutSteadily]
          split
          · rename_i hends
            exact hrest.cons_ending (hfirst.mpr hends)
          · rename_i hends
            exact hrest.cons_joining fun hboundary =>
              hends (hfirst.mp hboundary)

theorem isCut_cutWords (run : List Char) :
    IsCut (IsBoundary run) run (cutWords none run) := by
  have hsteady : cutWords none run = cutSteadily none run := by
    have hsame : ∀ c ∈ run.head?, Interchangeable none none c :=
      fun _ _ => Or.inl rfl
    simpa using cutWords_eq_cutSteadily hsame
  have hcut := isCut_cutSteadily [] run
  simp only [List.nil_append, List.length_nil, Nat.zero_add] at hcut
  rw [hsteady]
  exact hcut

/-! ## Names -/

/-- The words of a name as the rule has them: its maximal runs of alphanumeric
characters, in order, each cut exactly at its boundaries. -/
def HasWords (name : String) (found : List String) : Prop :=
  ∃ runs cuts, MaximalRuns isAlphanumeric name.toList runs ∧
    List.Forall₂ (fun run cut => IsCut (IsBoundary run) run cut) runs cuts ∧
    found = cuts.flatten.map String.ofList

theorem forall₂_isCut_iff {runs : List (List Char)}
    {cuts : List (List (List Char))} :
    List.Forall₂ (fun run cut => IsCut (IsBoundary run) run cut) runs cuts ↔
      cuts = runs.map (cutWords none) := by
  constructor
  · intro h
    have heach : List.Forall₂ (fun run cut => cutWords none run = cut) runs
        cuts :=
      h.imp fun run cut hcut => (isCut_cutWords run).unique hcut
    rw [← List.forall₂_map_left_iff, List.forall₂_eq_eq_eq] at heach
    exact heach.symm
  · rintro rfl
    rw [List.forall₂_map_right_iff]
    exact List.forall₂_same.mpr fun run _ => isCut_cutWords run

theorem hasWords_iff {name : String} {found : List String} :
    HasWords name found ↔ found = words name := by
  simp only [HasWords, maximalRuns_iff, forall₂_isCut_iff]
  rw [words, List.flatMap_def]
  constructor
  · rintro ⟨_, _, rfl, rfl, rfl⟩
    rfl
  · rintro rfl
    exact ⟨_, _, rfl, rfl, rfl⟩

theorem exists_piece_of_mem_words {name word : String}
    (h : word ∈ words name) :
    ∃ run ∈ runsOf isAlphanumeric name.toList,
      word.toList ∈ cutWords none run := by
  obtain ⟨piece, hpiece, rfl⟩ := List.mem_map.mp h
  rw [String.toList_ofList]
  exact List.mem_flatMap.mp hpiece

/-- A word is a part of a single run, so it does not reach over a separator. -/
theorem word_within_run {name word : String} (h : word ∈ words name) :
    word ≠ "" ∧ word.toList <:+: name.toList ∧
      ∀ c ∈ word.toList, isAlphanumeric c = true := by
  obtain ⟨run, hrun, hpiece⟩ := exists_piece_of_mem_words h
  obtain ⟨hinside, halphanumeric⟩ := isInfix_of_mem_runsOf hrun
  have hwithin : word.toList <:+: run := by
    have hflatten := List.infix_of_mem_flatten hpiece
    rwa [flatten_cutWords] at hflatten
  refine ⟨?_, hwithin.trans hinside, ?_⟩
  · rintro rfl
    exact (isCut_cutWords run).nonempty _ hpiece rfl
  · intro c hc
    exact halphanumeric c (hwithin.subset hc)

theorem join_words (name : String) :
    String.join (words name) =
      String.ofList (name.toList.filter isAlphanumeric) := by
  apply String.toList_injective
  have hcut : ((runsOf isAlphanumeric name.toList).flatMap
      (cutWords none)).flatten =
        (runsOf isAlphanumeric name.toList).flatten := by
    induction runsOf isAlphanumeric name.toList with
    | nil => rfl
    | cons run runs ih =>
        rw [List.flatMap_cons, List.flatten_append, ih, flatten_cutWords,
          List.flatten_cons]
  rw [String.toList_join, words, List.flatMap_map, String.toList_ofList,
    ← flatten_runsOf, ← hcut]
  simp [List.flatMap]

/-- The words of a name are what the boundary rule says and nothing else.  None
is empty, none reaches over a separator, and together they hold the alphanumeric
characters of the name. -/
theorem words_follow_boundaries (name : String) :
    (∀ found, HasWords name found ↔ found = words name) ∧
      (∀ word ∈ words name, word ≠ "" ∧ word.toList <:+: name.toList ∧
        ∀ c ∈ word.toList, isAlphanumeric c = true) ∧
      String.join (words name) =
        String.ofList (name.toList.filter isAlphanumeric) :=
  ⟨fun _ => hasWords_iff, fun _ => word_within_run, join_words name⟩

/-- A name with capitals in a row, digits between letters, a title-case letter
and separators. -/
theorem words_follow_boundaries_mixed :
    HasWords "HTTPServer--R8G8ǅx_3DType"
        ["HTTP", "Server", "R8G8ǅx", "3D", "Type"] ∧
      "HTTP" ∈ words "HTTPServer--R8G8ǅx_3DType" ∧
      "HTTP".toList <:+: "HTTPServer--R8G8ǅx_3DType".toList ∧
      String.join (words "HTTPServer--R8G8ǅx_3DType") =
        "HTTPServerR8G8ǅx3DType" := by
  obtain ⟨hrule, hword, hjoin⟩ :=
    words_follow_boundaries "HTTPServer--R8G8ǅx_3DType"
  have hwords : words "HTTPServer--R8G8ǅx_3DType" =
      ["HTTP", "Server", "R8G8ǅx", "3D", "Type"] := by
    decide +kernel
  have hmem : "HTTP" ∈ words "HTTPServer--R8G8ǅx_3DType" := by
    rw [hwords]
    exact List.mem_cons_self
  refine ⟨(hrule _).mpr hwords.symm, hmem, (hword _ hmem).2.1, ?_⟩
  rw [hjoin]
  decide +kernel

end VulkanRegistry.Naming
