import VulkanRegistry.Text.Alphanumeric
import VulkanRegistry.Text.CaseMapping
import VulkanRegistry.Text.Field

/-!
# The words of a name

A name is a sequence of words that capital letters and separators mark.  Within
a run of alphanumeric characters a word ends before a capital that follows a
small letter, and before the last of several capitals when a small letter
follows it.  A digit counts as the letter before it, so `R8G8` is one word.
-/

namespace VulkanRegistry.Naming

/-- The case of a letter that has one. -/
inductive Case where
  | lower
  | upper
  deriving DecidableEq, Repr

/-- The case of the last letter that has one, after one more character. -/
def Case.after (last : Option Case) (c : Char) : Option Case :=
  if Text.isLower c then some .lower
  else if Text.isUpper c then some .upper
  else last

/-- The words of a run of alphanumeric characters, where `last` is the case of
the last letter of the present word so far that has one. -/
def cutWords (last : Option Case) : List Char → List (List Char)
  | [] => []
  | [c] => [[c]]
  | c :: next :: rest =>
      let present := Case.after last c
      if present = some .lower ∧ Text.isUpper next then
        [c] :: cutWords none (next :: rest)
      else if last = some .upper ∧ Text.isUpper c ∧ Text.isLower next then
        [] :: Text.consField c (cutWords none (next :: rest))
      else Text.consField c (cutWords present (next :: rest))

/-- The words of a name. -/
def words (name : String) : List String :=
  ((Text.runsOf Text.isAlphanumeric name.toList).flatMap (cutWords none)).map
    String.ofList

/-- A name in capitals, with an underscore between its words. -/
def shouty (name : String) : String :=
  "_".intercalate ((words name).map Text.upper)

/-- The words of a run hold its characters in their order. -/
theorem flatten_cutWords (last : Option Case) (run : List Char) :
    (cutWords last run).flatten = run := by
  fun_induction cutWords last run with
  | case1 => simp
  | case2 => simp
  | case3 last c next rest present hcut ih => simp [ih]
  | case4 last c next rest present hcut hback ih =>
      simp [Text.flatten_consField, ih]
  | case5 last c next rest present hcut hback ih =>
      simp [Text.flatten_consField, ih]

end VulkanRegistry.Naming
