/-!
# Tables of code points

Character classes and letter maps are ascending tables.  An entry of a class is
a range of code points, or a run that takes every `step`-th code point of a
range, because capital and small letters alternate in many alphabets.  A search
stops at the first entry beyond the code point looked for, so ASCII characters
are settled by the first entries of a table.
-/

namespace VulkanRegistry.Text

/-- Whether a code point lies in one of the ascending ranges `(first, last)`. -/
def inRanges : List (Nat × Nat) → Nat → Bool
  | [], _ => false
  | (first, last) :: rest, n =>
      if n < first then false else if n ≤ last then true else inRanges rest n

/-- Whether a code point lies on one of the ascending runs `(first, last,
step)`. -/
def onRuns : List (Nat × Nat × Nat) → Nat → Bool
  | [], _ => false
  | (first, last, step) :: rest, n =>
      if n < first then false
      else if n ≤ last then (n - first) % step == 0
      else onRuns rest n

/-- The image of a code point under the ascending runs `(first, last, step,
image)`, where a run takes `first` to `image` and keeps distances. -/
def imageOnRuns : List (Nat × Nat × Nat × Nat) → Nat → Option Nat
  | [], _ => none
  | (first, last, step, image) :: rest, n =>
      if n < first then none
      else if n ≤ last then
        if (n - first) % step == 0 then some (image + (n - first)) else none
      else imageOnRuns rest n

/-- The sequence that an ascending list of exceptions gives for a code point. -/
def exceptionFor : List (Nat × List Nat) → Nat → Option (List Nat)
  | [], _ => none
  | (point, image) :: rest, n =>
      if n < point then none
      else if n = point then some image
      else exceptionFor rest n

end VulkanRegistry.Text
