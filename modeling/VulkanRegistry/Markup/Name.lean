import VulkanRegistry.Markup.NameCharacter

/-!
# Names and qualified names

A qualified name is a local name, with or without a qualifier and a colon before
it.  Two names in a document are the same when they are written the same.
-/

namespace VulkanRegistry.Markup

/-- A name as it is written in a tag. -/
structure QualifiedName where
  qualifier : Option String
  localName : String
  deriving DecidableEq, Repr

/-- The name at the start of a text and the text after it. -/
def readName : List Char → Option (String × List Char)
  | [] => none
  | c :: rest =>
      if isNameStart c then
        some (String.ofList (c :: rest.takeWhile isNameCharacter),
          rest.dropWhile isNameCharacter)
      else none

/-- The qualified name at the start of a text and the text after it. -/
def readQualifiedName (text : List Char) : Option (QualifiedName × List Char) :=
  match readName text with
  | none => none
  | some (first, ':' :: rest) =>
      (readName rest).map fun (second, after) => (⟨some first, second⟩, after)
  | some (first, rest) => some (⟨none, first⟩, rest)

/-- A name takes at least one character. -/
theorem length_lt_of_readName {text rest : List Char} {name : String}
    (h : readName text = some (name, rest)) : rest.length < text.length := by
  cases text with
  | nil => simp [readName] at h
  | cons c tail =>
      rw [readName] at h
      split at h
      · obtain ⟨-, rfl⟩ := by simpa using h
        have bound :=
          (List.dropWhile_sublist (l := tail) isNameCharacter).length_le
        simp only [List.length_cons]
        omega
      · simp at h

/-- A qualified name takes at least one character. -/
theorem length_lt_of_readQualifiedName {text rest : List Char}
    {name : QualifiedName} (h : readQualifiedName text = some (name, rest)) :
    rest.length < text.length := by
  rw [readQualifiedName] at h
  split at h
  · simp at h
  · rename_i first tail hfirst
    have outer := length_lt_of_readName hfirst
    cases hsecond : readName tail with
    | none => simp [hsecond] at h
    | some found =>
        obtain ⟨second, after⟩ := found
        have inner := length_lt_of_readName hsecond
        simp only [hsecond, Option.map_some, Option.some.injEq,
          Prod.mk.injEq] at h
        obtain ⟨-, rfl⟩ := h
        simp only [List.length_cons] at outer
        omega
  · rename_i first tail _ hfirst
    obtain ⟨-, rfl⟩ := by simpa using h
    exact length_lt_of_readName hfirst

end VulkanRegistry.Markup
