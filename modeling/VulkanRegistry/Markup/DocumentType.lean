import VulkanRegistry.Markup.Character
import VulkanRegistry.Markup.Name
import VulkanRegistry.Text.Search

/-!
# The document type

A document type holds a name and may point to declarations elsewhere, by a
system identifier with or without a public one.  Those declarations are not
read.  A document type with declarations of its own is not provided for: it has
no end that is found here.
-/

namespace VulkanRegistry.Markup

/-- Whether a character may stand in a public identifier. -/
def isPublicCharacter (c : Char) : Bool :=
  c.isAlphanum || " \n-'()+,./:=?;!*#@$_%".toList.contains c

/-- The text after the space that it begins with, of which there is some. -/
def skipSpace (text : List Char) : Option (List Char) :=
  if (text.head?.map isSpace).getD false then some (text.dropWhile isSpace)
  else none

/-- The text between the quotation marks at the start of a text, and the text
after them. -/
def readQuoted : List Char → Option (List Char × List Char)
  | [] => none
  | mark :: rest =>
      if mark = '\x22' ∨ mark = '\x27' then Text.cutAt [mark] rest else none

/-- The text after the identifiers that it begins with, if it begins with
any. -/
def skipIdentifiers (text : List Char) : Option (List Char) :=
  if "SYSTEM".toList.isPrefixOf text then do
    let (_, after) ← readQuoted (← skipSpace (text.drop 6))
    return after
  else if "PUBLIC".toList.isPrefixOf text then do
    let (_, after) ←
      (readQuoted (← skipSpace (text.drop 6))).filter fun (identifier, _) =>
        identifier.all isPublicCharacter
    let (_, after) ← readQuoted (← skipSpace after)
    return after
  else some text

/-- The text after a document type, given the text after its keyword. -/
def skipDocumentType (text : List Char) : Option (List Char) := do
  let (_, after) ← readQualifiedName (← skipSpace text)
  let after ← (skipSpace after).elim (some after) skipIdentifiers
  match after.dropWhile isSpace with
  | '>' :: after => some after
  | _ => none

theorem length_le_of_skipSpace {text after : List Char}
    (h : skipSpace text = some after) : after.length ≤ text.length := by
  rw [skipSpace] at h
  split at h
  · cases h
    exact (List.dropWhile_sublist isSpace).length_le
  · cases h

theorem length_le_of_readQuoted {text quoted after : List Char}
    (h : readQuoted text = some (quoted, after)) :
    after.length ≤ text.length := by
  cases text with
  | nil => cases h
  | cons mark rest =>
      rw [readQuoted] at h
      split at h
      · have bound := Text.length_le_of_cutAt h
        simp only [List.length_cons]
        omega
      · cases h

theorem length_le_of_skipIdentifiers {text after : List Char}
    (h : skipIdentifiers text = some after) : after.length ≤ text.length := by
  have trimmed := List.length_drop (i := 6) (l := text)
  rw [skipIdentifiers] at h
  split at h
  · simp only [Option.bind_eq_bind, Option.bind_eq_some_iff] at h
    obtain ⟨body, hbody, ⟨quoted, rest⟩, hquoted, h⟩ := h
    obtain rfl : rest = after := Option.some.inj h
    have outer := length_le_of_skipSpace hbody
    have inner := length_le_of_readQuoted hquoted
    omega
  · split at h
    · simp only [Option.bind_eq_bind, Option.bind_eq_some_iff] at h
      obtain ⟨body, hbody, ⟨identifier, rest⟩, hidentifier, next, hnext,
        ⟨quoted, tail⟩, hquoted, h⟩ := h
      obtain rfl : tail = after := Option.some.inj h
      have outer := length_le_of_skipSpace hbody
      have first :=
        length_le_of_readQuoted (Option.filter_eq_some_iff.mp hidentifier).1
      have between : next.length ≤ rest.length := length_le_of_skipSpace hnext
      have second := length_le_of_readQuoted hquoted
      omega
    · cases h
      exact Nat.le_refl _

/-- What follows a document type is no longer than the text. -/
theorem length_le_of_skipDocumentType {text after : List Char}
    (h : skipDocumentType text = some after) : after.length ≤ text.length := by
  simp only [skipDocumentType, Option.bind_eq_bind,
    Option.bind_eq_some_iff] at h
  obtain ⟨body, hbody, ⟨name, rest⟩, hname, tail, htail, h⟩ := h
  have outer := length_le_of_skipSpace hbody
  have named := length_lt_of_readQualifiedName hname
  have inner : tail.length ≤ rest.length := by
    cases hspace : skipSpace rest with
    | none =>
        simp only [hspace, Option.elim_none, Option.some.injEq] at htail
        exact Nat.le_of_eq (congrArg List.length htail.symm)
    | some found =>
        simp only [hspace, Option.elim_some] at htail
        exact Nat.le_trans (length_le_of_skipIdentifiers htail)
          (length_le_of_skipSpace hspace)
  have trimmed := (List.dropWhile_sublist (l := tail) isSpace).length_le
  split at h
  · rename_i final hfinal
    cases h
    rw [hfinal, List.length_cons] at trimmed
    omega
  · cases h

end VulkanRegistry.Markup
