import VulkanRegistry.Markup.Name
import VulkanRegistry.Markup.Reference

/-!
# Tags

A start tag holds a name and attributes.  Each attribute has a space before it,
and its value stands between two equal quotation marks, holds no opening angle
bracket, and has each tab and line feed replaced by a space unless it is written
as a reference.
-/

namespace VulkanRegistry.Markup

/-- An attribute as it is written. -/
structure WrittenAttribute where
  name : QualifiedName
  value : String
  deriving DecidableEq, Repr

/-- The start tag of an element, which is also its end tag when it is
`selfClosing`. -/
structure StartTag where
  name : QualifiedName
  attributes : List WrittenAttribute
  selfClosing : Bool
  deriving DecidableEq, Repr

/-- A space for each character that separates the parts of a tag. -/
def flattenSpace (c : Char) : Char :=
  if isSpace c then ' ' else c

/-- The value between quotation marks that follows an equals sign, and the text
after it. -/
def readValue (text : List Char) : Option (String × List Char) :=
  match text.dropWhile isSpace with
  | [] => none
  | mark :: rest =>
      if mark = '\x22' ∨ mark = '\x27' then
        match Text.cutAt [mark] rest with
        | none => none
        | some (written, after) =>
            if written.contains '<' then none
            else
              (resolveReferences flattenSpace written).map fun value =>
                (String.ofList value, after)
      else none

/-- The attribute at the start of a text and the text after it. -/
def readAttribute (text : List Char) : Option (WrittenAttribute × List Char) :=
  match readQualifiedName text with
  | none => none
  | some (name, rest) =>
      match rest.dropWhile isSpace with
      | '=' :: rest =>
          (readValue rest).map fun (value, after) => (⟨name, value⟩, after)
      | _ => none

theorem length_dropWhile_le (p : Char → Bool) (text : List Char) :
    (text.dropWhile p).length ≤ text.length :=
  (List.dropWhile_sublist p).length_le

theorem length_le_of_readValue {text rest : List Char} {value : String}
    (h : readValue text = some (value, rest)) : rest.length ≤ text.length := by
  have trimmed := length_dropWhile_le isSpace text
  rw [readValue] at h
  split at h
  · simp at h
  · rename_i mark tail htail
    rw [htail, List.length_cons] at trimmed
    split at h
    · split at h
      · simp at h
      · rename_i written after hcut
        have bound := Text.length_le_of_cutAt hcut
        split at h
        · simp at h
        · obtain ⟨resolved, -, hpair⟩ := Option.map_eq_some_iff.mp h
          obtain ⟨-, rfl⟩ := Prod.mk.injEq .. ▸ hpair
          omega
    · simp at h

/-- An attribute takes at least one character. -/
theorem length_lt_of_readAttribute {text rest : List Char}
    {found : WrittenAttribute} (h : readAttribute text = some (found, rest)) :
    rest.length < text.length := by
  rw [readAttribute] at h
  split at h
  · simp at h
  · rename_i name tail hname
    have outer := length_lt_of_readQualifiedName hname
    have trimmed := length_dropWhile_le isSpace tail
    split at h
    · rename_i body hbody
      rw [hbody, List.length_cons] at trimmed
      obtain ⟨value, hvalue, hpair⟩ := Option.map_eq_some_iff.mp h
      have inner := length_le_of_readValue hvalue
      obtain ⟨-, rfl⟩ := Prod.mk.injEq .. ▸ hpair
      omega
    · simp at h

/-- The attributes at the start of a text, each with a space before it, and the
text after them and after the space that ends them. -/
def readAttributes (text : List Char) : List WrittenAttribute × List Char :=
  match text with
  | [] => ([], [])
  | c :: rest =>
      if isSpace c then
        match _hread : readAttribute (rest.dropWhile isSpace) with
        | none => ([], rest.dropWhile isSpace)
        | some (found, after) =>
            let (more, beyond) := readAttributes after
            (found :: more, beyond)
      else ([], c :: rest)
termination_by text.length
decreasing_by
  have outer := length_lt_of_readAttribute _hread
  have trimmed := length_dropWhile_le isSpace rest
  simp only [List.length_cons]
  omega

theorem length_readAttributes_le (text : List Char) :
    (readAttributes text).2.length ≤ text.length := by
  fun_induction readAttributes text with
  | case1 => simp
  | case2 c rest _ _ =>
      have trimmed := length_dropWhile_le isSpace rest
      simp only [List.length_cons]
      omega
  | case3 c rest _ found after hfound more beyond hmore ih =>
      have outer := length_lt_of_readAttribute hfound
      have trimmed := length_dropWhile_le isSpace rest
      simp only [hmore] at ih
      simp only [List.length_cons]
      omega
  | case4 c rest _ => simp

/-- The start tag whose name begins a text, and the text after the tag. -/
def readStartTag (text : List Char) : Option (StartTag × List Char) :=
  match readQualifiedName text with
  | none => none
  | some (name, rest) =>
      match readAttributes rest with
      | (attributes, '>' :: after) => some (⟨name, attributes, false⟩, after)
      | (attributes, '/' :: '>' :: after) =>
          some (⟨name, attributes, true⟩, after)
      | _ => none

/-- The name of the end tag whose name begins a text, and the text after the
tag. -/
def readEndTag (text : List Char) : Option (QualifiedName × List Char) :=
  match readQualifiedName text with
  | none => none
  | some (name, rest) =>
      match rest.dropWhile isSpace with
      | '>' :: after => some (name, after)
      | _ => none

/-- A start tag takes at least one character. -/
theorem length_lt_of_readStartTag {text rest : List Char} {tag : StartTag}
    (h : readStartTag text = some (tag, rest)) : rest.length < text.length := by
  rw [readStartTag] at h
  split at h
  · simp at h
  · rename_i name tail hname
    have outer := length_lt_of_readQualifiedName hname
    have bound := length_readAttributes_le tail
    split at h
    · rename_i attributes after hafter
      obtain ⟨-, rfl⟩ := by simpa using h
      rw [hafter, List.length_cons] at bound
      omega
    · rename_i attributes after hafter
      obtain ⟨-, rfl⟩ := by simpa using h
      rw [hafter, List.length_cons, List.length_cons] at bound
      omega
    · simp at h

/-- An end tag takes at least one character. -/
theorem length_lt_of_readEndTag {text rest : List Char} {name : QualifiedName}
    (h : readEndTag text = some (name, rest)) : rest.length < text.length := by
  rw [readEndTag] at h
  split at h
  · simp at h
  · rename_i found tail hname
    have outer := length_lt_of_readQualifiedName hname
    have trimmed := length_dropWhile_le isSpace tail
    split at h
    · rename_i after hafter
      obtain ⟨-, rfl⟩ := by simpa using h
      rw [hafter, List.length_cons] at trimmed
      omega
    · simp at h

end VulkanRegistry.Markup
