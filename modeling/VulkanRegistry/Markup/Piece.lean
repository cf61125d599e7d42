import VulkanRegistry.Markup.DocumentType
import VulkanRegistry.Markup.Tag

/-!
# The pieces of a document

A document is read as a sequence of pieces: tags, character data, document types
and asides, which are comments and processing instructions.  Which piece begins
at a position is settled by the characters there, and every piece takes at least
one character.
-/

namespace VulkanRegistry.Markup

/-- A piece of a document. -/
inductive Piece where
  /-- A comment or a processing instruction. -/
  | aside
  /-- Character data as it is written, references included. -/
  | text (written : List Char)
  /-- Character data in which nothing has a special meaning. -/
  | literal (characters : List Char)
  | documentType
  | start (tag : StartTag)
  | finish (name : QualifiedName)

/-- The text after a comment, given the text after its opening.  Two hyphens end
a comment and stand nowhere else in it. -/
def skipComment (text : List Char) : Option (List Char) :=
  match Text.cutAt ['-', '-'] text with
  | some (_, '>' :: after) => some after
  | _ => none

/-- The text after a processing instruction, given the text after its opening.
The name of the document declaration, in whichever case, is reserved. -/
def skipInstruction (text : List Char) : Option (List Char) :=
  match readName text with
  | none => none
  | some (name, rest) =>
      if name.toLower = "xml" then none
      else
        match rest with
        | '?' :: '>' :: after => some after
        | c :: rest =>
            if isSpace c then (Text.cutAt ['?', '>'] rest).map Prod.snd
            else none
        | [] => none

/-- The piece that an angle bracket opens, given the text after the bracket. -/
def readMarkup (text : List Char) : Option (Piece × List Char) :=
  if ['!', '-', '-'].isPrefixOf text then
    (skipComment (text.drop 3)).map fun after => (.aside, after)
  else if "![CDATA[".toList.isPrefixOf text then
    (Text.cutAt [']', ']', '>'] (text.drop 8)).map fun (characters, after) =>
      (.literal characters, after)
  else if "!DOCTYPE".toList.isPrefixOf text then
    (skipDocumentType (text.drop 8)).map fun after => (.documentType, after)
  else
    match text with
    | '?' :: rest => (skipInstruction rest).map fun after => (.aside, after)
    | '/' :: rest =>
        (readEndTag rest).map fun (name, after) => (.finish name, after)
    | _ => (readStartTag text).map fun (tag, after) => (.start tag, after)

/-- The piece at the start of a text and the text after it.  Character data goes
on to the next angle bracket and does not hold the end of a literal section. -/
def readPiece : List Char → Option (Piece × List Char)
  | [] => none
  | c :: rest =>
      if c = '<' then readMarkup rest
      else
        let written := c :: rest.takeWhile (· != '<')
        if Text.occursIn [']', ']', '>'] written then none
        else some (.text written, rest.dropWhile (· != '<'))

theorem length_le_of_skipComment {text after : List Char}
    (h : skipComment text = some after) : after.length ≤ text.length := by
  rw [skipComment] at h
  split at h
  · rename_i before tail hcut
    obtain rfl := by simpa using h
    have bound := Text.length_le_of_cutAt hcut
    rw [List.length_cons] at bound
    omega
  · simp at h

theorem length_le_of_skipInstruction {text after : List Char}
    (h : skipInstruction text = some after) : after.length ≤ text.length := by
  rw [skipInstruction] at h
  split at h
  · simp at h
  · rename_i name rest hname
    have outer := length_lt_of_readName hname
    split at h
    · simp at h
    · split at h
      · obtain rfl := by simpa using h
        simp only [List.length_cons] at outer
        omega
      · split at h
        · obtain ⟨⟨before, tail⟩, hcut, rfl⟩ := Option.map_eq_some_iff.mp h
          have inner := Text.length_le_of_cutAt hcut
          simp only [List.length_cons] at outer ⊢
          omega
        · simp at h
      · simp at h

theorem length_le_of_readMarkup {text after : List Char} {piece : Piece}
    (h : readMarkup text = some (piece, after)) :
    after.length ≤ text.length := by
  unfold readMarkup at h
  split at h
  · obtain ⟨tail, htail, hpair⟩ := Option.map_eq_some_iff.mp h
    obtain ⟨-, rfl⟩ := Prod.mk.injEq .. ▸ hpair
    have bound := length_le_of_skipComment htail
    rw [List.length_drop] at bound
    omega
  · split at h
    · obtain ⟨⟨characters, tail⟩, hcut, hpair⟩ := Option.map_eq_some_iff.mp h
      obtain ⟨-, rfl⟩ := Prod.mk.injEq .. ▸ hpair
      have bound := Text.length_le_of_cutAt hcut
      rw [List.length_drop] at bound
      omega
    · split at h
      · obtain ⟨tail, htail, hpair⟩ := Option.map_eq_some_iff.mp h
        obtain ⟨-, rfl⟩ := Prod.mk.injEq .. ▸ hpair
        have bound := length_le_of_skipDocumentType htail
        rw [List.length_drop] at bound
        omega
      · split at h
        · obtain ⟨tail, htail, hpair⟩ := Option.map_eq_some_iff.mp h
          obtain ⟨-, rfl⟩ := Prod.mk.injEq .. ▸ hpair
          have bound := length_le_of_skipInstruction htail
          rw [List.length_cons]
          omega
        · obtain ⟨⟨name, tail⟩, htag, hpair⟩ := Option.map_eq_some_iff.mp h
          obtain ⟨-, rfl⟩ := Prod.mk.injEq .. ▸ hpair
          have bound := length_lt_of_readEndTag htag
          rw [List.length_cons]
          omega
        · obtain ⟨⟨tag, tail⟩, htag, hpair⟩ := Option.map_eq_some_iff.mp h
          obtain ⟨-, rfl⟩ := Prod.mk.injEq .. ▸ hpair
          exact Nat.le_of_lt (length_lt_of_readStartTag htag)

/-- A piece takes at least one character. -/
theorem length_lt_of_readPiece {text after : List Char} {piece : Piece}
    (h : readPiece text = some (piece, after)) :
    after.length < text.length := by
  cases text with
  | nil => simp [readPiece] at h
  | cons c rest =>
      simp only [readPiece] at h
      split at h
      · have bound := length_le_of_readMarkup h
        rw [List.length_cons]
        omega
      · split at h
        · simp at h
        · obtain ⟨-, rfl⟩ := by simpa using h
          have bound := length_dropWhile_le (· != '<') rest
          rw [List.length_cons]
          omega

/-- The pieces of a text, none of it left over. -/
def readPieces (text : List Char) : Option (List Piece) :=
  match text with
  | [] => some []
  | c :: rest =>
      match _hread : readPiece (c :: rest) with
      | none => none
      | some (piece, after) => (readPieces after).map (piece :: ·)
termination_by text.length
decreasing_by exact length_lt_of_readPiece _hread

end VulkanRegistry.Markup
