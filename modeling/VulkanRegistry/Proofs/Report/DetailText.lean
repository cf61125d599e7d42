import VulkanRegistry.Proofs.Registry.Reading
import VulkanRegistry.Proofs.Text.Word
import VulkanRegistry.Report.Detail

/-!
# Reading a detail back

The text of a detail determines the whole summary, provided that names can be
told from notes: raw names, derived names and extensions hold no blanks, a
derived name does not begin with a bracket, and no extension is called `alias`.
A row is read word by word.  Its first word is the raw name, a second word that
does not begin with a bracket is the derived name, and the words of the note are
last.  So neither the widths of the columns nor the trimming of the row matters,
even where the derived name is empty.
-/

namespace VulkanRegistry.Detail

open Text

/-! ## Rows -/

/-- The words of the note on a variant. -/
def noteWords (variant : Variant) : List (List Char) :=
  match variant.extension, variant.isAlias with
  | none, false => []
  | none, true => ["[alias]".toList]
  | some extension, false => ['[' :: (extension.toList ++ [']'])]
  | some extension, true =>
      ['[' :: (extension.toList ++ [',']), "alias]".toList]

/-- The words of the row of a variant. -/
def rowWords (variant : Variant) : List (List Char) :=
  variant.rawName.toList ::
    ((if variant.name = "" then [] else [variant.name.toList]) ++
      noteWords variant)

/-- A variant without blanks in its names and its extension. -/
structure HasNoBlank (variant : Variant) : Prop where
  rawName : IsBlankFree variant.rawName
  name : IsBlankFree variant.name
  extension : ∀ extension ∈ variant.extension, IsBlankFree extension

/-- A variant whose raw name, derived name and note can be told apart. -/
structure HasLegibleRow (variant : Variant) : Prop where
  rawName : variant.rawName ≠ "" ∧ IsBlankFree variant.rawName
  name : IsBlankFree variant.name
  bracket : variant.name.toList.head? ≠ some '['
  extension : ∀ extension ∈ variant.extension,
    extension ≠ "" ∧ IsBlankFree extension ∧ extension ≠ "alias"

instance : DecidablePred HasLegibleRow := fun variant =>
  decidable_of_iff
    ((variant.rawName ≠ "" ∧ IsBlankFree variant.rawName) ∧
      IsBlankFree variant.name ∧ variant.name.toList.head? ≠ some '[' ∧
      ∀ extension ∈ variant.extension,
        extension ≠ "" ∧ IsBlankFree extension ∧ extension ≠ "alias")
    ⟨fun ⟨hrawName, hname, hbracket, hextension⟩ =>
        ⟨hrawName, hname, hbracket, hextension⟩,
      fun h => ⟨h.rawName, h.name, h.bracket, h.extension⟩⟩

theorem HasLegibleRow.hasNoBlank {variant : Variant}
    (h : HasLegibleRow variant) : HasNoBlank variant :=
  ⟨h.rawName.2, h.name,
    fun extension hfound => (h.extension extension hfound).2.1⟩

section Rows

variable {variant other : Variant}

theorem wordsOf_row_eq (rawWidth nameWidth : Nat) (variant : Variant) :
    wordsOf (row rawWidth nameWidth variant).toList =
      wordsOf ("    ".toList ++ ((padEnd rawWidth variant.rawName).toList ++
        ("  ".toList ++ ((padEnd nameWidth variant.name).toList ++
          (noteText variant).toList)))) := by
  rw [row, wordsOf_trimEnd]
  simp only [String.toList_append, List.append_assoc]

/-- A note stands in brackets behind two spaces, if there is one. -/
theorem toList_noteText (variant : Variant) :
    (noteText variant).toList =
      match variant.extension, variant.isAlias with
      | none, false => []
      | none, true => "  [alias]".toList
      | some extension, false =>
          [' ', ' '] ++ '[' :: (extension.toList ++ [']'])
      | some extension, true =>
          [' ', ' '] ++ ('[' :: (extension.toList ++ [',']) ++
            ' ' :: "alias]".toList) := by
  rcases hextension : variant.extension with _ | extension <;>
    rcases halias : variant.isAlias with _ | _ <;>
    simp [noteText, notes, hextension, halias]

theorem head?_noteText (variant : Variant) :
    ∀ c ∈ (noteText variant).toList.head?, c = ' ' := by
  rw [toList_noteText]
  split <;> simp

/-- An extension with its bracket and the character behind it. -/
theorem isBlank_of_mem_bracketed {extension : String} {last : Char}
    (hextension : IsBlankFree extension) (hlast : isBlank last = false) :
    ∀ c ∈ '[' :: (extension.toList ++ [last]), isBlank c = false := by
  intro c hc
  rw [List.mem_cons, List.mem_append, List.mem_singleton] at hc
  rcases hc with rfl | hc | rfl
  · decide
  · exact hextension c hc
  · exact hlast

theorem wordsOf_noteText (h : HasLegibleRow variant) :
    wordsOf (noteText variant).toList = noteWords variant := by
  have hgap : ∀ c ∈ [' ', ' '], isBlank c = true :=
    fun _ hc => isBlank_of_mem_spaces (n := 2) hc
  rw [toList_noteText, noteWords]
  split
  · rfl
  · decide
  · rename_i extension hextension _
    obtain ⟨-, hblankFree, -⟩ := h.extension extension hextension
    rw [wordsOf_blanks_append hgap]
    apply wordsOf_word (List.cons_ne_nil _ _)
    exact isBlank_of_mem_bracketed hblankFree (by decide)
  · rename_i extension hextension _
    obtain ⟨-, hblankFree, -⟩ := h.extension extension hextension
    rw [wordsOf_blanks_append hgap, wordsOf_append_blank (by decide),
      wordsOf_word (List.cons_ne_nil _ _)]
    · rfl
    · exact isBlank_of_mem_bracketed hblankFree (by decide)

theorem wordsOf_row (h : HasLegibleRow variant) (rawWidth nameWidth : Nat) :
    wordsOf (row rawWidth nameWidth variant).toList = rowWords variant := by
  have hspaces : ∀ c ∈ "    ".toList, isBlank c = true :=
    fun _ hc => isBlank_of_mem_spaces (n := 4) hc
  have hgap : ∀ c ∈ "  ".toList, isBlank c = true :=
    fun _ hc => isBlank_of_mem_spaces (n := 2) hc
  have hnote : ∀ c ∈ (noteText variant).toList.head?, isBlank c = true := by
    intro c hc
    rw [head?_noteText variant c hc]
    decide
  rw [wordsOf_row_eq, wordsOf_blanks_append hspaces, wordsOf_append,
    wordsOf_blanks_append hgap, wordsOf_append hnote, wordsOf_padEnd,
    wordsOf_padEnd, wordsOf_blankFree h.rawName.2, wordsOf_blankFree h.name,
    wordsOf_noteText h, if_neg h.rawName.1, rowWords]
  · rfl
  · intro c hc
    cases hc
    decide

theorem newline_not_mem_row (h : HasNoBlank variant)
    (rawWidth nameWidth : Nat) :
    '\n' ∉ (row rawWidth nameWidth variant).toList := by
  have hnote : '\n' ∉ (noteText variant).toList := by
    rw [toList_noteText]
    split
    · simp
    · decide
    · rename_i extension hextension _
      simp [(h.extension extension hextension).newline_not_mem]
    · rename_i extension hextension _
      simp [(h.extension extension hextension).newline_not_mem]
  intro hmem
  have hcells := mem_of_mem_trimEnd hmem
  simp only [String.toList_append, List.mem_append] at hcells
  have hraw := newline_not_mem_padEnd h.rawName.newline_not_mem rawWidth
  have hname := newline_not_mem_padEnd h.name.newline_not_mem nameWidth
  simp [hraw, hname, hnote] at hcells

/-! ## Reading rows -/

/-- The extension without its brackets, as the first word of a note has it. -/
def readExtension (word : List Char) : String :=
  String.ofList word.tail.dropLast

/-- The extension and the alias mark that the words of a note stand for. -/
def readNote : List (List Char) → Option String × Bool
  | [] => (none, false)
  | [word] =>
      if word = "[alias]".toList then (none, true)
      else (some (readExtension word), false)
  | word :: _ => (some (readExtension word), true)

/-- The derived name that stands before a note, and the words of the note. -/
def readName : List (List Char) → String × List (List Char)
  | [] => ("", [])
  | word :: note =>
      if word.head? = some '[' then ("", word :: note)
      else (String.ofList word, note)

theorem readExtension_bracketed (extension : String) (last : Char) :
    readExtension ('[' :: (extension.toList ++ [last])) = extension := by
  rw [readExtension, List.tail_cons, List.dropLast_concat,
    String.ofList_toList]

theorem readNote_noteWords (h : HasLegibleRow variant) :
    readNote (noteWords variant) = (variant.extension, variant.isAlias) := by
  rw [noteWords]
  split
  · rename_i hextension halias
    rw [hextension, halias, readNote]
  · rename_i hextension halias
    rw [hextension, halias, readNote, if_pos rfl]
  · rename_i extension hextension halias
    obtain ⟨-, -, hname⟩ := h.extension extension hextension
    have hword : '[' :: (extension.toList ++ [']']) ≠ "[alias]".toList := by
      intro hequal
      have hread := congrArg readExtension hequal
      rw [readExtension_bracketed] at hread
      exact hname hread
    rw [hextension, halias, readNote, if_neg hword, readExtension_bracketed]
  · rename_i extension hextension halias
    rw [hextension, halias, readNote, readExtension_bracketed]
    simp

theorem head?_of_mem_noteWords {word : List Char}
    (h : (noteWords variant).head? = some word) : word.head? = some '[' := by
  rw [noteWords] at h
  split at h <;> cases h <;> rfl

theorem readName_noteWords (variant : Variant) :
    readName (noteWords variant) = ("", noteWords variant) := by
  rcases hwords : noteWords variant with _ | ⟨word, note⟩
  · rfl
  · have hbracket : word.head? = some '[' := by
      apply head?_of_mem_noteWords
      rw [hwords, List.head?_cons]
    rw [readName, if_pos hbracket]

theorem readName_append (h : HasLegibleRow variant) :
    readName ((if variant.name = "" then [] else [variant.name.toList]) ++
        noteWords variant) =
      (variant.name, noteWords variant) := by
  split
  · rename_i hempty
    rw [hempty, List.nil_append, readName_noteWords]
  · rw [List.singleton_append, readName, if_neg h.bracket,
      String.ofList_toList]

/-- A row that can be read is the row of one variant only. -/
theorem rowWords_inj (hlegible : HasLegibleRow variant)
    (hother : HasLegibleRow other) (h : rowWords variant = rowWords other) :
    variant = other := by
  obtain ⟨hraw, hrest⟩ := List.cons.inj h
  have hread := congrArg readName hrest
  rw [readName_append hlegible, readName_append hother] at hread
  obtain ⟨hname, hwords⟩ := Prod.mk.inj hread
  have hnote := congrArg readNote hwords
  rw [readNote_noteWords hlegible, readNote_noteWords hother] at hnote
  obtain ⟨hextension, halias⟩ := Prod.mk.inj hnote
  rw [Variant.mk.injEq]
  exact ⟨String.toList_injective hraw, hname, hextension, halias⟩

end Rows

/-! ## Details -/

/-- The kind of a group as its title has it. -/
def kindText (kind : GroupKind) : List Char :=
  [' ', '('] ++ (kind.label.toList ++ [')'])

/-- The lines of a detail before its rows. -/
def headLines (summary : Summary) : List (List Char) :=
  [summary.name.toList ++ kindText summary.kind,
    "  Type name:   ".toList ++ summary.typeName.toList,
    "  Extended by: ".toList ++ (extendedBy summary).toList,
    [],
    "  Variants (".toList ++
      ((toString summary.variants.length).toList ++ "):".toList)]

/-- The width of the column of raw names. -/
def rawWidth (summary : Summary) : Nat :=
  widest (summary.variants.map Variant.rawName)

/-- The width of the column of derived names. -/
def nameWidth (summary : Summary) : Nat :=
  widest (summary.variants.map Variant.name)

/-- The rows of a detail. -/
def rowLines (summary : Summary) : List (List Char) :=
  summary.variants.map fun variant =>
    (row (rawWidth summary) (nameWidth summary) variant).toList

theorem toList_render (summary : Summary) :
    (render summary).toList =
      ['\n'].intercalate (headLines summary ++ rowLines summary ++ [[]]) := by
  rw [render, String.toList_intercalate, List.map_append, List.map_append,
    List.map_map]
  simp only [List.map_cons, List.map_nil, String.toList_append, headLines,
    kindText, rowLines, rawWidth, nameWidth, List.append_assoc]
  rfl

/-- A summary with names and a representative extension of one line each, and
with rows that can be read. -/
structure IsLegible (summary : Summary) : Prop where
  name : '\n' ∉ summary.name.toList
  typeName : '\n' ∉ summary.typeName.toList
  representative : ∀ extension ∈ summary.representative,
    extension ≠ "" ∧ '\n' ∉ extension.toList ∧ extension ≠ "none"
  variants : ∀ variant ∈ summary.variants, HasLegibleRow variant

section Lines

variable {summary other : Summary}

theorem kindText_inj {kind other : GroupKind} {name otherName : List Char}
    (h : name ++ kindText kind = otherName ++ kindText other) :
    name = otherName ∧ kind = other := by
  have hkind : kind = other := by
    have hsuffix := List.suffix_append name (kindText kind)
    rw [h] at hsuffix
    have hothers := List.suffix_append otherName (kindText other)
    have hnested := List.suffix_or_suffix_of_suffix hsuffix hothers
    revert hnested
    cases kind <;> cases other <;> decide +kernel
  subst hkind
  exact ⟨List.append_cancel_right h, rfl⟩

theorem extendedBy_none (h : summary.representative = none) :
    extendedBy summary = "none" := by
  rw [extendedBy, h]

theorem extendedBy_some {extension : String}
    (h : summary.representative = some extension)
    (hnonempty : extension ≠ "") : extendedBy summary = extension := by
  rw [extendedBy, h]
  split
  · rename_i hnone
    cases hnone
  · rename_i hempty
    exact absurd (Option.some.inj hempty) hnonempty
  · rename_i hsome
    exact (Option.some.inj hsome).symm

theorem extendedBy_inj (hlegible : IsLegible summary)
    (hother : IsLegible other) (h : extendedBy summary = extendedBy other) :
    summary.representative = other.representative := by
  rcases hleft : summary.representative with _ | extension <;>
    rcases hright : other.representative with _ | found
  · rfl
  · obtain ⟨hnonempty, -, hnone⟩ := hother.representative found hright
    rw [extendedBy_none hleft, extendedBy_some hright hnonempty] at h
    exact absurd h.symm hnone
  · obtain ⟨hnonempty, -, hnone⟩ := hlegible.representative extension hleft
    rw [extendedBy_some hleft hnonempty, extendedBy_none hright] at h
    exact absurd h hnone
  · obtain ⟨hnonempty, -⟩ := hlegible.representative extension hleft
    obtain ⟨hfound, -⟩ := hother.representative found hright
    rw [extendedBy_some hleft hnonempty, extendedBy_some hright hfound] at h
    rw [h]

theorem newline_not_mem_extendedBy (h : IsLegible summary) :
    '\n' ∉ (extendedBy summary).toList := by
  rcases hrepresentative : summary.representative with _ | extension
  · rw [extendedBy_none hrepresentative]
    decide
  · obtain ⟨hnonempty, hline, -⟩ :=
      h.representative extension hrepresentative
    rwa [extendedBy_some hrepresentative hnonempty]

theorem newline_not_mem_kindText (kind : GroupKind) :
    '\n' ∉ kindText kind := by
  cases kind <;> decide +kernel

theorem newline_not_mem_lines (h : IsLegible summary) :
    ∀ line ∈ headLines summary ++ rowLines summary ++ [[]], '\n' ∉ line := by
  have hrows : ∀ line ∈ rowLines summary, '\n' ∉ line := by
    intro line hline
    obtain ⟨variant, hvariant, rfl⟩ := List.mem_map.mp hline
    exact newline_not_mem_row (h.variants variant hvariant).hasNoBlank _ _
  have hhead : ∀ line ∈ headLines summary, '\n' ∉ line := by
    simp only [headLines, List.forall_mem_cons, List.mem_append, not_or]
    refine ⟨⟨h.name, newline_not_mem_kindText _⟩, ⟨by decide, h.typeName⟩,
      ⟨by decide, newline_not_mem_extendedBy h⟩, by simp, ⟨by decide,
        not_mem_toString (by decide) _, by decide⟩, by simp⟩
  intro line hline
  simp only [List.mem_append, List.mem_singleton] at hline
  rcases hline with (hline | hline) | rfl
  · exact hhead line hline
  · exact hrows line hline
  · simp

theorem map_wordsOf_rowLines (h : IsLegible summary) :
    (rowLines summary).map wordsOf = summary.variants.map rowWords := by
  rw [rowLines, List.map_map]
  apply List.map_congr_left
  intro variant hvariant
  rw [Function.comp_apply, wordsOf_row (h.variants variant hvariant)]

theorem variants_inj (hlegible : IsLegible summary) (hother : IsLegible other)
    (h : rowLines summary = rowLines other) :
    summary.variants = other.variants := by
  have hwords : summary.variants.map rowWords =
      other.variants.map rowWords := by
    rw [← map_wordsOf_rowLines hlegible, h, map_wordsOf_rowLines hother]
  have hpairs := forall₂_and_of_forall (forall₂_of_map_eq hwords)
    hlegible.variants hother.variants
  rw [← List.forall₂_eq_eq_eq]
  apply hpairs.imp
  rintro variant found ⟨hvariant, hfound, hequal⟩
  exact rowWords_inj hvariant hfound hequal

/-- What a detail tells can be read off its lines. -/
theorem eq_of_lines_eq (hlegible : IsLegible summary)
    (hother : IsLegible other)
    (h : headLines summary ++ rowLines summary ++ [[]] =
      headLines other ++ rowLines other ++ [[]]) : summary = other := by
  have hlines := List.append_cancel_right h
  obtain ⟨hhead, hrows⟩ := List.append_inj hlines rfl
  obtain ⟨htitle, hhead⟩ := List.cons.inj hhead
  obtain ⟨htype, hhead⟩ := List.cons.inj hhead
  obtain ⟨hextended, -⟩ := List.cons.inj hhead
  obtain ⟨hname, hkind⟩ := kindText_inj htitle
  have htypeName := String.toList_injective (List.append_cancel_left htype)
  have hrepresentative := extendedBy_inj hlegible hother
    (String.toList_injective (List.append_cancel_left hextended))
  rw [Summary.mk.injEq]
  exact ⟨String.toList_injective hname, hkind, htypeName,
    variants_inj hlegible hother hrows, hrepresentative⟩

end Lines

/-- Details of legible summaries are the same text exactly when the summaries
agree in everything: name, kind, type name, representative extension, and the
variants one by one with raw name, derived name, extension and alias mark. -/
theorem render_eq_render_iff {summary other : Summary}
    (hlegible : IsLegible summary) (hother : IsLegible other) :
    render summary = render other ↔ summary = other := by
  constructor
  · intro h
    have htext := congrArg String.toList h
    rw [toList_render, toList_render] at htext
    apply eq_of_lines_eq hlegible hother
    apply intercalate_fields_inj _ _ _ _ htext
    · simp
    · simp
    · exact newline_not_mem_lines hlegible
    · exact newline_not_mem_lines hother
  · rintro rfl
    rfl

/-- A group with an empty derived name before a note.  Left open is whether the
note marks an alias. -/
def ballSummary (isAlias : Bool) : Summary :=
  ⟨"VkShape", .enumeration, "Shape",
    [⟨"VK_SHAPE_CUBE", "CUBE", none, false⟩,
      ⟨"VK_SHAPE", "", some "VK_KHR_ball", isAlias⟩,
      ⟨"VK_SHAPE_BOX", "BOX", none, true⟩], some "VK_KHR_ball"⟩

theorem isLegible_ballSummary (isAlias : Bool) :
    IsLegible (ballSummary isAlias) := by
  have hcube : HasLegibleRow ⟨"VK_SHAPE_CUBE", "CUBE", none, false⟩ := by
    decide +kernel
  have hball : HasLegibleRow
      ⟨"VK_SHAPE", "", some "VK_KHR_ball", isAlias⟩ := by
    cases isAlias <;> decide +kernel
  have hbox : HasLegibleRow ⟨"VK_SHAPE_BOX", "BOX", none, true⟩ := by
    decide +kernel
  have hname : '\n' ∉ "VkShape".toList := by decide
  have htypeName : '\n' ∉ "Shape".toList := by decide
  refine ⟨hname, htypeName, ?_, ?_⟩
  · intro extension hpresent
    cases hpresent
    decide
  · simp [ballSummary, hcube, hball, hbox]

theorem render_eq_render_iff_ball :
    IsLegible (ballSummary false) ∧ IsLegible (ballSummary true) ∧
      render (ballSummary false) ≠ render (ballSummary true) := by
  have hplain := isLegible_ballSummary false
  have halias := isLegible_ballSummary true
  refine ⟨hplain, halias, ?_⟩
  rw [Ne, render_eq_render_iff hplain halias]
  decide

end VulkanRegistry.Detail
