import Mathlib.Data.List.Infix
import VulkanRegistry.Command.Arguments
import VulkanRegistry.Proofs.Traversal

/-!
# Names of switches

An argument names a switch when it begins a spelling of that switch and of no
other one.  Exactly these arguments are recognised as a switch with nothing
attached to it.  Whatever else is recognised has a value after an equals sign,
or it is a request for help with letters joined to it.
-/

namespace VulkanRegistry

/-- A text that begins a spelling of a switch, and no spelling of another
one. -/
structure Switch.NamedBy (switch : Switch) (text : String) : Prop where
  begins : ∃ spelling ∈ switch.spellings, text.toList <+: spelling.toList
  unique : ∀ other, other ≠ switch → ∀ spelling ∈ other.spellings,
    ¬text.toList <+: spelling.toList

namespace Switch

variable {switch : Switch} {spelling text : String}

theorem mem_table_iff :
    (spelling, switch) ∈ table ↔ spelling ∈ switch.spellings := by
  cases switch <;> simp [table, spellings]

theorem mem_spellings_of_lookup (h : table.lookup text = some switch) :
    text ∈ switch.spellings := by
  obtain ⟨before, after, hsplit, -⟩ := List.lookup_eq_some_iff.mp h
  rw [← mem_table_iff, hsplit]
  simp

/-- No spelling begins a spelling of another switch. -/
theorem table_isPrefixFree :
    (table.all fun entry => table.all fun other =>
      entry.2 == other.2 ||
        !entry.1.toList.isPrefixOf other.1.toList) = true := by
  decide +kernel

theorem namedBy_of_mem_spellings (h : spelling ∈ switch.spellings) :
    switch.NamedBy spelling := by
  refine ⟨⟨spelling, h, List.prefix_refl _⟩, ?_⟩
  intro other hother longer hlonger hbegins
  have hentry := List.all_eq_true.mp table_isPrefixFree _
    (mem_table_iff.mpr h)
  have hpair := List.all_eq_true.mp hentry _ (mem_table_iff.mpr hlonger)
  have hwithin := List.isPrefixOf_iff_prefix.mpr hbegins
  simp [hwithin, Ne.symm hother] at hpair

end Switch

namespace ArgumentClass

variable {switch : Switch} {attachment : Attachment} {text head : String}

/-! ## What is recognised -/

/-- How a switch is recognised in an argument, by what is attached to it. -/
inductive Recognizes (text : String) (switch : Switch) : Attachment → Prop where
  | named (h : switch.NamedBy text) : Recognizes text switch .none
  | assigned (value : String) : Recognizes text switch (.assigned value)
  | joined (letters : String) (h : switch = .help) :
      Recognizes text switch (.joined letters)

/-- A spelling of one letter asks for help. -/
theorem eq_help_of_isShort {spelling : String} (hshort : isShort head = true)
    (hspelling : spelling ∈ switch.spellings)
    (hbegins : head.toList <+: spelling.toList) : switch = .help := by
  rw [isShort] at hshort
  split at hshort
  · rename_i letter hhead
    rw [hhead] at hbegins
    cases switch with
    | help => rfl
    | registry | listEnums | info | filter =>
        obtain rfl := List.mem_singleton.mp hspelling
        obtain ⟨rest, hrest⟩ := hbegins
        simp at hrest hshort
        exact absurd hrest.1 hshort
  · cases hshort

theorem eq_help_of_length_eq_two {spelling : String}
    (hspelling : spelling ∈ switch.spellings)
    (hlength : spelling.toList.length = 2) : switch = .help := by
  cases switch with
  | help => rfl
  | registry | listEnums | info | filter =>
      obtain rfl := List.mem_singleton.mp hspelling
      simp at hlength

theorem splitAssignment_cases (text : String) :
    splitAssignment text = (text, .none) ∨
      (∃ head value, splitAssignment text = (head, .assigned value)) ∨
      ∃ head letters, isShort head = true ∧
        splitAssignment text = (head, .joined letters) := by
  rw [splitAssignment]
  split
  · exact Or.inl rfl
  · rename_i head tail _
    dsimp only
    cases hshort : isShort (String.ofList head) with
    | false =>
        exact Or.inr (Or.inl ⟨String.ofList head, String.ofList tail, by simp⟩)
    | true =>
        exact Or.inr (Or.inr
          ⟨String.ofList head, String.ofList tail, hshort, by simp⟩)

/-- After two hyphens, the candidates are the spellings that the text before an
equals sign begins. -/
theorem mem_candidates_of_long {spelling : String} {rest : List Char}
    (hlong : text.toList = '-' :: '-' :: rest) :
    (spelling, switch, attachment) ∈ candidates text ↔
      spelling ∈ switch.spellings ∧
        (splitAssignment text).1.toList <+: spelling.toList ∧
          attachment = (splitAssignment text).2 := by
  rw [candidates, hlong]
  simp only [List.mem_map, List.mem_filter, List.isPrefixOf_iff_prefix]
  constructor
  · rintro ⟨entry, ⟨hentry, hbegins⟩, heq⟩
    cases heq
    exact ⟨Switch.mem_table_iff.mp hentry, hbegins, rfl⟩
  · rintro ⟨hspelling, hbegins, rfl⟩
    exact ⟨(spelling, switch),
      ⟨Switch.mem_table_iff.mpr hspelling, hbegins⟩, rfl⟩

/-- After one hyphen, a candidate is a spelling of one letter, to which the rest
of the text is joined. -/
theorem exists_letters_of_not_long
    (hshort : ∀ rest, text.toList ≠ '-' :: '-' :: rest) :
    ∃ letters, ∀ candidate ∈ candidates text,
      candidate.2 = (.help, .joined letters) := by
  rw [candidates]
  split
  · exact absurd (by assumption) (hshort _)
  · rename_i first second rest _ _
    refine ⟨String.ofList rest, ?_⟩
    simp only [List.mem_map, List.mem_filter]
    rintro _ ⟨⟨spelling, switch⟩, ⟨hentry, hwhole⟩, rfl⟩
    rw [eq_help_of_length_eq_two (Switch.mem_table_iff.mp hentry)
      (by rw [eq_of_beq hwhole]; rfl)]
  · exact ⟨"", by simp⟩

/-- The candidates are all spellings that the text begins, or they have a value
after an equals sign, or they ask for help. -/
theorem candidates_cases (text : String) :
    (∀ spelling switch attachment,
      (spelling, switch, attachment) ∈ candidates text ↔
        spelling ∈ switch.spellings ∧ text.toList <+: spelling.toList ∧
          attachment = .none) ∨
      (∃ value, ∀ candidate ∈ candidates text,
        candidate.2.2 = .assigned value) ∨
      ∃ letters, ∀ candidate ∈ candidates text,
        candidate.2 = (.help, .joined letters) := by
  by_cases hlong : ∃ rest, text.toList = '-' :: '-' :: rest
  · obtain ⟨rest, hlong⟩ := hlong
    rcases splitAssignment_cases text with
      hsplit | ⟨head, value, hsplit⟩ | ⟨head, letters, hshort, hsplit⟩
    · left
      intro spelling switch attachment
      rw [mem_candidates_of_long hlong, hsplit]
    · right
      left
      refine ⟨value, ?_⟩
      rintro ⟨spelling, switch, attachment⟩ hcandidate
      rw [mem_candidates_of_long hlong, hsplit] at hcandidate
      exact hcandidate.2.2
    · right
      right
      refine ⟨letters, ?_⟩
      rintro ⟨spelling, switch, attachment⟩ hcandidate
      rw [mem_candidates_of_long hlong, hsplit] at hcandidate
      obtain ⟨hspelling, hbegins, rfl⟩ := hcandidate
      rw [eq_help_of_isShort hshort hspelling hbegins]
  · right
    right
    exact exists_letters_of_not_long fun rest htext => hlong ⟨rest, htext⟩

/-- A spelling before an equals sign has what follows attached to it. -/
theorem recognizes_of_spelling (hnone : Switch.table.lookup text = none)
    (hlookup : Switch.table.lookup (splitAssignment text).1 = some switch) :
    Recognizes text switch (splitAssignment text).2 := by
  have hspelling := Switch.mem_spellings_of_lookup hlookup
  rcases splitAssignment_cases text with
    hsplit | ⟨head, value, hsplit⟩ | ⟨head, letters, hshort, hsplit⟩
  · rw [hsplit, hnone] at hlookup
    cases hlookup
  · rw [hsplit]
    exact .assigned value
  · rw [hsplit] at hspelling ⊢
    exact .joined letters
      (eq_help_of_isShort hshort hspelling (List.prefix_refl _))

/-- A text with a single candidate is short for that one. -/
theorem recognizes_of_candidate {spelling : String}
    (hsingle : candidates text = [(spelling, switch, attachment)]) :
    Recognizes text switch attachment := by
  have hfound : (spelling, switch, attachment) ∈ candidates text := by
    simp [hsingle]
  rcases candidates_cases text with
    hbegun | ⟨value, hassigned⟩ | ⟨letters, hhelp⟩
  · obtain ⟨hspelling, hbegins, rfl⟩ :=
      (hbegun spelling switch attachment).mp hfound
    refine .named ⟨⟨spelling, hspelling, hbegins⟩, ?_⟩
    -- A spelling of another switch would be a second candidate.
    intro other hother longer hlonger hwithin
    have hrival := (hbegun longer other .none).mpr ⟨hlonger, hwithin, rfl⟩
    rw [hsingle, List.mem_singleton] at hrival
    cases hrival
    exact hother rfl
  · obtain rfl := hassigned _ hfound
    exact .assigned value
  · cases hhelp _ hfound
    exact .joined letters rfl

/-- Whatever is recognised in an argument is named by it, or has a value after
an equals sign, or is a request for help. -/
theorem recognizes_of_ofString
    (h : ofString text = .ok (.recognized switch attachment)) :
    Recognizes text switch attachment := by
  rw [ofString] at h
  split at h
  · cases h
  · split at h
    case h_1 found hfound =>
      cases h
      have hspelling := Switch.mem_spellings_of_lookup hfound
      exact .named (Switch.namedBy_of_mem_spellings hspelling)
    case h_2 hnone =>
      split at h
      · cases h
      · dsimp only at h
        split at h
        case h_1 found hfound =>
          cases h
          exact recognizes_of_spelling hnone hfound
        case h_2 =>
          split at h
          case h_1 hsingle =>
            cases h
            exact recognizes_of_candidate hsingle
          case h_2 => split at h <;> cases h
          case h_3 => cases h

/-- Each beginning of a spelling that begins no spelling of another switch is
recognised as its switch. -/
theorem recognized_beginnings :
    (Switch.table.all fun entry => entry.1.toList.inits.all fun start =>
      (Switch.table.any fun other =>
        other.2 != entry.2 && start.isPrefixOf other.1.toList) ||
      decide (ofString (String.ofList start) =
        .ok (.recognized entry.2 .none))) = true := by
  decide +kernel

theorem ofString_of_namedBy (h : switch.NamedBy text) :
    ofString text = .ok (.recognized switch .none) := by
  obtain ⟨spelling, hspelling, hbegins⟩ := h.begins
  have hentry := List.all_eq_true.mp recognized_beginnings _
    (Switch.mem_table_iff.mpr hspelling)
  have hstart := List.all_eq_true.mp hentry _
    ((List.mem_inits _ _).mpr hbegins)
  rw [Bool.or_eq_true, String.ofList_toList] at hstart
  rcases hstart with hrival | hrecognized
  · obtain ⟨⟨longer, other⟩, hlonger, hboth⟩ := List.any_eq_true.mp hrival
    rw [Bool.and_eq_true, bne_iff_ne, List.isPrefixOf_iff_prefix] at hboth
    exact absurd hboth.2
      (h.unique other hboth.1 longer (Switch.mem_table_iff.mp hlonger))
  · exact of_decide_eq_true hrecognized

/-- The arguments that are recognised with nothing attached are the names. -/
theorem ofString_eq_recognized_none_iff :
    ofString text = .ok (.recognized switch .none) ↔ switch.NamedBy text := by
  constructor
  · intro h
    cases recognizes_of_ofString h with
    | named hnamed => exact hnamed
  · exact ofString_of_namedBy

/-! ## Whole lines -/

/-- Without a separator, every argument is classified by itself. -/
theorem map_ofString_of_ofList {line : List String}
    {classes : List ArgumentClass} (h : ofList line = .ok classes)
    (htogether : .separator ∉ classes) :
    line.map ofString = classes.map .ok := by
  induction line generalizing classes with
  | nil =>
      cases h
      rfl
  | cons text rest ih =>
      rw [ofList] at h
      split at h
      · cases h
        simp at htogether
      · obtain ⟨first, hfirst, hrest⟩ := bind_eq_ok_iff.mp h
        obtain ⟨others, hothers, hclasses⟩ := bind_eq_ok_iff.mp hrest
        cases hclasses
        rw [List.map_cons, List.map_cons, hfirst, ih hothers]
        exact fun hmem => htogether (List.mem_cons_of_mem _ hmem)

theorem mem_iff_of_ofList {line : List String} {classes : List ArgumentClass}
    (h : ofList line = .ok classes) (htogether : .separator ∉ classes)
    {found : ArgumentClass} :
    found ∈ classes ↔ ∃ text ∈ line, ofString text = .ok found := by
  have hmap := map_ofString_of_ofList h htogether
  have hclass : found ∈ classes ↔
      (.ok found : Except UsageError ArgumentClass) ∈ classes.map .ok := by
    simp
  rw [hclass, ← hmap, List.mem_map]

end ArgumentClass

end VulkanRegistry
