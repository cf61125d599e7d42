import VulkanRegistry.Proofs.Registry.Reading

/-!
# The first malformed number

Reading a document stops at the first number that is no numeral.  The numbers
are met in document order, with two rules of their own: an enumerant's offset
comes before its extension number, and the number of an extension comes after
everything within the extension.  A number that an earlier payload attribute
makes irrelevant is never met, and neither is one in any other place of the
document, so it does no harm there.
-/

namespace VulkanRegistry

open Markup (Element)

/-- A text that stands for an integer. -/
def IsNumeral (text : String) : Prop :=
  ∃ number, Numeral.parse text = .ok number

instance : DecidablePred IsNumeral := fun text =>
  match h : Numeral.parse text with
  | .ok number => isTrue ⟨number, h⟩
  | .error _ => isFalse (by simp [IsNumeral, h])

/-- What a failure says of the text that is no numeral: it holds the text, or
it says that there are too many digits in it. -/
inductive Numeral.Error.IsAbout (text : String) : Numeral.Error → Prop
  | malformed : IsAbout text (.malformed text)
  | tooManyDigits {count : Nat} (hcount : digitLimit < count) :
      IsAbout text (.tooManyDigits count)

namespace Document

/-- The text of an attribute that is read as a number, with the element that
carries it. -/
structure Number where
  element : Element
  key : String
  text : String

/-! ## Malformed numbers -/

/-- The elements that are read as enumerants: those that a group declares and
those that an extension requires or removes. -/
inductive HasEnumerant (root element : Element) : Prop
  | declared {group : Element} (hgroup : group ∈ root.childrenNamed "enums")
      (helement : element ∈ group.childrenNamed "enum")
  | required {extension block : Element}
      (hextension : extension ∈ extensionElements root)
      (hblock : block ∈ extension.childrenNamed "require")
      (helement : element ∈ block.childrenNamed "enum")
  | removed {extension block : Element}
      (hextension : extension ∈ extensionElements root)
      (hblock : block ∈ extension.childrenNamed "remove")
      (helement : element ∈ block.childrenNamed "enum")

/-- The numbers of a document that are met and are no numerals.  An empty
position or offset is malformed, but an empty extension number is none. -/
inductive IsMalformed (root : Element) : Number → Prop
  | position {element : Element} {text : String}
      (helement : HasEnumerant root element)
      (hvalue : element.get? "value" = none)
      (hposition : element.get? "bitpos" = some text)
      (htext : ¬ IsNumeral text) :
      IsMalformed root ⟨element, "bitpos", text⟩
  | offset {element : Element} {text : String}
      (helement : HasEnumerant root element)
      (hvalue : element.get? "value" = none)
      (hposition : element.get? "bitpos" = none)
      (hoffset : element.get? "offset" = some text)
      (htext : ¬ IsNumeral text) :
      IsMalformed root ⟨element, "offset", text⟩
  | extensionOfOffset {element : Element} {offset text : String}
      (helement : HasEnumerant root element)
      (hvalue : element.get? "value" = none)
      (hposition : element.get? "bitpos" = none)
      (hoffset : element.get? "offset" = some offset)
      (hnumeral : IsNumeral offset)
      (hnumber : element.get? "extnumber" = some text)
      (hnonempty : text ≠ "") (htext : ¬ IsNumeral text) :
      IsMalformed root ⟨element, "extnumber", text⟩
  | extension {element : Element} {text : String}
      (helement : element ∈ extensionElements root)
      (hnumber : element.get? "number" = some text)
      (hnonempty : text ≠ "") (htext : ¬ IsNumeral text) :
      IsMalformed root ⟨element, "number", text⟩

/-! ## The order in which numbers are met -/

/-- A text that may be left out or left empty. -/
def optionalNumeral (written : Option String) : List String :=
  written.toList.filter fun text => !text.isEmpty

/-- A number that may be left out or left empty. -/
def optionalNumber (element : Element) (key : String) : List Number :=
  (optionalNumeral (element.get? key)).map (Number.mk element key)

/-- The numbers of an enumerant.  Its extension number is met only when its
offset is a numeral. -/
def enumerantNumbers (element : Element) : List Number :=
  match element.get? "value", element.get? "bitpos", element.get? "offset" with
  | some _, _, _ => []
  | none, some text, _ => [⟨element, "bitpos", text⟩]
  | none, none, some text =>
      ⟨element, "offset", text⟩ ::
        if IsNumeral text then optionalNumber element "extnumber" else []
  | none, none, none => []

/-- The numbers of the enumerants within an element. -/
def innerNumbers (element : Element) : List Number :=
  (element.childrenNamed "enum").flatMap enumerantNumbers

/-- The numbers of a child of an extension's element. -/
def blockNumbers (element : Element) : List Number :=
  if element.tag = "require" ∨ element.tag = "remove" then
    innerNumbers element
  else []

/-- The numbers of an extension's element. -/
def extensionNumbers (element : Element) : List Number :=
  element.children.flatMap blockNumbers ++ optionalNumber element "number"

/-- The numbers of a child of the root. -/
def sectionNumbers (element : Element) : List Number :=
  if element.tag = "enums" then innerNumbers element
  else if element.tag = "extensions" then
    (element.childrenNamed "extension").flatMap extensionNumbers
  else []

/-- The numbers of a document in the order in which they are met. -/
def numbers (root : Element) : List Number :=
  root.children.flatMap sectionNumbers

/-- A malformed number that is met before all other malformed ones. -/
structure IsFirstMalformed (root : Element) (number : Number) : Prop where
  malformed : IsMalformed root number
  first : ∃ before after, numbers root = before ++ number :: after ∧
    ∀ earlier ∈ before, IsNumeral earlier.text

end Document

/-! ## The failure of a list of numbers -/

namespace Document

/-- The error of a number that is no numeral. -/
def Number.error? (number : Number) : Option Numeral.Error :=
  errorOf (Numeral.parse number.text)

/-- The error of the first number that is no numeral. -/
def firstError (found : List Number) : Option Numeral.Error :=
  found.findSome? Number.error?

theorem Number.error?_eq_none_iff {number : Number} :
    number.error? = none ↔ IsNumeral number.text := by
  rw [Number.error?, IsNumeral]
  cases Numeral.parse number.text <;> simp [errorOf]

@[simp] theorem firstError_append (found others : List Number) :
    firstError (found ++ others) =
      (firstError found).or (firstError others) :=
  List.findSome?_append

theorem firstError_flatMap {α : Type} (as : List α)
    (select : α → List Number) :
    firstError (as.flatMap select) =
      as.findSome? fun a => firstError (select a) := by
  simp only [firstError, ← List.head?_filterMap, List.filterMap_flatMap,
    List.head?_flatMap]

theorem firstError_childrenNamed (element : Element) (tag : String)
    (select : Element → List Number) :
    firstError ((element.childrenNamed tag).flatMap select) =
      element.children.findSome? fun child =>
        if child.tag = tag then firstError (select child) else none := by
  rw [Element.childrenNamed, flatMap_filter, firstError_flatMap]
  congr 1
  funext child
  by_cases htag : child.tag = tag
  · simp [htag]
  · simp [htag, firstError]

end Document

/-! ## Reading fails at the first malformed number -/

open Document

theorem Numeral.errorOf_parseOptional (element : Element) (key : String) :
    errorOf (parseOptional (element.get? key)) =
      firstError (optionalNumber element key) := by
  rw [optionalNumber, optionalNumeral]
  cases element.get? key with
  | none => rfl
  | some text =>
      by_cases hempty : text.isEmpty = true
      · simp [parseOptional, hempty, firstError, errorOf]
      · simp [parseOptional, hempty, firstError, Number.error?]

/-- Numbers behind another number are met only when that one is a numeral. -/
theorem errorOf_parse_bind {α : Type} (number : Number) {others : List Number}
    {next : Int → Except Numeral.Error α}
    (hnext : ∀ value, errorOf (next value) = firstError others) :
    errorOf (Numeral.parse number.text >>= next) =
      firstError
        (number :: if IsNumeral number.text then others else []) := by
  by_cases hnumeral : IsNumeral number.text
  · obtain ⟨value, hvalue⟩ := hnumeral
    have hnone : number.error? = none :=
      Number.error?_eq_none_iff.mpr ⟨value, hvalue⟩
    rw [if_pos ⟨value, hvalue⟩, firstError, List.findSome?_cons, hnone, hvalue]
    exact hnext value
  · have hfails := mt Number.error?_eq_none_iff.mp hnumeral
    obtain ⟨error, herror⟩ := Option.ne_none_iff_exists'.mp hfails
    rw [if_neg hnumeral, firstError, List.findSome?_cons, herror,
      errorOf_eq_some_iff.mp herror]
    rfl

theorem Enumerant.errorOf_ofElement (element : Element) :
    errorOf (Enumerant.ofElement element) =
      firstError (enumerantNumbers element) := by
  rw [Enumerant.ofElement, errorOf_map, Payload.ofElement, enumerantNumbers]
  split
  case h_1 text hvalue => simp [hvalue, firstError, errorOf]
  case h_2 text hvalue hposition =>
    simp [hvalue, hposition, firstError, Number.error?]
  case h_3 text hvalue hposition hoffset =>
    simp only [hvalue, hposition, hoffset]
    apply errorOf_parse_bind ⟨element, "offset", text⟩
    intro distance
    rw [errorOf_bind_pure, Numeral.errorOf_parseOptional]
  case h_4 text hvalue hposition hoffset halias =>
    simp [hvalue, hposition, hoffset, firstError, errorOf]
  case h_5 hvalue hposition hoffset halias =>
    simp [hvalue, hposition, hoffset, firstError, errorOf]

theorem InterfaceItem.errorOf_listOfElement (element : Element) :
    errorOf (InterfaceItem.listOfElement element) =
      firstError (innerNumbers element) := by
  rw [InterfaceItem.listOfElement, errorOf_map, errorOf_mapM, innerNumbers,
    firstError_childrenNamed]
  congr 1
  funext child
  rw [InterfaceItem.ofElement?]
  split
  case h_1 htag => simp [htag, Enumerant.errorOf_ofElement]
  all_goals simp_all [errorOf]

theorem InterfaceBlock.errorOf_ofElement? (element : Element) :
    errorOf (InterfaceBlock.ofElement? element) =
      firstError (blockNumbers element) := by
  rw [InterfaceBlock.ofElement?, blockNumbers]
  split
  case h_1 htag => simp [htag, InterfaceItem.errorOf_listOfElement]
  case h_2 htag => simp [htag, InterfaceItem.errorOf_listOfElement]
  case h_3 hrequire hremove => simp_all [errorOf, firstError]

theorem Extension.errorOf_ofElement (element : Element) :
    errorOf (Extension.ofElement element) =
      firstError (extensionNumbers element) := by
  rw [Extension.ofElement, errorOf_bind, errorOf_mapM,
    Numeral.errorOf_parseOptional, extensionNumbers, firstError_append,
    firstError_flatMap]
  simp only [InterfaceBlock.errorOf_ofElement?]

theorem Section.errorOf_ofElement? (element : Element) :
    errorOf (Section.ofElement? element) =
      firstError (sectionNumbers element) := by
  rw [Section.ofElement?, sectionNumbers]
  split
  case h_3 htag =>
    simp [htag, innerNumbers, errorOf_mapM, firstError_flatMap,
      Enumerant.errorOf_ofElement]
  case h_4 htag =>
    simp [htag, errorOf_mapM, firstError_flatMap, Extension.errorOf_ofElement]
  all_goals simp_all [errorOf, firstError]

/-- Reading fails with the error of the first number that is no numeral. -/
theorem Registry.errorOf_ofElement (root : Element) :
    errorOf (Registry.ofElement root) = firstError (numbers root) := by
  rw [Registry.ofElement, errorOf_map, errorOf_mapM, numbers,
    firstError_flatMap]
  simp only [Section.errorOf_ofElement?]

/-! ## The numbers that are met -/

namespace Document

theorem mem_optionalNumber_iff {element : Element} {key : String}
    {number : Number} :
    number ∈ optionalNumber element key ↔
      ∃ text, element.get? key = some text ∧ text ≠ "" ∧
        number = ⟨element, key, text⟩ := by
  have hwritten : ∀ text, text ∈ optionalNumeral (element.get? key) ↔
      element.get? key = some text ∧ text ≠ "" := by
    intro text
    simp [optionalNumeral]
  simp only [optionalNumber, List.mem_map, hwritten, and_assoc, eq_comm]

theorem mem_enumerantNumbers_iff {element : Element} {number : Number} :
    number ∈ enumerantNumbers element ↔
      element.get? "value" = none ∧
        ((∃ text, element.get? "bitpos" = some text ∧
            number = ⟨element, "bitpos", text⟩) ∨
          element.get? "bitpos" = none ∧
            ∃ text, element.get? "offset" = some text ∧
              (number = ⟨element, "offset", text⟩ ∨
                IsNumeral text ∧
                  number ∈ optionalNumber element "extnumber")) := by
  rw [enumerantNumbers]
  split
  case h_1 hvalue => simp [hvalue]
  case h_2 hvalue hposition => simp [hvalue, hposition]
  case h_3 text hvalue hposition hoffset =>
    by_cases hnumeral : IsNumeral text
    · simp [hvalue, hposition, hoffset, hnumeral]
    · simp [hvalue, hposition, hoffset, hnumeral]
  case h_4 hvalue hposition hoffset => simp [hvalue, hposition, hoffset]

theorem mem_innerNumbers_iff {element : Element} {number : Number} :
    number ∈ innerNumbers element ↔
      ∃ child ∈ element.childrenNamed "enum",
        number ∈ enumerantNumbers child :=
  List.mem_flatMap

theorem mem_extensionNumbers_iff {element : Element} {number : Number} :
    number ∈ extensionNumbers element ↔
      (∃ block, (block ∈ element.childrenNamed "require" ∨
          block ∈ element.childrenNamed "remove") ∧
        number ∈ innerNumbers block) ∨
      number ∈ optionalNumber element "number" := by
  have hblocks : number ∈ element.children.flatMap blockNumbers ↔
      ∃ block, (block ∈ element.childrenNamed "require" ∨
          block ∈ element.childrenNamed "remove") ∧
        number ∈ innerNumbers block := by
    rw [List.mem_flatMap]
    apply exists_congr
    intro block
    by_cases htag : block.tag = "require" ∨ block.tag = "remove"
    · rcases htag with htag | htag
      · simp [Element.childrenNamed, blockNumbers, htag]
      · simp [Element.childrenNamed, blockNumbers, htag]
    · simp_all [Element.childrenNamed, blockNumbers]
  rw [extensionNumbers, List.mem_append, hblocks]

theorem mem_sectionNumbers_iff {element : Element} {number : Number} :
    number ∈ sectionNumbers element ↔
      element.tag = "enums" ∧ number ∈ innerNumbers element ∨
      element.tag = "extensions" ∧
        ∃ extension ∈ element.childrenNamed "extension",
          number ∈ extensionNumbers extension := by
  rw [sectionNumbers]
  split
  case isTrue htag => simp [htag]
  case isFalse henums =>
    split
    case isTrue htag => simp [htag, List.mem_flatMap]
    case isFalse hextensions => simp [henums, hextensions]

theorem mem_numbers_iff {root : Element} {number : Number} :
    number ∈ numbers root ↔
      (∃ element, HasEnumerant root element ∧
        number ∈ enumerantNumbers element) ∨
      ∃ extension ∈ extensionElements root,
        number ∈ optionalNumber extension "number" := by
  have hsections : number ∈ numbers root ↔
      (∃ group ∈ root.childrenNamed "enums", number ∈ innerNumbers group) ∨
      ∃ extension ∈ extensionElements root,
        number ∈ extensionNumbers extension := by
    simp only [numbers, extensionElements, List.mem_flatMap,
      mem_sectionNumbers_iff, Element.mem_childrenNamed]
    constructor
    · rintro ⟨child, hchild, ⟨htag, hnumber⟩ |
        ⟨htag, extension, hextension, hnumber⟩⟩
      · exact .inl ⟨child, ⟨hchild, htag⟩, hnumber⟩
      · exact .inr ⟨extension, ⟨child, ⟨hchild, htag⟩, hextension⟩, hnumber⟩
    · rintro (⟨child, ⟨hchild, htag⟩, hnumber⟩ |
        ⟨extension, ⟨child, ⟨hchild, htag⟩, hextension⟩, hnumber⟩)
      · exact ⟨child, hchild, .inl ⟨htag, hnumber⟩⟩
      · exact ⟨child, hchild, .inr ⟨htag, extension, hextension, hnumber⟩⟩
  simp only [hsections, mem_extensionNumbers_iff, mem_innerNumbers_iff]
  constructor
  · rintro (⟨group, hgroup, element, helement, hnumber⟩ |
      ⟨extension, hextension, ⟨block, hrequire | hremove, element, helement,
        hnumber⟩ | hnumber⟩)
    · exact .inl ⟨element, .declared hgroup helement, hnumber⟩
    · exact .inl ⟨element, .required hextension hrequire helement, hnumber⟩
    · exact .inl ⟨element, .removed hextension hremove helement, hnumber⟩
    · exact .inr ⟨extension, hextension, hnumber⟩
  · rintro (⟨element, helement, hnumber⟩ | ⟨extension, hextension, hnumber⟩)
    · rcases helement with ⟨hgroup, helement⟩ |
        ⟨hextension, hrequire, helement⟩ | ⟨hextension, hremove, helement⟩
      · exact .inl ⟨_, hgroup, element, helement, hnumber⟩
      · exact .inr ⟨_, hextension,
          .inl ⟨_, .inl hrequire, element, helement, hnumber⟩⟩
      · exact .inr ⟨_, hextension,
          .inl ⟨_, .inr hremove, element, helement, hnumber⟩⟩
    · exact .inr ⟨extension, hextension, .inr hnumber⟩

/-- The malformed numbers are those that are met and are no numerals. -/
theorem isMalformed_iff {root : Element} {number : Number} :
    IsMalformed root number ↔
      number ∈ numbers root ∧ ¬ IsNumeral number.text := by
  rw [mem_numbers_iff]
  constructor
  · rintro (⟨helement, hvalue, hposition, htext⟩ |
      ⟨helement, hvalue, hposition, hoffset, htext⟩ |
      ⟨helement, hvalue, hposition, hoffset, hnumeral, hnumber, hnonempty,
        htext⟩ |
      ⟨helement, hnumber, hnonempty, htext⟩)
    · refine ⟨.inl ⟨_, helement, mem_enumerantNumbers_iff.mpr ?_⟩, htext⟩
      exact ⟨hvalue, .inl ⟨_, hposition, rfl⟩⟩
    · refine ⟨.inl ⟨_, helement, mem_enumerantNumbers_iff.mpr ?_⟩, htext⟩
      exact ⟨hvalue, .inr ⟨hposition, _, hoffset, .inl rfl⟩⟩
    · refine ⟨.inl ⟨_, helement, mem_enumerantNumbers_iff.mpr ?_⟩, htext⟩
      have hmem := mem_optionalNumber_iff.mpr ⟨_, hnumber, hnonempty, rfl⟩
      exact ⟨hvalue, .inr ⟨hposition, _, hoffset, .inr ⟨hnumeral, hmem⟩⟩⟩
    · have hmem := mem_optionalNumber_iff.mpr ⟨_, hnumber, hnonempty, rfl⟩
      exact ⟨.inr ⟨_, helement, hmem⟩, htext⟩
  · rintro ⟨⟨element, helement, hmem⟩ | ⟨extension, hextension, hmem⟩, htext⟩
    · obtain ⟨hvalue, hrest⟩ := mem_enumerantNumbers_iff.mp hmem
      obtain ⟨text, hposition, rfl⟩ |
        ⟨hposition, offset, hoffset, rfl | ⟨hnumeral, hoptional⟩⟩ := hrest
      · exact .position helement hvalue hposition htext
      · exact .offset helement hvalue hposition hoffset htext
      · obtain ⟨text, hnumber, hnonempty, rfl⟩ :=
          mem_optionalNumber_iff.mp hoptional
        exact .extensionOfOffset helement hvalue hposition hoffset hnumeral
          hnumber hnonempty htext
    · obtain ⟨text, hnumber, hnonempty, rfl⟩ := mem_optionalNumber_iff.mp hmem
      exact .extension hextension hnumber hnonempty htext

end Document

theorem Numeral.isAbout_of_parse {text : String} {error : Numeral.Error}
    (h : parse text = .error error) : error.IsAbout text := by
  rw [parse] at h
  dsimp only at h
  split at h
  · cases h
    exact .malformed
  · split at h
    · rename_i hcount
      cases h
      exact .tooManyDigits hcount
    · split at h
      · cases h
      · cases h
        exact .malformed

theorem Registry.ofElement_eq_error_iff {root : Element}
    {error : Numeral.Error} :
    Registry.ofElement root = .error error ↔
      firstError (numbers root) = some error := by
  rw [← Registry.errorOf_ofElement, errorOf_eq_some_iff]

/-- A document is no registry exactly when one of its numbers is malformed. -/
theorem Registry.exists_ofElement_eq_error_iff {root : Element} :
    (∃ error, Registry.ofElement root = .error error) ↔
      ∃ number, IsMalformed root number := by
  simp only [Registry.ofElement_eq_error_iff, ← Option.isSome_iff_exists,
    firstError, List.findSome?_isSome_iff, isMalformed_iff,
    ← Number.error?_eq_none_iff, ← Option.isSome_iff_ne_none]

/-- A document is no registry exactly when one of its numbers is malformed.
Then the failure is that of the malformed number that is met first. -/
theorem Registry.ofElement_fails_at_first_malformed (root : Element) :
    ((∃ error, Registry.ofElement root = .error error) ↔
      ∃ number, IsMalformed root number) ∧
    ∀ error, Registry.ofElement root = .error error ↔
      ∃ number, IsFirstMalformed root number ∧
        Numeral.parse number.text = .error error ∧
        error.IsAbout number.text := by
  constructor
  · exact Registry.exists_ofElement_eq_error_iff
  · intro error
    rw [Registry.ofElement_eq_error_iff, firstError,
      List.findSome?_eq_some_iff]
    constructor
    · rintro ⟨before, number, after, hsplit, herror, hbefore⟩
      have hparse : Numeral.parse number.text = .error error :=
        errorOf_eq_some_iff.mp herror
      have hmem : number ∈ numbers root := by simp [hsplit]
      have hmalformed : ¬ IsNumeral number.text := by
        simp [← Number.error?_eq_none_iff, herror]
      refine ⟨number, ⟨isMalformed_iff.mpr ⟨hmem, hmalformed⟩, before, after,
        hsplit, ?_⟩, hparse, Numeral.isAbout_of_parse hparse⟩
      intro earlier hearlier
      exact Number.error?_eq_none_iff.mp (hbefore earlier hearlier)
    · rintro ⟨number, ⟨-, before, after, hsplit, hbefore⟩, hparse, -⟩
      refine ⟨before, number, after, hsplit, errorOf_eq_some_iff.mpr hparse, ?_⟩
      intro earlier hearlier
      exact Number.error?_eq_none_iff.mpr (hbefore earlier hearlier)

/-! ## A document with malformed numbers in many places -/

/-- The one enumerant of `tangledDocument` with a malformed number that is met
before all others. -/
def tangledEnumerant : Element :=
  .mk "enum" [("offset", "1"), ("extnumber", "two"), ("alias", "")] none []

/-- The extension of `tangledDocument`, whose own number is malformed, too. -/
def tangledExtension : Element :=
  .mk "extension" [("number", "1.5")] none
    [.mk "remove" [] none [tangledEnumerant]]

/-- A document with malformed numbers in a section that is not read, beside a
value, in an extension that removes an enumerant and in a later group. -/
def tangledDocument : Element :=
  .mk "registry" [] none
    [.mk "feature" [("number", "one")] none
        [.mk "require" [] none [.mk "enum" [("bitpos", "one")] none []]],
      .mk "enums" [] none
        [.mk "enum" [("value", "0"), ("bitpos", "one")] none []],
      .mk "extensions" [] none [tangledExtension],
      .mk "enums" [] none [.mk "enum" [("bitpos", "")] none []]]

theorem Registry.ofElement_fails_at_first_malformed_tangled :
    IsFirstMalformed tangledDocument ⟨tangledEnumerant, "extnumber", "two"⟩ ∧
      IsMalformed tangledDocument ⟨tangledExtension, "number", "1.5"⟩ ∧
      Registry.ofElement tangledDocument = .error (.malformed "two") := by
  have hextension : tangledExtension ∈ extensionElements tangledDocument := by
    simp [extensionElements, tangledDocument, Element.childrenNamed,
      Element.children, Element.tag, tangledExtension]
  have hoffset : IsNumeral "1" := ⟨1, rfl⟩
  have hremoved : HasEnumerant tangledDocument tangledEnumerant :=
    .removed hextension (.head _) (.head _)
  have hmalformed : IsMalformed tangledDocument
      ⟨tangledEnumerant, "extnumber", "two"⟩ :=
    .extensionOfOffset hremoved rfl rfl rfl hoffset rfl (by decide)
      (by decide +kernel)
  have hfirst : IsFirstMalformed tangledDocument
      ⟨tangledEnumerant, "extnumber", "two"⟩ := by
    refine ⟨hmalformed, [⟨tangledEnumerant, "offset", "1"⟩], _, rfl, ?_⟩
    simpa using hoffset
  refine ⟨hfirst, .extension hextension rfl (by decide) (by decide +kernel), ?_⟩
  exact ((Registry.ofElement_fails_at_first_malformed _).2 _).mpr
    ⟨_, hfirst, rfl, .malformed⟩

end VulkanRegistry
