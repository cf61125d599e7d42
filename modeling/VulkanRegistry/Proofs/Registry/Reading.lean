import VulkanRegistry.Proofs.Catalog.Walk
import VulkanRegistry.Proofs.Traversal
import VulkanRegistry.Registry.OfElement

/-!
# What a registry reads of its document

A registry that has been read answers its document part by part: the groups,
the extensions, the tags and the enumerants of either stand for the elements of
the right tag in the right place, in document order, and for no others.
-/

namespace VulkanRegistry

open Markup (Element)

variable {α β γ δ : Type}

/-! ## Selections from a traversal -/

theorem flatMap_filterMap_id (found : List (Option β)) (pick : β → List δ) :
    (found.filterMap id).flatMap pick =
      found.flatMap fun item => item.toList.flatMap pick := by
  rw [List.filterMap_eq_flatMap_toList, List.flatMap_assoc]
  rfl

theorem flatMap_filter (keeps : α → Bool) (as : List α)
    (select : α → List γ) :
    (as.filter keeps).flatMap select =
      as.flatMap fun a => if keeps a then select a else [] := by
  induction as with
  | nil => rfl
  | cons a rest ih =>
      by_cases hkeeps : keeps a = true
      · simp [hkeeps, ih]
      · simp [hkeeps, ih]

theorem forall₂_filter {R : α → β → Prop} {keepsLeft : α → Bool}
    {keepsRight : β → Bool}
    (hkeeps : ∀ a b, R a b → keepsLeft a = keepsRight b)
    {as : List α} {bs : List β} (h : List.Forall₂ R as bs) :
    List.Forall₂ R (as.filter keepsLeft) (bs.filter keepsRight) := by
  apply List.rel_filter _ h
  intro a b hab
  simp only [hkeeps a b hab]

theorem map_eq_map_of_forall₂ {R : α → β → Prop} {f : α → γ} {g : β → γ}
    (heq : ∀ a b, R a b → f a = g b)
    {as : List α} {bs : List β} (h : List.Forall₂ R as bs) :
    as.map f = bs.map g := by
  induction h with
  | nil => rfl
  | cons hab _ ih => rw [List.map_cons, List.map_cons, heq _ _ hab, ih]

theorem forall₂_of_map_eq {f : α → γ} {g : β → γ} {as : List α} {bs : List β}
    (h : as.map f = bs.map g) : List.Forall₂ (fun a b => f a = g b) as bs := by
  have hmapped : List.Forall₂ Eq (as.map f) (bs.map g) := by
    rw [List.forall₂_eq_eq_eq]
    exact h
  rwa [List.forall₂_map_left_iff, List.forall₂_map_right_iff] at hmapped

/-- What holds of all elements holds of the elements that answer each other. -/
theorem forall₂_and_of_forall {R : α → β → Prop} {P : α → Prop}
    {Q : β → Prop} {as : List α} {bs : List β} (h : List.Forall₂ R as bs)
    (hleft : ∀ a ∈ as, P a) (hright : ∀ b ∈ bs, Q b) :
    List.Forall₂ (fun a b => P a ∧ Q b ∧ R a b) as bs := by
  have hboth := ((List.forall₂_and_left _ _).mpr ⟨hright, h.flip⟩).flip
  exact (List.forall₂_and_left _ _).mpr ⟨hleft, hboth⟩

/-- Readings of lists that answer each other element by element answer each
other, too. -/
theorem forall₂_of_readings {P : α → β → Prop} {R : α → γ → Prop}
    {S : β → δ → Prop} {Q : γ → δ → Prop}
    (hstep : ∀ a b c d, P a b → R a c → S b d → Q c d)
    {as : List α} {bs : List β} {cs : List γ} {ds : List δ}
    (hsame : List.Forall₂ P as bs) (hleft : List.Forall₂ R as cs)
    (hright : List.Forall₂ S bs ds) : List.Forall₂ Q cs ds := by
  induction hsame generalizing cs ds with
  | nil =>
      cases hleft
      cases hright
      exact List.Forall₂.nil
  | cons hab _ ih =>
      cases hleft with
      | cons hac hleftRest =>
          cases hright with
          | cons hbd hrightRest =>
              exact List.Forall₂.cons (hstep _ _ _ _ hab hac hbd)
                (ih hleftRest hrightRest)

/-- What children of one tag hold is what the readings of all children hold,
when the readings of the other children hold nothing. -/
theorem forall₂_childrenNamed {ε : Type} {tag : String} {root : Element}
    {read : Element → Except ε (Option β)} {found : List (Option β)}
    {R : Element → δ → Prop} {select : Element → List Element}
    {pick : β → List δ}
    (hfound : root.children.mapM read = .ok found)
    (hstep : ∀ child item, read child = .ok item →
      List.Forall₂ R (if child.tag == tag then select child else [])
        (item.toList.flatMap pick)) :
    List.Forall₂ R ((root.childrenNamed tag).flatMap select)
      ((found.filterMap id).flatMap pick) := by
  rw [flatMap_filterMap_id, Element.childrenNamed, flatMap_filter]
  exact List.rel_flatMap (mapM_eq_ok_iff_forall₂.mp hfound) hstep

/-! ## Enumerants -/

/-- The payload that an element reads as.  A payload attribute counts when those
before it are missing. -/
inductive Payload.Reads (element : Element) : Payload → Prop where
  | value {text : String} (hvalue : element.get? "value" = some text) :
      Reads element (.value text (element.get? "extends"))
  | bit {written : String} {position : Int}
      (hvalue : element.get? "value" = none)
      (hbit : element.get? "bitpos" = some written)
      (hposition : Numeral.parse written = .ok position) :
      Reads element (.bit position (element.get? "extends"))
  | offset {written : String} {distance : Int} {number : Option Int}
      (hvalue : element.get? "value" = none)
      (hbit : element.get? "bitpos" = none)
      (hoffset : element.get? "offset" = some written)
      (hdistance : Numeral.parse written = .ok distance)
      (hnumber :
        Numeral.parseOptional (element.get? "extnumber") = .ok number) :
      Reads element
        (.offset distance ((element.get? "extends").getD "") number
          (element.getD "dir"))
  | aliasOf {aliased : String}
      (hvalue : element.get? "value" = none)
      (hbit : element.get? "bitpos" = none)
      (hoffset : element.get? "offset" = none)
      (halias : element.get? "alias" = some aliased) :
      Reads element (.aliasOf aliased (element.get? "extends"))
  | mention
      (hvalue : element.get? "value" = none)
      (hbit : element.get? "bitpos" = none)
      (hoffset : element.get? "offset" = none)
      (halias : element.get? "alias" = none) :
      Reads element .mention

theorem Payload.reads_of_ofElement {element : Element} {payload : Payload}
    (h : Payload.ofElement element = .ok payload) :
    Payload.Reads element payload := by
  rw [Payload.ofElement] at h
  split at h
  case h_1 hvalue =>
    cases h
    exact Reads.value hvalue
  case h_2 hvalue hbit =>
    obtain ⟨position, hposition, rfl⟩ := map_eq_ok_iff.mp h
    exact Reads.bit hvalue hbit hposition
  case h_3 hvalue hbit hoffset =>
    obtain ⟨distance, hdistance, hrest⟩ := bind_eq_ok_iff.mp h
    obtain ⟨number, hnumber, hpayload⟩ := bind_eq_ok_iff.mp hrest
    cases hpayload
    exact Reads.offset hvalue hbit hoffset hdistance hnumber
  case h_4 hvalue hbit hoffset halias =>
    cases h
    exact Reads.aliasOf hvalue hbit hoffset halias
  case h_5 hvalue hbit hoffset halias =>
    cases h
    exact Reads.mention hvalue hbit hoffset halias

theorem Enumerant.ofElement_eq_ok {element : Element} {enumerant : Enumerant}
    (h : Enumerant.ofElement element = .ok enumerant) :
    Payload.Reads element enumerant.payload ∧
      enumerant.name = element.getD "name" := by
  obtain ⟨payload, hpayload, rfl⟩ := map_eq_ok_iff.mp h
  exact ⟨Payload.reads_of_ofElement hpayload, rfl⟩

/-- The enumerants of a list of elements, each in its place. -/
def ReadsEnumerants (elements : List Element) (enumerants : List Enumerant) :
    Prop :=
  List.Forall₂
    (fun element enumerant => Enumerant.ofElement element = .ok enumerant)
    elements enumerants

/-- The elements that an extension's element requires as enumerants. -/
def requiredElements (extension : Element) : List Element :=
  (extension.childrenNamed "require").flatMap fun block =>
    block.childrenNamed "enum"

theorem readsEnumerants_item {element : Element} {item : Option InterfaceItem}
    (h : InterfaceItem.ofElement? element = .ok item) :
    ReadsEnumerants (if element.tag == "enum" then [element] else [])
      (item.toList.flatMap fun item => item.enumerant?.toList) := by
  rw [InterfaceItem.ofElement?] at h
  split at h
  case h_1 htag =>
    obtain ⟨enumerant, henumerant, rfl⟩ := map_eq_ok_iff.mp h
    rw [htag]
    exact List.Forall₂.cons henumerant List.Forall₂.nil
  case h_2 htag =>
    cases h
    rw [htag]
    exact List.Forall₂.nil
  case h_3 htag =>
    cases h
    rw [htag]
    exact List.Forall₂.nil
  case h_4 htag =>
    cases h
    rw [htag]
    exact List.Forall₂.nil
  case h_5 hother =>
    cases h
    have hskipped : (element.tag == "enum") = false :=
      beq_false_of_ne (by assumption)
    rw [hskipped]
    exact List.Forall₂.nil

theorem readsEnumerants_items {block : Element} {items : List InterfaceItem}
    (h : InterfaceItem.listOfElement block = .ok items) :
    ReadsEnumerants (block.childrenNamed "enum")
      (items.filterMap InterfaceItem.enumerant?) := by
  obtain ⟨found, hfound, rfl⟩ := map_eq_ok_iff.mp h
  rw [List.filterMap_eq_flatMap_toList, ← List.flatMap_singleton'
    (block.childrenNamed "enum")]
  exact forall₂_childrenNamed hfound fun _ _ hitem => readsEnumerants_item hitem

/-! ## Extensions -/

theorem readsEnumerants_block {element : Element}
    {block : Option InterfaceBlock}
    (h : InterfaceBlock.ofElement? element = .ok block) :
    ReadsEnumerants
      (if element.tag == "require" then element.childrenNamed "enum" else [])
      (block.toList.flatMap InterfaceBlock.required) := by
  rw [InterfaceBlock.ofElement?] at h
  split at h
  case h_1 htag =>
    obtain ⟨items, hitems, rfl⟩ := map_eq_ok_iff.mp h
    rw [htag]
    simpa [InterfaceBlock.required] using readsEnumerants_items hitems
  case h_2 htag =>
    obtain ⟨items, hitems, rfl⟩ := map_eq_ok_iff.mp h
    rw [htag]
    exact List.Forall₂.nil
  case h_3 hother =>
    cases h
    have hskipped : (element.tag == "require") = false :=
      beq_false_of_ne (by assumption)
    rw [hskipped]
    exact List.Forall₂.nil

theorem Extension.ofElement_eq_ok {element : Element} {extension : Extension}
    (h : Extension.ofElement element = .ok extension) :
    extension.name = element.getD "name" ∧
      ReadsEnumerants (requiredElements element) extension.required := by
  obtain ⟨found, hfound, hrest⟩ := bind_eq_ok_iff.mp h
  obtain ⟨number, -, hextension⟩ := bind_eq_ok_iff.mp hrest
  cases hextension
  exact ⟨rfl, forall₂_childrenNamed hfound fun _ _ hblock =>
    readsEnumerants_block hblock⟩

/-! ## Sections -/

/-- What a section of a registry reads of a child of the root. -/
inductive Section.Reads (element : Element) : Option Section → Prop where
  | tags (htag : element.tag = "tags") :
      Reads element
        (some (.tags ((element.childrenNamed "tag").map Tag.ofElement)))
  | types (htag : element.tag = "types") :
      Reads element
        (some (.types
          ((element.childrenNamed "type").map TypeDeclaration.ofElement)))
  | enums (htag : element.tag = "enums") {enumerants : List Enumerant}
      (henumerants :
        ReadsEnumerants (element.childrenNamed "enum") enumerants) :
      Reads element
        (some (.enums ⟨element.get? "name", element.get? "type", enumerants⟩))
  | extensions (htag : element.tag = "extensions")
      {extensions : List Extension}
      (hextensions : List.Forall₂
        (fun element extension => Extension.ofElement element = .ok extension)
        (element.childrenNamed "extension") extensions) :
      Reads element (some (.extensions extensions))
  | comment (htag : element.tag = "comment") :
      Reads element (some (.comment (element.text.getD "")))
  | skipped
      (htag : element.tag ∉ ["tags", "types", "enums", "extensions"]) :
      Reads element none

theorem Section.reads_of_ofElement? {element : Element}
    {item : Option Section} (h : Section.ofElement? element = .ok item) :
    Section.Reads element item := by
  rw [Section.ofElement?] at h
  split at h
  case h_1 htag =>
    cases h
    exact Reads.tags htag
  case h_2 htag =>
    cases h
    exact Reads.types htag
  case h_3 htag =>
    obtain ⟨enumerants, henumerants, rfl⟩ := map_eq_ok_iff.mp h
    exact Reads.enums htag (mapM_eq_ok_iff_forall₂.mp henumerants)
  case h_4 htag =>
    obtain ⟨extensions, hextensions, rfl⟩ := map_eq_ok_iff.mp h
    exact Reads.extensions htag (mapM_eq_ok_iff_forall₂.mp hextensions)
  case h_5 htag =>
    cases h
    exact Reads.comment htag
  case h_6 =>
    cases h
    apply Reads.skipped
    simp_all

/-- The declared group that an element reads as. -/
structure ReadsBlock (element : Element) (block : EnumBlock) : Prop where
  name : block.name = element.get? "name"
  marker : block.marker = element.get? "type"
  enumerants :
    ReadsEnumerants (element.childrenNamed "enum") block.enumerants

/-- The elements of a document that declare extensions. -/
def extensionElements (root : Element) : List Element :=
  (root.childrenNamed "extensions").flatMap fun part =>
    part.childrenNamed "extension"

/-- The names of the tags that a document declares. -/
def tagNamesOf (root : Element) : List String :=
  ((root.childrenNamed "tags").flatMap fun part =>
    part.childrenNamed "tag").map fun tag => tag.getD "name"

section OfElement

variable {root : Element} {registry : Registry}

theorem Registry.ofElement_eq_ok (h : Registry.ofElement root = .ok registry) :
    ∃ found, root.children.mapM Section.ofElement? = .ok found ∧
      registry.sections = found.filterMap id := by
  obtain ⟨found, hfound, rfl⟩ := map_eq_ok_iff.mp h
  exact ⟨found, hfound, rfl⟩

/-- Sections of one kind answer the children of one tag when the sections of
the other kinds hold nothing that is asked for. -/
theorem forall₂_sections {tag : String} {R : Element → δ → Prop}
    {select : Element → List Element} {pick : Section → List δ}
    (h : Registry.ofElement root = .ok registry)
    (hown : ∀ child item, child.tag = tag → Section.Reads child item →
      List.Forall₂ R (select child) (item.toList.flatMap pick))
    (hother : ∀ child item, child.tag ≠ tag → Section.Reads child item →
      item.toList.flatMap pick = []) :
    List.Forall₂ R ((root.childrenNamed tag).flatMap select)
      (registry.sections.flatMap pick) := by
  obtain ⟨found, hfound, hsections⟩ := Registry.ofElement_eq_ok h
  rw [hsections]
  apply forall₂_childrenNamed hfound
  intro child item hitem
  have hreads := Section.reads_of_ofElement? hitem
  by_cases htag : child.tag = tag
  · simpa [htag] using hown child item htag hreads
  · simp [htag, hother child item htag hreads]

theorem forall₂_enumBlocks (h : Registry.ofElement root = .ok registry) :
    List.Forall₂ ReadsBlock (root.childrenNamed "enums")
      registry.enumBlocks := by
  rw [← List.flatMap_singleton' (root.childrenNamed "enums")]
  apply forall₂_sections h
  · intro child item htag hreads
    cases hreads with
    | enums _ henumerants =>
        exact List.Forall₂.cons ⟨rfl, rfl, henumerants⟩ List.Forall₂.nil
    | tags h | types h | comment h => simp [htag] at h
    | extensions h _ => simp [htag] at h
    | skipped h => simp [htag] at h
  · intro child item htag hreads
    cases hreads with
    | enums h _ => exact absurd h htag
    | tags _ | types _ | comment _ | extensions _ _ | skipped _ => rfl

theorem forall₂_extensions (h : Registry.ofElement root = .ok registry) :
    List.Forall₂
      (fun element extension => Extension.ofElement element = .ok extension)
      (extensionElements root) registry.extensions := by
  apply forall₂_sections h
  · intro child item htag hreads
    cases hreads with
    | extensions _ hextensions => simpa using hextensions
    | tags h | types h | comment h => simp [htag] at h
    | enums h _ => simp [htag] at h
    | skipped h => simp [htag] at h
  · intro child item htag hreads
    cases hreads with
    | extensions h _ => exact absurd h htag
    | tags _ | types _ | comment _ | enums _ _ | skipped _ => rfl

theorem tagNames_ofElement (h : Registry.ofElement root = .ok registry) :
    registry.tagNames = tagNamesOf root := by
  have hnames : List.Forall₂ (fun element name => element.getD "name" = name)
      ((root.childrenNamed "tags").flatMap fun part =>
        part.childrenNamed "tag") registry.tagNames := by
    apply forall₂_sections h
    · intro child item htag hreads
      cases hreads with
      | tags _ => simp [Tag.ofElement, List.forall₂_same]
      | types h | comment h => simp [htag] at h
      | enums h _ | extensions h _ => simp [htag] at h
      | skipped h => simp [htag] at h
    · intro child item htag hreads
      cases hreads with
      | tags h => exact absurd h htag
      | types _ | comment _ | enums _ _ | extensions _ _ | skipped _ => rfl
  have hmap := map_eq_map_of_forall₂ (g := id) (fun _ _ heq => heq) hnames
  rw [tagNamesOf, hmap, List.map_id]

end OfElement

end VulkanRegistry
