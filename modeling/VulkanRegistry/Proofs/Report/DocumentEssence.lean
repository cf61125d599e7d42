import VulkanRegistry.Proofs.Catalog.Likeness
import VulkanRegistry.Proofs.Report.DocumentSummary

/-!
# The essence of a document

Most of a document does not matter to the groups and their variants.  Its
essence keeps the names of the tags, the names and markers of the groups, the
names of the extensions, and of each enumerant that a group declares or an
extension requires its name, its target and which payload attributes it
carries, without their values.  Two documents with the same essence are read as
registries that are alike: they differ only in what payloads say, in
declarations that add nothing to a group and in how tags and extensions are
spread over sections.  Documents that become equal once everything else is
erased from them have the same essence.
-/

namespace VulkanRegistry

open Markup (Element)

namespace Document

/-! ## Pruning -/

/-- Attributes of the given names, as far as they have a value. -/
def attributesAt (names : List String) (valueOf : String → Option String) :
    List (String × String) :=
  names.filterMap fun name =>
    (valueOf name).map fun value => (name, value)

/-- What is left of an element: the attributes that are kept, those that are
marked, without their values, and the children whose tag has a rule, pruned by
that rule. -/
def prune (kept marked : List String)
    (rules : List (String × (Element → Element))) (element : Element) :
    Element :=
  .mk element.tag
    (attributesAt kept element.get? ++
      attributesAt marked fun name => (element.get? name).map fun _ => "")
    none
    (element.children.filterMap fun child =>
      (rules.lookup child.tag).map fun rule => rule child)

/-- An enumerant's element with its name, its target and the payload attributes
that it carries. -/
def pruneEnumerant : Element → Element :=
  prune ["name", "extends"] ["value", "bitpos", "offset", "alias"] []

/-- A vendor tag's element with its name. -/
def pruneTag : Element → Element :=
  prune ["name"] [] []

/-- A group's element with its name, its marker and its enumerants. -/
def pruneGroup : Element → Element :=
  prune ["name", "type"] [] [("enum", pruneEnumerant)]

/-- A require block's element with its enumerants. -/
def pruneBlock : Element → Element :=
  prune [] [] [("enum", pruneEnumerant)]

/-- An extension's element with its name and its require blocks. -/
def pruneExtension : Element → Element :=
  prune ["name"] [] [("require", pruneBlock)]

/-- What is left of a section of tags. -/
def pruneTags : Element → Element :=
  prune [] [] [("tag", pruneTag)]

/-- What is left of a section of extensions. -/
def pruneExtensions : Element → Element :=
  prune [] [] [("extension", pruneExtension)]

/-- The sections that matter, with what is left of them. -/
def sectionRules : List (String × (Element → Element)) :=
  [("tags", pruneTags), ("enums", pruneGroup), ("extensions", pruneExtensions)]

/-- What is left of a document, section by section, once all that does not
matter is erased. -/
def skeleton (root : Element) : List Element :=
  (prune [] [] sectionRules root).children

/-- The vendor tags of a document. -/
def tagElements (root : Element) : List Element :=
  (root.childrenNamed "tags").flatMap fun part => part.childrenNamed "tag"

/-- What is left of the vendor tags, the groups and the extensions of a
document, wherever they stand. -/
structure Essence where
  tags : List Element
  groups : List Element
  extensions : List Element

/-- What matters of a document. -/
def essence (root : Element) : Essence where
  tags := (tagElements root).map pruneTag
  groups := (root.childrenNamed "enums").map pruneGroup
  extensions := (extensionElements root).map pruneExtension

@[simp] theorem tag_prune (kept marked : List String)
    (rules : List (String × (Element → Element))) (element : Element) :
    (prune kept marked rules element).tag = element.tag := rfl

theorem lookup_attributesAt (names : List String)
    (valueOf : String → Option String) (name : String) :
    (attributesAt names valueOf).lookup name =
      if name ∈ names then valueOf name else none := by
  induction names with
  | nil => rfl
  | cons first rest ih =>
      rw [attributesAt] at ih ⊢
      by_cases hname : name = first
      · subst hname
        cases hvalue : valueOf name with
        | none => simp [hvalue, ih]
        | some value => simp [hvalue]
      · cases hvalue : valueOf first with
        | none => simp [hvalue, ih, hname]
        | some value =>
            simp [hvalue, Index.lookup_cons_of_ne hname, ih, hname]

theorem get?_prune_of_kept {kept marked : List String}
    {rules : List (String × (Element → Element))} {name : String}
    (hname : name ∈ kept) (hother : name ∉ marked) (element : Element) :
    (prune kept marked rules element).get? name = element.get? name := by
  rw [Element.get?, prune, Element.attributes, List.lookup_append,
    lookup_attributesAt, lookup_attributesAt, if_pos hname, if_neg hother]
  simp

theorem get?_prune_of_marked {kept marked : List String}
    {rules : List (String × (Element → Element))} {name : String}
    (hname : name ∈ marked) (hother : name ∉ kept) (element : Element) :
    (prune kept marked rules element).get? name =
      (element.get? name).map fun _ => "" := by
  rw [Element.get?, prune, Element.attributes, List.lookup_append,
    lookup_attributesAt, lookup_attributesAt, if_pos hname, if_neg hother]
  simp

theorem childrenNamed_prune {kept marked : List String}
    {rules : List (String × (Element → Element))} {tag : String}
    {rule : Element → Element} (hrule : rules.lookup tag = some rule)
    (htags : ∀ entry ∈ rules, ∀ child : Element,
      (entry.2 child).tag = child.tag) (element : Element) :
    (prune kept marked rules element).childrenNamed tag =
      (element.childrenNamed tag).map rule := by
  rw [Element.childrenNamed, Element.childrenNamed, prune, Element.children]
  induction element.children with
  | nil => rfl
  | cons child rest ih =>
      cases hlookup : rules.lookup child.tag with
      | none =>
          have hother : child.tag ≠ tag := by
            rintro rfl
            rw [hrule] at hlookup
            cases hlookup
          simpa [hlookup, hother] using ih
      | some other =>
          obtain ⟨_, _, hsplit, -⟩ := List.lookup_eq_some_iff.mp hlookup
          have hkeeps : (other child).tag = child.tag :=
            htags (child.tag, other) (by simp [hsplit]) child
          by_cases htag : child.tag = tag
          · subst htag
            obtain rfl : rule = other :=
              Option.some.inj (hrule.symm.trans hlookup)
            simpa [hlookup, hkeeps] using ih
          · simpa [hlookup, hkeeps, htag] using ih

end Document

/-! ## Elements that are pruned alike -/

section Pruned

open Document

variable {left right : Element}

theorem get?_eq_of_prune_eq {kept marked : List String}
    {rules : List (String × (Element → Element))} {name : String}
    (hsame : prune kept marked rules left = prune kept marked rules right)
    (hname : name ∈ kept) (hother : name ∉ marked) :
    left.get? name = right.get? name := by
  rw [← get?_prune_of_kept hname hother left, hsame,
    get?_prune_of_kept hname hother right]

theorem isSome_get?_eq_of_prune_eq {kept marked : List String}
    {rules : List (String × (Element → Element))} {name : String}
    (hsame : prune kept marked rules left = prune kept marked rules right)
    (hname : name ∈ marked) (hother : name ∉ kept) :
    (left.get? name).isSome = (right.get? name).isSome := by
  have hmarks : (left.get? name).map (fun _ => "") =
      (right.get? name).map fun _ => "" := by
    rw [← get?_prune_of_marked hname hother left, hsame,
      get?_prune_of_marked hname hother right]
  have hpresent := congrArg Option.isSome hmarks
  rwa [Option.isSome_map, Option.isSome_map] at hpresent

theorem forall₂_childrenNamed_of_prune_eq {kept marked : List String}
    {rules : List (String × (Element → Element))} {tag : String}
    {rule : Element → Element}
    (hsame : prune kept marked rules left = prune kept marked rules right)
    (hrule : rules.lookup tag = some rule)
    (htags : ∀ entry ∈ rules, ∀ child : Element,
      (entry.2 child).tag = child.tag) :
    List.Forall₂ (fun a b => rule a = rule b) (left.childrenNamed tag)
      (right.childrenNamed tag) := by
  apply forall₂_of_map_eq
  rw [← childrenNamed_prune hrule htags left, hsame,
    childrenNamed_prune hrule htags right]

end Pruned

/-! ## Targets -/

/-- The target of the enumerant that an element declares.  Only an offset has a
target when it names none: the empty one. -/
def Document.target? (element : Element) : Option String :=
  if (element.get? "value").isSome || (element.get? "bitpos").isSome then
    element.get? "extends"
  else if (element.get? "offset").isSome then some (element.getD "extends")
  else if (element.get? "alias").isSome then element.get? "extends"
  else none

theorem Payload.Reads.target?_eq {element : Element} {payload : Payload}
    (h : Payload.Reads element payload) :
    payload.target? = Document.target? element := by
  cases h with
  | value hvalue => simp [Payload.target?, Document.target?, hvalue]
  | bit hvalue hbit hposition =>
      simp [Payload.target?, Document.target?, hbit]
  | offset hvalue hbit hoffset hdistance hnumber =>
      simp [Payload.target?, Document.target?, Element.getD, hvalue, hbit,
        hoffset]
  | aliasOf hvalue hbit hoffset halias =>
      simp [Payload.target?, Document.target?, hvalue, hbit, hoffset, halias]
  | mention hvalue hbit hoffset halias =>
      simp [Payload.target?, Document.target?, hvalue, hbit, hoffset, halias]

/-! ## Reading alike -/

section Reading

open Document

variable {left right : Element}

theorem Enumerant.alike_of_prune_eq {a b : Enumerant}
    (hsame : pruneEnumerant left = pruneEnumerant right)
    (hleft : Enumerant.ofElement left = .ok a)
    (hright : Enumerant.ofElement right = .ok b) : Enumerant.Alike a b := by
  obtain ⟨hleftPayload, hleftName⟩ := Enumerant.ofElement_eq_ok hleft
  obtain ⟨hrightPayload, hrightName⟩ := Enumerant.ofElement_eq_ok hright
  have hname : left.get? "name" = right.get? "name" :=
    get?_eq_of_prune_eq hsame (by decide) (by decide)
  have hextends : left.get? "extends" = right.get? "extends" :=
    get?_eq_of_prune_eq hsame (by decide) (by decide)
  have hvalue : (left.get? "value").isSome = (right.get? "value").isSome :=
    isSome_get?_eq_of_prune_eq hsame (by decide) (by decide)
  have hbit : (left.get? "bitpos").isSome = (right.get? "bitpos").isSome :=
    isSome_get?_eq_of_prune_eq hsame (by decide) (by decide)
  have hoffset : (left.get? "offset").isSome = (right.get? "offset").isSome :=
    isSome_get?_eq_of_prune_eq hsame (by decide) (by decide)
  have halias : (left.get? "alias").isSome = (right.get? "alias").isSome :=
    isSome_get?_eq_of_prune_eq hsame (by decide) (by decide)
  refine ⟨?_, ?_, ?_⟩
  · rw [hleftName, hrightName, Element.getD, Element.getD, hname]
  · rw [hleftPayload.target?_eq, hrightPayload.target?_eq]
    simp only [Document.target?, Element.getD, hextends, hvalue, hbit, hoffset,
      halias]
  · rw [hleftPayload.isAlias_eq, hrightPayload.isAlias_eq]
    simp only [Document.isAlias, Document.carriesNumber, hvalue, hbit, hoffset,
      halias]

theorem forall₂_enumerants_of_prune_eq {lefts rights : List Element}
    {as bs : List Enumerant}
    (hsame : List.Forall₂ (fun a b => pruneEnumerant a = pruneEnumerant b)
      lefts rights)
    (hleft : ReadsEnumerants lefts as) (hright : ReadsEnumerants rights bs) :
    List.Forall₂ Enumerant.Alike as bs := by
  refine forall₂_of_readings ?_ hsame hleft hright
  intro _ _ _ _ hprune ha hb
  exact Enumerant.alike_of_prune_eq hprune ha hb

theorem EnumBlock.alike_of_prune_eq {a b : EnumBlock}
    (hsame : pruneGroup left = pruneGroup right)
    (hleft : ReadsBlock left a) (hright : ReadsBlock right b) :
    EnumBlock.Alike a b := by
  have hname : left.get? "name" = right.get? "name" :=
    get?_eq_of_prune_eq hsame (by decide) (by decide)
  have hmarker : left.get? "type" = right.get? "type" :=
    get?_eq_of_prune_eq hsame (by decide) (by decide)
  have henumerants : List.Forall₂
      (fun a b => pruneEnumerant a = pruneEnumerant b)
      (left.childrenNamed "enum") (right.childrenNamed "enum") :=
    forall₂_childrenNamed_of_prune_eq hsame rfl (by simp [pruneEnumerant])
  refine ⟨?_, ?_, ?_⟩
  · rw [hleft.name, hright.name, hname]
  · rw [hleft.marker, hright.marker, hmarker]
  · exact forall₂_enumerants_of_prune_eq henumerants hleft.enumerants
      hright.enumerants

/-- Extensions that are pruned alike require enumerants that are pruned
alike. -/
theorem forall₂_requiredElements_of_prune_eq
    (hsame : pruneExtension left = pruneExtension right) :
    List.Forall₂ (fun a b => pruneEnumerant a = pruneEnumerant b)
      (requiredElements left) (requiredElements right) := by
  have hblocks : List.Forall₂ (fun a b => pruneBlock a = pruneBlock b)
      (left.childrenNamed "require") (right.childrenNamed "require") :=
    forall₂_childrenNamed_of_prune_eq hsame rfl (by simp [pruneBlock])
  refine List.rel_flatMap hblocks ?_
  intro a b hblock
  exact forall₂_childrenNamed_of_prune_eq hblock rfl (by simp [pruneEnumerant])

theorem Extension.alike_of_prune_eq {a b : Extension}
    (hsame : pruneExtension left = pruneExtension right)
    (hleft : Extension.ofElement left = .ok a)
    (hright : Extension.ofElement right = .ok b) : Extension.Alike a b := by
  obtain ⟨hleftName, hleftRequired⟩ := Extension.ofElement_eq_ok hleft
  obtain ⟨hrightName, hrightRequired⟩ := Extension.ofElement_eq_ok hright
  have hname : left.get? "name" = right.get? "name" :=
    get?_eq_of_prune_eq hsame (by decide) (by decide)
  refine ⟨?_, ?_⟩
  · rw [hleftName, hrightName, Element.getD, Element.getD, hname]
  · exact forall₂_enumerants_of_prune_eq
      (forall₂_requiredElements_of_prune_eq hsame) hleftRequired hrightRequired

/-! ## Documents with the same essence -/

theorem tagNamesOf_eq_of_essence_eq (hsame : essence left = essence right) :
    tagNamesOf left = tagNamesOf right := by
  have htags : List.Forall₂ (fun a b => pruneTag a = pruneTag b)
      (tagElements left) (tagElements right) :=
    forall₂_of_map_eq (congrArg Essence.tags hsame)
  refine map_eq_map_of_forall₂ ?_ htags
  intro a b htag
  have hname : a.get? "name" = b.get? "name" :=
    get?_eq_of_prune_eq htag (by decide) (by decide)
  rw [Element.getD, Element.getD, hname]

/-- Documents with the same essence are read as registries that are alike. -/
theorem Registry.alike_of_essence_eq {a b : Registry}
    (hsame : essence left = essence right)
    (hleft : Registry.ofElement left = .ok a)
    (hright : Registry.ofElement right = .ok b) : Registry.Alike a b := by
  have hgroups : List.Forall₂ (fun a b => pruneGroup a = pruneGroup b)
      (left.childrenNamed "enums") (right.childrenNamed "enums") :=
    forall₂_of_map_eq (congrArg Essence.groups hsame)
  have hextensions : List.Forall₂
      (fun a b => pruneExtension a = pruneExtension b)
      (extensionElements left) (extensionElements right) :=
    forall₂_of_map_eq (congrArg Essence.extensions hsame)
  refine ⟨?_, ?_, ?_⟩
  · rw [tagNames_ofElement hleft, tagNames_ofElement hright,
      tagNamesOf_eq_of_essence_eq hsame]
  · refine forall₂_of_readings ?_ hgroups (forall₂_enumBlocks hleft)
      (forall₂_enumBlocks hright)
    intro _ _ _ _ hprune ha hb
    exact EnumBlock.alike_of_prune_eq hprune ha hb
  · refine forall₂_of_readings ?_ hextensions (forall₂_extensions hleft)
      (forall₂_extensions hright)
    intro _ _ _ _ hprune ha hb
    exact Extension.alike_of_prune_eq hprune ha hb

/-! ## Documents with the same skeleton -/

/-- The sections of one tag are pruned alike in documents with the same
skeleton. -/
theorem forall₂_sections_of_skeleton_eq {tag : String}
    {rule : Element → Element} (hsame : skeleton left = skeleton right)
    (hrule : sectionRules.lookup tag = some rule) :
    List.Forall₂ (fun a b => rule a = rule b) (left.childrenNamed tag)
      (right.childrenNamed tag) := by
  have htags : ∀ entry ∈ sectionRules, ∀ child : Element,
      (entry.2 child).tag = child.tag := by
    simp [sectionRules, pruneTags, pruneGroup, pruneExtensions]
  have hchildren := congrArg (List.filter fun child => child.tag == tag) hsame
  apply forall₂_of_map_eq
  rw [← childrenNamed_prune hrule htags left,
    ← childrenNamed_prune hrule htags right]
  exact hchildren

/-- The members of the sections of one tag are pruned alike in documents with
the same skeleton. -/
theorem map_members_of_skeleton_eq {tag member : String}
    {rule : Element → Element} (hsame : skeleton left = skeleton right)
    (hrule : sectionRules.lookup tag = some (prune [] [] [(member, rule)]))
    (htags : ∀ child : Element, (rule child).tag = child.tag) :
    ((left.childrenNamed tag).flatMap fun part =>
        part.childrenNamed member).map rule =
      ((right.childrenNamed tag).flatMap fun part =>
        part.childrenNamed member).map rule := by
  have hmembers : List.Forall₂ (fun a b => rule a = rule b)
      ((left.childrenNamed tag).flatMap fun part => part.childrenNamed member)
      ((right.childrenNamed tag).flatMap fun part =>
        part.childrenNamed member) := by
    refine List.rel_flatMap (forall₂_sections_of_skeleton_eq hsame hrule) ?_
    intro a b hpart
    exact forall₂_childrenNamed_of_prune_eq hpart (by simp) (by simpa)
  exact map_eq_map_of_forall₂ (fun _ _ hmember => hmember) hmembers

/-- Documents that become equal once everything that does not matter is erased
have the same essence. -/
theorem Document.essence_eq_of_skeleton_eq
    (hsame : skeleton left = skeleton right) :
    essence left = essence right := by
  have htags : (tagElements left).map pruneTag =
      (tagElements right).map pruneTag :=
    map_members_of_skeleton_eq hsame rfl (by simp [pruneTag])
  have hgroups : (left.childrenNamed "enums").map pruneGroup =
      (right.childrenNamed "enums").map pruneGroup :=
    map_eq_map_of_forall₂ (fun _ _ hgroup => hgroup)
      (forall₂_sections_of_skeleton_eq hsame rfl)
  have hextensions : (extensionElements left).map pruneExtension =
      (extensionElements right).map pruneExtension :=
    map_members_of_skeleton_eq hsame rfl (by simp [pruneExtension])
  rw [essence, essence, htags, hgroups, hextensions]

end Reading

/-- The same is found and reported of two documents with the same essence, as
soon as both can be read and indexed. -/
theorem Catalog.sameFindings_of_essence_eq (left right : Element)
    (leftRegistry rightRegistry : Registry) (a b : Catalog)
    (hsame : Document.essence left = Document.essence right)
    (hleft : Registry.ofElement left = .ok leftRegistry)
    (hright : Registry.ofElement right = .ok rightRegistry)
    (ha : Catalog.build leftRegistry = .ok a)
    (hb : Catalog.build rightRegistry = .ok b) : Catalog.SameFindings a b := by
  have halike := Registry.alike_of_essence_eq hsame hleft hright
  exact (halike.catalog_alike ha hb).sameFindings

/-! ## A document with and without ornaments -/

/-- A document of one group and one extension that holds nothing but what
matters. -/
def bareDocument : Element :=
  .mk "registry" [] none
    [.mk "tags" [] none [.mk "tag" [("name", "EXT")] none []],
      .mk "enums" [("name", "VkShape"), ("type", "enum")] none
        [.mk "enum" [("name", "VK_SHAPE_CUBE"), ("value", "0")] none []],
      .mk "extensions" [] none
        [.mk "extension" [("name", "VK_EXT_cone")] none
          [.mk "require" [] none
            [.mk "enum" [("name", "VK_SHAPE_CONE_EXT"), ("extends", "VkShape"),
              ("offset", "1")] none []]]]]

/-- The same document with other numbers and with parts that do not matter,
among them a removed enumerant. -/
def ornateDocument : Element :=
  .mk "registry" [("version", "2")] (some "text")
    [.mk "comment" [] (some "a comment") [],
      .mk "tags" [("comment", "vendors")] none
        [.mk "tag" [("author", "Multivendor"), ("name", "EXT"),
          ("contact", "nobody")] none []],
      .mk "types" [] none
        [.mk "type" [("name", "VkShape"), ("category", "enum")] none []],
      .mk "enums" [("type", "enum"), ("name", "VkShape"), ("bitwidth", "64")]
        none
        [.mk "comment" [] none [],
          .mk "enum" [("value", "7"), ("name", "VK_SHAPE_CUBE")] none []],
      .mk "extensions" [] none
        [.mk "extension" [("name", "VK_EXT_cone"), ("number", "12"),
            ("supported", "vulkan")] none
          [.mk "remove" [] none
            [.mk "enum" [("name", "VK_SHAPE_CUBE"), ("extends", "VkShape"),
              ("value", "0")] none []],
          .mk "require" [("depends", "VK_KHR_solid")] none
            [.mk "command" [("name", "vkDrawCone")] none [],
              .mk "enum" [("offset", "5"), ("extnumber", "3"), ("dir", "-"),
                ("extends", "VkShape"), ("name", "VK_SHAPE_CONE_EXT")] none
                []]]]]

theorem Catalog.sameFindings_of_essence_eq_ornate :
    Document.skeleton bareDocument = Document.skeleton ornateDocument ∧
      ∃ leftRegistry rightRegistry a b,
        Registry.ofElement bareDocument = .ok leftRegistry ∧
        Registry.ofElement ornateDocument = .ok rightRegistry ∧
        Catalog.build leftRegistry = .ok a ∧
        Catalog.build rightRegistry = .ok b ∧
        Catalog.SameFindings a b ∧
        leftRegistry ≠ rightRegistry ∧
        b.aggregateOutline =
          [("VkShape", "VK_EXT_cone",
            [("VK_EXT_cone", "VK_SHAPE_CONE_EXT")])] := by
  have hskeleton : Document.skeleton bareDocument =
      Document.skeleton ornateDocument := rfl
  have hsame := Document.essence_eq_of_skeleton_eq hskeleton
  refine ⟨hskeleton, _, _, _, _, rfl, rfl, rfl, rfl,
    Catalog.sameFindings_of_essence_eq _ _ _ _ _ _ hsame rfl rfl rfl rfl,
    ?_, ?_⟩
  · decide +kernel
  · decide +kernel

end VulkanRegistry
