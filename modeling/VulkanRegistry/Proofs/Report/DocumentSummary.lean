import Mathlib.Data.Finset.Sort
import Mathlib.Data.String.Basic
import VulkanRegistry.Proofs.Catalog.Declarations
import VulkanRegistry.Proofs.Registry.Reading
import VulkanRegistry.Report.Summary

/-!
# The summary of a group, read off the document

The variants of a group can be listed by a walk over the elements of the
document, without a registry, an index or an aggregate: first the enumerants of
the last declaration of the group, then, for each extension name in ascending
order, what the last extension of that name requires for the group.  Whenever a
catalog can be built, its summaries list these variants and no others.
-/

namespace VulkanRegistry

open Markup (Element)

/-! ## The walk over the document -/

namespace Document

/-- The last element that declares the group of a given name. -/
def group? (root : Element) (name : String) : Option Element :=
  lastNamed (fun element => element.get? "name") (root.childrenNamed "enums")
    name

/-- The last element that declares the extension of a given name, where a
missing name counts as the empty one. -/
def extension? (root : Element) (name : String) : Option Element :=
  lastNamed (fun element => some (element.getD "name"))
    (extensionElements root) name

/-- The names of the extensions in ascending order, each once. -/
def extensionNames (root : Element) : List String :=
  ((extensionElements root).map fun element =>
    element.getD "name").toFinset.sort

/-- Whether an enumerant's element carries a value, a position or an offset. -/
def carriesNumber (element : Element) : Bool :=
  (element.get? "value").isSome || (element.get? "bitpos").isSome ||
    (element.get? "offset").isSome

/-- Whether an enumerant's element is more than a mention. -/
def carriesPayload (element : Element) : Bool :=
  carriesNumber element || (element.get? "alias").isSome

/-- Whether an enumerant's element names another enumerant and nothing else. -/
def isAlias (element : Element) : Bool :=
  (element.get? "alias").isSome && !carriesNumber element

/-- Whether a required element adds an enumerant to a group. -/
def extendsGroup (group : String) (element : Element) : Bool :=
  element.get? "extends" = some group && carriesPayload element

/-- The variant of a group that an element stands for. -/
def variant (root : Element) (group : String) (extension : Option String)
    (element : Element) : Variant where
  rawName := element.getD "name"
  name := Naming.variantName (tagNamesOf root) group (element.getD "name")
  extension := extension
  isAlias := isAlias element

/-- The variants that a group's own element declares. -/
def ownVariants (root : Element) (group : String) (block : Element) :
    List Variant :=
  (block.childrenNamed "enum").map (variant root group none)

/-- The variants that the last extension of a given name adds to a group. -/
def variantsFrom (root : Element) (group name : String) : List Variant :=
  ((extension? root name).toList.flatMap fun extension =>
    (requiredElements extension).filter (extendsGroup group)).map
      (variant root group (some name))

/-- The variants that extensions add to a group. -/
def contributedVariants (root : Element) (group : String) : List Variant :=
  (extensionNames root).flatMap (variantsFrom root group)

end Document

/-! ## Enumerants and their elements -/

theorem Payload.Reads.isAlias_eq {element : Element} {payload : Payload}
    (h : Payload.Reads element payload) :
    payload.isAlias = Document.isAlias element := by
  cases h with
  | value hvalue =>
      simp [Payload.isAlias, Document.isAlias, Document.carriesNumber, hvalue]
  | bit hvalue hbit hposition =>
      simp [Payload.isAlias, Document.isAlias, Document.carriesNumber, hbit]
  | offset hvalue hbit hoffset hdistance hnumber =>
      simp [Payload.isAlias, Document.isAlias, Document.carriesNumber,
        hoffset]
  | aliasOf hvalue hbit hoffset halias =>
      simp [Payload.isAlias, Document.isAlias, Document.carriesNumber, hvalue,
        hbit, hoffset, halias]
  | mention hvalue hbit hoffset halias =>
      simp [Payload.isAlias, Document.isAlias, halias]

/-- A named group is the target of a payload exactly when the element extends
it and is more than a mention. -/
theorem Payload.Reads.target?_eq_some_iff {element : Element}
    {payload : Payload} (h : Payload.Reads element payload) {group : String}
    (hgroup : group ≠ "") :
    payload.target? = some group ↔ Document.extendsGroup group element := by
  cases h with
  | value hvalue =>
      simp [Payload.target?, Document.extendsGroup, Document.carriesPayload,
        Document.carriesNumber, hvalue]
  | bit hvalue hbit hposition =>
      simp [Payload.target?, Document.extendsGroup, Document.carriesPayload,
        Document.carriesNumber, hbit]
  | offset hvalue hbit hoffset hdistance hnumber =>
      -- Without a target an offset extends the empty name, which is no group.
      cases htarget : element.get? "extends" with
      | none =>
          simp [Payload.target?, Document.extendsGroup, htarget,
            Ne.symm hgroup]
      | some target =>
          simp [Payload.target?, Document.extendsGroup,
            Document.carriesPayload, Document.carriesNumber, hoffset, htarget]
  | aliasOf hvalue hbit hoffset halias =>
      simp [Payload.target?, Document.extendsGroup, Document.carriesPayload,
        halias]
  | mention hvalue hbit hoffset halias =>
      simp [Payload.target?, Document.extendsGroup, Document.carriesPayload,
        Document.carriesNumber, hvalue, hbit, hoffset, halias]

theorem Naming.variantName_congr {tags others : List String}
    (h : ∀ tag, tag ∈ tags ↔ tag ∈ others) (owner enumerant : String) :
    Naming.variantName tags owner enumerant =
      Naming.variantName others owner enumerant := by
  simp only [Naming.variantName, Naming.trimTag, h]

section Pipeline

variable {root : Element} {registry : Registry} {catalog : Catalog}

theorem mem_tags_iff (hread : Registry.ofElement root = .ok registry)
    (hbuild : Catalog.build registry = .ok catalog) (tag : String) :
    tag ∈ catalog.tags ↔ tag ∈ tagNamesOf root := by
  obtain ⟨-, -, htags, -⟩ := Catalog.build_eq_ok_iff.mp hbuild
  rw [htags, Registry.mem_sortedTags, tagNames_ofElement hread]

/-- An enumerant gives a group the variant that its element stands for. -/
theorem map_variantOf (hread : Registry.ofElement root = .ok registry)
    (hbuild : Catalog.build registry = .ok catalog) (group : String)
    (extension : Option String) {elements : List Element}
    {enumerants : List Enumerant}
    (henumerants : ReadsEnumerants elements enumerants) :
    enumerants.map (catalog.variantOf group extension) =
      elements.map (Document.variant root group extension) := by
  symm
  apply map_eq_map_of_forall₂ _ henumerants
  intro element enumerant henumerant
  obtain ⟨hpayload, hname⟩ := Enumerant.ofElement_eq_ok henumerant
  have htags := Naming.variantName_congr (mem_tags_iff hread hbuild) group
    (element.getD "name")
  simp only [Catalog.variantOf, Catalog.variantName, Document.variant, hname,
    hpayload.isAlias_eq, htags]

/-! ## Extensions and their elements -/

theorem extensionNames_eq_keys
    (hread : Registry.ofElement root = .ok registry) :
    Document.extensionNames root = registry.extensionIndex.keys := by
  have hnames : (extensionElements root).map (fun element =>
      element.getD "name") = registry.extensions.map Extension.name := by
    apply map_eq_map_of_forall₂ _ (forall₂_extensions hread)
    intro element extension hextension
    exact (Extension.ofElement_eq_ok hextension).1.symm
  apply Index.keys_eq_of_mem_iff
  · exact (Finset.sortedLT_sort _).pairwise
  · intro name
    simp [Document.extensionNames, hnames, Registry.extensionIndex,
      Index.mem_keys_ofList]

/-- The indexed extension of a name is read from the last element of that
name. -/
theorem rel_extensions (hread : Registry.ofElement root = .ok registry)
    (name : String) :
    Option.Rel
      (fun element extension => Extension.ofElement element = .ok extension)
      (Document.extension? root name)
      (registry.extensionIndex.get? name) := by
  rw [Registry.get?_extensionIndex, Document.extension?]
  apply rel_lastNamed _ _ _ (forall₂_extensions hread)
  intro element extension hextension
  rw [(Extension.ofElement_eq_ok hextension).1]

/-- What the indexed extension of a name contributes to a group is what the
last element of that name requires for it. -/
theorem map_contributions_of_name
    (hread : Registry.ofElement root = .ok registry)
    (hbuild : Catalog.build registry = .ok catalog) {group : String}
    (hgroup : group ≠ "") (name : String) :
    ((registry.extensionIndex.get? name).toList.flatMap fun extension =>
        extension.required.filter fun enumerant =>
          enumerant.payload.target? = some group).map
        (catalog.variantOf group (some name)) =
      Document.variantsFrom root group name := by
  have hrel := rel_extensions hread name
  rw [Document.variantsFrom]
  generalize Document.extension? root name = source at hrel ⊢
  generalize registry.extensionIndex.get? name = found at hrel ⊢
  cases hrel with
  | none => rfl
  | some hextension =>
      obtain ⟨-, hrequired⟩ := Extension.ofElement_eq_ok hextension
      simp only [Option.toList_some, List.flatMap_singleton]
      apply map_variantOf hread hbuild
      apply forall₂_filter _ hrequired
      intro element enumerant henumerant
      obtain ⟨hpayload, -⟩ := Enumerant.ofElement_eq_ok henumerant
      have htarget := hpayload.target?_eq_some_iff hgroup
      rw [Bool.eq_iff_iff, decide_eq_true_iff, htarget]

theorem map_contributionsTo
    (hread : Registry.ofElement root = .ok registry)
    (hbuild : Catalog.build registry = .ok catalog) {group : String}
    (hgroup : group ≠ "") :
    (Aggregate.contributionsTo group registry.extensionIndex.entries).map
        (fun entry =>
          catalog.variantOf group (some entry.extension) entry.enumerant) =
      Document.contributedVariants root group := by
  rw [Aggregate.contributionsTo, Index.entries_eq_filterMap_keys,
    List.filterMap_eq_flatMap_toList, List.flatMap_assoc, List.map_flatMap,
    Document.contributedVariants, extensionNames_eq_keys hread]
  apply List.flatMap_congr
  intro name _
  rw [← map_contributions_of_name hread hbuild hgroup name]
  cases registry.extensionIndex.get? name with
  | none => rfl
  | some extension => simp [Function.comp_def]

/-! ## Groups and their elements -/

/-- The group that an element reads as. -/
structure ReadsGroup (element : Element) (group : EnumGroup) : Prop where
  name : element.get? "name" = some group.name
  nonempty : group.name ≠ ""
  kind : GroupKind.ofMarker (element.get? "type") = .ok group.kind
  enumerants :
    ReadsEnumerants (element.childrenNamed "enum") group.enumerants

/-- The indexed group of a name is the one that the last element of that name
declares. -/
theorem rel_groups (hread : Registry.ofElement root = .ok registry)
    (hbuild : Catalog.build registry = .ok catalog) (name : String) :
    Option.Rel ReadsGroup (Document.group? root name)
      (catalog.groups.get? name) := by
  have hblock := rel_lastNamed (fun element => element.get? "name")
    EnumBlock.name (fun _ _ hreads => hreads.name.symm)
    (forall₂_enumBlocks hread) name
  have hgroup := Registry.rel_get?_groupIndex
    (Catalog.build_eq_ok_iff.mp hbuild).1 name
  rw [Document.group?]
  generalize lastNamed _ (root.childrenNamed "enums") name = element
    at hblock ⊢
  generalize lastNamed EnumBlock.name registry.enumBlocks name = block
    at hblock hgroup
  generalize catalog.groups.get? name = group at hgroup ⊢
  cases hblock with
  | none =>
      cases hgroup
      exact Option.Rel.none
  | some hreads =>
      cases hgroup with
      | some hdeclared =>
          obtain ⟨hname, hnonempty, hkind, hnode⟩ :=
            EnumGroup.ofBlock_eq_ok hdeclared
          subst hnode
          exact Option.Rel.some
            ⟨hreads.name.symm.trans hname, hnonempty, hreads.marker ▸ hkind,
              hreads.enumerants⟩

theorem variants_summarize (hbuild : Catalog.build registry = .ok catalog)
    (group : EnumGroup) :
    (catalog.summarize group).variants =
      group.enumerants.map (catalog.variantOf group.name none) ++
        (Aggregate.contributionsTo group.name
          registry.extensionIndex.entries).map fun entry =>
            catalog.variantOf group.name (some entry.extension)
              entry.enumerant := by
  obtain ⟨-, -, -, -, -, haggregates⟩ := Catalog.build_eq_ok_iff.mp hbuild
  rw [Catalog.summarize, haggregates, Aggregate.get?_collect]
  dsimp only
  rw [Aggregate.entries_ofContributions?]

theorem representative_summarize
    (hbuild : Catalog.build registry = .ok catalog) (group : EnumGroup) :
    (catalog.summarize group).representative =
      (Aggregate.contributionsTo group.name
        registry.extensionIndex.entries).head?.map Contribution.extension := by
  obtain ⟨-, -, -, -, -, haggregates⟩ := Catalog.build_eq_ok_iff.mp hbuild
  rw [Catalog.summarize, haggregates, Aggregate.get?_collect]
  dsimp only
  rw [Aggregate.representative_ofContributions?]

theorem summary?_eq_none_iff (name : String) :
    catalog.summary? name = none ↔ catalog.groups.get? name = none := by
  rw [Catalog.summary?, Option.map_eq_none_iff]

end Pipeline

/-- A group has a summary exactly when the document declares it.  The summary
lists the enumerants of the last declaration and then, by ascending extension
name, what the last extension of each name requires for the group. -/
theorem Catalog.summary?_eq_walk (root : Element) (registry : Registry)
    (catalog : Catalog) (hread : Registry.ofElement root = .ok registry)
    (hbuild : Catalog.build registry = .ok catalog) (name : String) :
    (catalog.summary? name = none ↔
      ∀ child ∈ root.children, child.tag = "enums" →
        child.get? "name" ≠ some name) ∧
      ∀ block, Document.group? root name = some block →
        ∃ summary, catalog.summary? name = some summary ∧
          summary.name = name ∧
          GroupKind.ofMarker (block.get? "type") = .ok summary.kind ∧
          summary.variants =
            Document.ownVariants root name block ++
              Document.contributedVariants root name ∧
          summary.representative =
            (Document.contributedVariants root name).head?.bind
              Variant.extension := by
  have hrel := rel_groups hread hbuild name
  constructor
  · have habsent : Document.group? root name = none ↔
        ∀ child ∈ root.children, child.tag = "enums" →
          child.get? "name" ≠ some name := by
      simp [Document.group?, lastNamed_eq_none_iff, Element.childrenNamed]
    rw [summary?_eq_none_iff, ← habsent]
    generalize Document.group? root name = element at hrel
    generalize catalog.groups.get? name = group at hrel
    cases hrel <;> simp
  · intro block hblock
    rw [hblock] at hrel
    have hname := (mem_of_lastNamed_eq_some hblock).2
    cases hgroup : catalog.groups.get? name with
    | none =>
        rw [hgroup] at hrel
        cases hrel
    | some group =>
        rw [hgroup] at hrel
        cases hrel with
        | some hreads =>
            obtain rfl : group.name = name :=
              Option.some.inj (hreads.name.symm.trans hname)
            have hcontributed :=
              map_contributionsTo hread hbuild hreads.nonempty
            have hsummary : catalog.summary? group.name =
                some (catalog.summarize group) := by
              rw [Catalog.summary?, hgroup, Option.map_some]
            refine ⟨_, hsummary, rfl, hreads.kind, ?_, ?_⟩
            · rw [variants_summarize hbuild, hcontributed,
                map_variantOf hread hbuild _ _ hreads.enumerants,
                Document.ownVariants]
            · rw [representative_summarize hbuild, ← hcontributed,
                List.head?_map, Option.bind_map, Option.map_eq_bind]
              rfl

/-! ## A group declared twice -/

/-- The declaration of a group that counts in `shapeDocument`. -/
def cubeBlock : Element :=
  .mk "enums" [("name", "VkShape"), ("type", "enum")] none
    [.mk "enum" [("name", "VK_SHAPE_CUBE"), ("value", "0")] none []]

/-- A document in which the group and the extension `VK_A` are both declared
twice, and in which `VK_A` mentions one enumerant and renames it in another. -/
def shapeDocument : Element :=
  .mk "registry" [] none
    [.mk "tags" [] none [.mk "tag" [("name", "EXT")] none []],
      .mk "enums" [("name", "VkShape"), ("type", "enum")] none
        [.mk "enum" [("name", "VK_SHAPE_OLD"), ("value", "0")] none []],
      .mk "extensions" [] none
        [.mk "extension" [("name", "VK_B")] none
          [.mk "require" [] none
            [.mk "enum" [("name", "VK_SHAPE_CONE_EXT"), ("extends", "VkShape"),
              ("offset", "1")] none []]],
          .mk "extension" [("name", "VK_A")] none []],
      cubeBlock,
      .mk "extensions" [] none
        [.mk "extension" [("name", "VK_A")] none
          [.mk "require" [] none
            [.mk "enum" [("name", "VK_SHAPE_CUBE"), ("extends", "VkShape")]
              none [],
            .mk "enum" [("name", "VK_SHAPE_BOX"), ("extends", "VkShape"),
              ("alias", "VK_SHAPE_CUBE")] none []]]]]

theorem Catalog.summary?_eq_walk_shapes :
    ∃ registry catalog summary,
      Registry.ofElement shapeDocument = .ok registry ∧
        Catalog.build registry = .ok catalog ∧
        catalog.summary? "VkShape" = some summary ∧
        summary.variants =
          Document.ownVariants shapeDocument "VkShape" cubeBlock ++
            Document.contributedVariants shapeDocument "VkShape" ∧
        summary.variants =
          [⟨"VK_SHAPE_CUBE", "CUBE", none, false⟩,
            ⟨"VK_SHAPE_BOX", "BOX", some "VK_A", true⟩,
            ⟨"VK_SHAPE_CONE_EXT", "CONE", some "VK_B", false⟩] ∧
        summary.representative = some "VK_A" := by
  obtain ⟨-, hwalk⟩ :=
    Catalog.summary?_eq_walk shapeDocument _ _ rfl rfl "VkShape"
  obtain ⟨summary, hsummary, -, -, hvariants, -⟩ := hwalk cubeBlock rfl
  refine ⟨_, _, summary, rfl, rfl, hsummary, hvariants, ?_, ?_⟩
  · obtain rfl := Option.some.inj hsummary
    decide +kernel
  · obtain rfl := Option.some.inj hsummary
    decide +kernel

end VulkanRegistry
