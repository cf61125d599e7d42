import VulkanRegistry.Command.Discovery
import VulkanRegistry.Proofs.Catalog.Partition
import VulkanRegistry.Proofs.Report.DocumentEssence

/-!
# The groups that extensions extend

An enumerant that an extension requires is meant for the group that its element
names.  One that names no group is left out of all aggregates, whether it is a
value, a position, another name or a mention, but an offset is not: an offset
without a target is taken for one whose target is the empty name.  It joins an
aggregate that belongs to no group, and that aggregate is counted among the
extended groups.

So the aggregates are the required enumerants divided by the targets that their
elements name exactly when no indexed extension requires an offset that names
none.
-/

namespace VulkanRegistry

open Markup (Element)

/-! ## Required elements and their targets -/

namespace Document

/-- The elements that extensions require as enumerants, each with the name of
its extension.  Of each name the last extension counts, and the names ascend. -/
def required (root : Element) : List (String × Element) :=
  (extensionNames root).flatMap fun name =>
    ((extension? root name).toList.flatMap requiredElements).map (Prod.mk name)

/-- What holds of all elements that extensions require holds of those that
count. -/
theorem forall_required_of_all {root : Element} (holds : Element → Bool)
    (h : ((extensionElements root).flatMap requiredElements).all holds = true) :
    ∀ source ∈ required root, holds source.2 = true := by
  intro source hsource
  obtain ⟨name, -, hnamed⟩ := List.mem_flatMap.mp hsource
  obtain ⟨element, helement, rfl⟩ := List.mem_map.mp hnamed
  obtain ⟨extension, hextension, hrequired⟩ := List.mem_flatMap.mp helement
  have hlast := Option.mem_toList.mp hextension
  apply List.all_eq_true.mp h
  exact List.mem_flatMap.mpr
    ⟨extension, (mem_of_lastNamed_eq_some hlast).1, hrequired⟩

/-- The targets of the required elements, under a given choice of targets. -/
def targetsBy (targetOf : Element → Option String) (root : Element) :
    List String :=
  (required root).filterMap fun source => targetOf source.2

/-- How many different targets the required elements have. -/
def targetCount (targetOf : Element → Option String) (root : Element) : Nat :=
  (targetsBy targetOf root).toFinset.card

/-- The target that an element names.  A mention has none. -/
def declaredTarget? (element : Element) : Option String :=
  if carriesPayload element then element.get? "extends" else none

/-- An offset that names no target.  An offset counts when there is neither a
value nor a position. -/
structure IsUntargetedOffset (element : Element) : Prop where
  value : element.get? "value" = none
  position : element.get? "bitpos" = none
  offset : (element.get? "offset").isSome = true
  target : element.get? "extends" = none

theorem target?_of_not_isUntargetedOffset {element : Element}
    (h : ¬ IsUntargetedOffset element) :
    target? element = declaredTarget? element := by
  rw [target?, declaredTarget?, carriesPayload, carriesNumber]
  by_cases hnumber : (element.get? "value").isSome = true ∨
      (element.get? "bitpos").isSome = true
  · rcases hnumber with hvalue | hposition
    · simp [hvalue]
    · simp [hposition]
  · simp only [not_or, Option.not_isSome_iff_eq_none] at hnumber
    obtain ⟨hvalue, hposition⟩ := hnumber
    by_cases hoffset : (element.get? "offset").isSome = true
    · have htarget : element.get? "extends" ≠ none := fun hnone =>
        h ⟨hvalue, hposition, hoffset, hnone⟩
      obtain ⟨target, htarget⟩ := Option.ne_none_iff_exists'.mp htarget
      simp [hvalue, hposition, hoffset, htarget, Element.getD]
    · simp [hvalue, hposition, hoffset]

theorem target?_of_isUntargetedOffset {element : Element}
    (h : IsUntargetedOffset element) :
    target? element = some "" ∧ declaredTarget? element = none := by
  simp [target?, declaredTarget?, Element.getD, h.value, h.position, h.offset,
    h.target]

theorem target?_eq_of_declaredTarget?_eq {element : Element} {target : String}
    (h : declaredTarget? element = some target) :
    target? element = some target := by
  by_cases hoffset : IsUntargetedOffset element
  · rw [(target?_of_isUntargetedOffset hoffset).2] at h
    cases h
  · rwa [target?_of_not_isUntargetedOffset hoffset]

end Document

/-- A contribution is that of a required element. -/
structure ReadsContribution (source : String × Element)
    (entry : Contribution) : Prop where
  extension : entry.extension = source.1
  enumerant : Enumerant.ofElement source.2 = .ok entry.enumerant

/-- What a catalog has for a target. -/
def Catalog.entriesOf (catalog : Catalog) (target : String) :
    List Contribution :=
  ((catalog.aggregates.get? target).map Aggregate.entries).getD []

/-- The aggregates of a catalog are the required elements divided by a given
choice of targets: each aggregate has the elements of its target, one by one and
in order, there is one for each target of an element, and their number is
printed. -/
structure Catalog.AggregatesBy (catalog : Catalog) (root : Element)
    (targetOf : Element → Option String) : Prop where
  entries : ∀ target, List.Forall₂ ReadsContribution
    ((Document.required root).filter fun source =>
      targetOf source.2 = some target)
    (catalog.entriesOf target)
  targets : ∀ target, target ∈ catalog.aggregates.keys ↔
    target ∈ Document.targetsBy targetOf root
  printed : ∃ before, Discovery.counts catalog = before ++
    s!"  Extension enums: {Document.targetCount targetOf root} groups extended\n"

/-! ## Reading contributions -/

namespace Aggregate

/-- All required enumerants, each with the name that its extension is found
under, in the order of the walk. -/
def requirements (extensions : List (String × Extension)) :
    List Contribution :=
  extensions.flatMap fun (name, extension) =>
    extension.required.map (Contribution.mk name)

theorem filter_requirements (extensions : List (String × Extension))
    (target : String) :
    ((requirements extensions).filter fun entry =>
        entry.target? = some target) =
      contributionsTo target extensions := by
  rw [requirements, contributionsTo, List.filter_flatMap]
  congr 1
  funext entry
  rw [List.filter_map]
  rfl

end Aggregate

section Pipeline

variable {root : Element} {registry : Registry} {catalog : Catalog}

/-- The required enumerants are read from the required elements, one by one. -/
theorem forall₂_required (hread : Registry.ofElement root = .ok registry) :
    List.Forall₂ ReadsContribution (Document.required root)
      (Aggregate.requirements registry.extensionIndex.entries) := by
  rw [Document.required, extensionNames_eq_keys hread, Aggregate.requirements,
    Index.entries_eq_filterMap_keys, List.filterMap_eq_flatMap_toList,
    List.flatMap_assoc]
  have hsame : List.Forall₂ Eq registry.extensionIndex.keys
      registry.extensionIndex.keys := List.forall₂_same.mpr fun _ _ => rfl
  refine List.rel_flatMap hsame ?_
  rintro name _ rfl
  dsimp only
  have hrel := rel_extensions hread name
  generalize Document.extension? root name = source at hrel ⊢
  generalize registry.extensionIndex.get? name = found at hrel ⊢
  rcases hrel with hextension | _
  · obtain ⟨-, hrequired⟩ := Extension.ofElement_eq_ok hextension
    simp only [Option.toList_some, List.flatMap_singleton, Option.map_some]
    rw [List.forall₂_map_left_iff, List.forall₂_map_right_iff]
    exact hrequired.imp fun _ _ henumerant => ⟨rfl, henumerant⟩
  · exact List.Forall₂.nil

theorem ReadsContribution.target?_eq {source : String × Element}
    {entry : Contribution} (h : ReadsContribution source entry) :
    entry.target? = Document.target? source.2 :=
  (Enumerant.ofElement_eq_ok h.enumerant).1.target?_eq

theorem entriesOf_eq (hbuild : Catalog.build registry = .ok catalog)
    (target : String) :
    catalog.entriesOf target =
      (Aggregate.requirements registry.extensionIndex.entries).filter
        fun entry => entry.target? = some target := by
  obtain ⟨-, -, -, -, -, haggregates⟩ := Catalog.build_eq_ok_iff.mp hbuild
  rw [Catalog.entriesOf, haggregates, Aggregate.get?_collect,
    Aggregate.entries_ofContributions?, Aggregate.filter_requirements]

/-- An aggregate has the elements of its target, where an offset that names no
target has the empty one. -/
theorem forall₂_entriesOf (hread : Registry.ofElement root = .ok registry)
    (hbuild : Catalog.build registry = .ok catalog) (target : String) :
    List.Forall₂ ReadsContribution
      ((Document.required root).filter fun source =>
        Document.target? source.2 = some target)
      (catalog.entriesOf target) := by
  rw [entriesOf_eq hbuild]
  apply forall₂_filter _ (forall₂_required hread)
  intro source entry hreads
  rw [hreads.target?_eq]

theorem mem_keys_aggregates_iff
    (hbuild : Catalog.build registry = .ok catalog) (target : String) :
    target ∈ catalog.aggregates.keys ↔ catalog.entriesOf target ≠ [] := by
  obtain ⟨-, -, -, -, -, haggregates⟩ := Catalog.build_eq_ok_iff.mp hbuild
  rw [Index.mem_keys_iff, Catalog.entriesOf, haggregates,
    Aggregate.get?_collect]
  generalize Aggregate.contributionsTo _ _ = entries
  cases entries <;> simp [Aggregate.ofContributions?]

/-- What the aggregates hold decides what their targets are and how many there
are of them. -/
theorem aggregatesBy_of_entries
    (hbuild : Catalog.build registry = .ok catalog)
    {targetOf : Element → Option String}
    (hentries : ∀ target, List.Forall₂ ReadsContribution
      ((Document.required root).filter fun source =>
        targetOf source.2 = some target)
      (catalog.entriesOf target)) :
    catalog.AggregatesBy root targetOf := by
  have htargets : ∀ target, target ∈ catalog.aggregates.keys ↔
      target ∈ Document.targetsBy targetOf root := by
    intro target
    rw [mem_keys_aggregates_iff hbuild, ← List.length_pos_iff,
      ← (hentries target).length_eq, List.length_pos_iff]
    simp [Document.targetsBy, List.filter_eq_nil_iff]
  refine ⟨hentries, htargets, ?_⟩
  have hcount : catalog.aggregates.size =
      Document.targetCount targetOf root := by
    have hdistinct : catalog.aggregates.keys.Nodup :=
      catalog.aggregates.pairwise_keys.imp fun hlt => String.ne_of_lt hlt
    have hkeys : catalog.aggregates.keys.toFinset =
        (Document.targetsBy targetOf root).toFinset := by
      ext target
      rw [List.mem_toFinset, List.mem_toFinset, htargets]
    rw [Document.targetCount, ← hkeys,
      List.toFinset_card_of_nodup hdistinct, Index.keys,
      List.length_map, Index.size]
  rw [← hcount]
  delta Discovery.counts
  exact ⟨_, rfl⟩

end Pipeline

/-- The aggregates of a catalog are the required elements divided by target,
where an offset that names no target has the empty one.  They are divided by
the targets that the elements name exactly when no indexed extension requires
an offset that names none. -/
theorem Catalog.aggregatesBy_declaredTarget?_iff (root : Element)
    (registry : Registry) (catalog : Catalog)
    (hread : Registry.ofElement root = .ok registry)
    (hbuild : Catalog.build registry = .ok catalog) :
    catalog.AggregatesBy root Document.target? ∧
      (catalog.AggregatesBy root Document.declaredTarget? ↔
        ∀ source ∈ Document.required root,
          ¬ Document.IsUntargetedOffset source.2) := by
  have hentries := forall₂_entriesOf hread hbuild
  refine ⟨aggregatesBy_of_entries hbuild hentries, ?_, ?_⟩
  · intro hdeclared source hsource hoffset
    have hsublist : ((Document.required root).filter fun source =>
          Document.declaredTarget? source.2 = some "").Sublist
        ((Document.required root).filter fun source =>
          Document.target? source.2 = some "") := by
      apply List.monotone_filter_right
      intro source hsource
      have htarget := of_decide_eq_true hsource
      exact decide_eq_true (Document.target?_eq_of_declaredTarget?_eq htarget)
    have hsame := hsublist.eq_of_length
      ((hdeclared.entries "").length_eq.trans (hentries "").length_eq.symm)
    obtain ⟨htarget, hundeclared⟩ :=
      Document.target?_of_isUntargetedOffset hoffset
    have hmem : source ∈ (Document.required root).filter fun source =>
        Document.declaredTarget? source.2 = some "" := by
      rw [hsame]
      exact List.mem_filter.mpr ⟨hsource, decide_eq_true htarget⟩
    have hfound := of_decide_eq_true (List.mem_filter.mp hmem).2
    rw [hundeclared] at hfound
    simp at hfound
  · intro hnone
    apply aggregatesBy_of_entries hbuild
    intro target
    have hsame : ((Document.required root).filter fun source =>
          Document.declaredTarget? source.2 = some target) =
        (Document.required root).filter fun source =>
          Document.target? source.2 = some target := by
      apply List.filter_congr
      intro source hsource
      rw [Document.target?_of_not_isUntargetedOffset (hnone source hsource)]
    rw [hsame]
    exact hentries target

theorem Catalog.aggregatesBy_declaredTarget?_iff_shapes :
    ∃ registry catalog,
      Registry.ofElement shapeDocument = .ok registry ∧
        Catalog.build registry = .ok catalog ∧
        catalog.aggregates.keys = ["VkShape"] ∧
        (∀ source ∈ Document.required shapeDocument,
          ¬ Document.IsUntargetedOffset source.2) ∧
        catalog.AggregatesBy shapeDocument Document.declaredTarget? := by
  have hnone : ∀ source ∈ Document.required shapeDocument,
      ¬ Document.IsUntargetedOffset source.2 := by
    have htargets : ∀ source ∈ Document.required shapeDocument,
        (source.2.get? "extends").isSome = true :=
      Document.forall_required_of_all
        (fun element => (element.get? "extends").isSome) rfl
    intro source hsource hoffset
    have hnamed := htargets source hsource
    rw [hoffset.target] at hnamed
    cases hnamed
  refine ⟨_, _, rfl, rfl, ?_, hnone, ?_⟩
  · decide +kernel
  · exact ((Catalog.aggregatesBy_declaredTarget?_iff shapeDocument _ _ rfl
      rfl).2).mpr hnone

/-! ## An offset without a target -/

/-- A document in which an extension requires an offset for no group. -/
def untargetedDocument : Element :=
  .mk "registry" [] none
    [.mk "extensions" [] none
      [.mk "extension" [("name", "VK_A")] none
        [.mk "require" [] none
          [.mk "enum" [("name", "VK_A_X"), ("offset", "0")] none []]]]]

theorem Catalog.not_aggregatesBy_untargetedDocument :
    ∃ registry catalog,
      Registry.ofElement untargetedDocument = .ok registry ∧
        Catalog.build registry = .ok catalog ∧
        catalog.aggregates.keys = [""] ∧
        ¬ catalog.AggregatesBy untargetedDocument
          Document.declaredTarget? := by
  have htargets : ∀ source ∈ Document.required untargetedDocument,
      (Document.declaredTarget? source.2).isNone = true :=
    Document.forall_required_of_all
      (fun element => (Document.declaredTarget? element).isNone) rfl
  refine ⟨_, _, rfl, rfl, rfl, ?_⟩
  intro hdeclared
  have hmem := (hdeclared.targets "").mp (List.mem_singleton.mpr rfl)
  obtain ⟨source, hsource, htarget⟩ := List.mem_filterMap.mp hmem
  have hnone := htargets source hsource
  rw [htarget] at hnone
  cases hnone

end VulkanRegistry
