import VulkanRegistry.Proofs.Catalog.Declarations
import VulkanRegistry.Proofs.Catalog.Walk
import VulkanRegistry.Proofs.Index.Dictionary

/-!
# When a catalog cannot be built

A declared group is faulty when it has no name, or a marker that stands for no
kind of group.  One faulty group is enough to leave a registry without a
catalog, also when a later group takes its name, and the first one is reported.
Nothing else in a registry is in the way of a catalog.  In particular, the
dictionaries that are filled from the declarations can always be sorted into
the indices, however often a name is declared.
-/

namespace VulkanRegistry

namespace EnumBlock

/-- A group has no name.  An empty name is none. -/
def IsNameless (block : EnumBlock) : Prop :=
  block.name = none ∨ block.name = some ""

/-- A group has a marker that stands for no kind of group. -/
def HasUnknownMarker (block : EnumBlock) (marker : String) : Prop :=
  block.marker = some marker ∧ marker ∉ ["", "bitmask", "enum"]

def IsFaulty (block : EnumBlock) : Prop :=
  block.IsNameless ∨ ∃ marker, block.HasUnknownMarker marker

/-- The fault of a group that counts: a missing name before a marker. -/
inductive HasFault (block : EnumBlock) : GroupError → Prop
  | missingName : block.IsNameless → HasFault block .missingName
  | unknownMarker {marker : String} :
      ¬ block.IsNameless → block.HasUnknownMarker marker →
        HasFault block (.unknownMarker marker)

/-- A diagnostic is about the fault of a group that counts, and quotes its
marker as it stands. -/
structure IsReportedBy (block : EnumBlock) (diagnostic : Diagnostic) :
    Prop where
  area : diagnostic.area = .registry
  missingName : block.IsNameless → diagnostic.code = .missingEnumName
  unknownMarker : ¬ block.IsNameless →
    ∃ marker, block.HasUnknownMarker marker ∧
      diagnostic.code = .unknownEnumKind ∧
      marker.toList <:+: diagnostic.message.toList

theorem exists_hasFault_iff {block : EnumBlock} :
    (∃ error, block.HasFault error) ↔ block.IsFaulty := by
  constructor
  · rintro ⟨_, hnameless | ⟨-, hmarker⟩⟩
    · exact .inl hnameless
    · exact .inr ⟨_, hmarker⟩
  · intro hfaulty
    by_cases hnameless : block.IsNameless
    · exact ⟨_, .missingName hnameless⟩
    · obtain ⟨marker, hmarker⟩ := hfaulty.resolve_left hnameless
      exact ⟨_, .unknownMarker hnameless hmarker⟩

theorem HasFault.isReportedBy {block : EnumBlock} {error : GroupError}
    (h : block.HasFault error) : block.IsReportedBy error.diagnostic := by
  cases h with
  | missingName hnameless =>
      exact ⟨rfl, fun _ => rfl, fun hnamed => absurd hnameless hnamed⟩
  | @unknownMarker marker hnamed hmarker =>
      have hquoted : (GroupError.unknownMarker marker).diagnostic.message =
          "Unknown enum kind marker: '" ++ marker ++ "'" := rfl
      refine ⟨rfl, fun hnameless => absurd hnameless hnamed, fun _ => ?_⟩
      refine ⟨marker, hmarker, rfl, ?_⟩
      rw [hquoted, String.toList_append, String.toList_append]
      exact List.infix_append _ _ _

end EnumBlock

/-! ## One group -/

theorem GroupKind.ofMarker_eq_error_iff {marker : Option String}
    {error : GroupError} :
    ofMarker marker = .error error ↔
      ∃ text, marker = some text ∧ text ∉ ["", "bitmask", "enum"] ∧
        error = .unknownMarker text := by
  rw [ofMarker.eq_def]
  split
  · simp
  · simp
  · simp
  · simp
  · rename_i text hempty hbitmask henum
    have hunknown : text ∉ ["", "bitmask", "enum"] := by
      simpa using ⟨hempty, hbitmask, henum⟩
    constructor
    · rintro ⟨⟩
      exact ⟨text, rfl, hunknown, rfl⟩
    · rintro ⟨_, ⟨⟩, -, rfl⟩
      rfl

theorem EnumGroup.ofBlock_of_isNameless {block : EnumBlock}
    (h : block.IsNameless) : ofBlock block = .error .missingName := by
  rcases h with hname | hname
  · rw [ofBlock, hname]
  · rw [ofBlock, hname]
    rfl

theorem EnumGroup.ofBlock_of_not_isNameless {block : EnumBlock}
    (h : ¬ block.IsNameless) :
    ∃ name, ofBlock block =
      (GroupKind.ofMarker block.marker).map fun kind =>
        ⟨name, kind, block⟩ := by
  rw [ofBlock]
  split
  · rename_i hname
    exact absurd (.inl hname) h
  · rename_i hname
    exact absurd (.inr hname) h
  · rename_i name _ _
    exact ⟨name, rfl⟩

/-- A group is not indexed exactly when it has a fault, and then because of
the fault that counts. -/
theorem EnumGroup.ofBlock_eq_error_iff {block : EnumBlock}
    {error : GroupError} :
    ofBlock block = .error error ↔ block.HasFault error := by
  by_cases hnameless : block.IsNameless
  · rw [ofBlock_of_isNameless hnameless]
    constructor
    · rintro ⟨⟩
      exact .missingName hnameless
    · rintro (_ | ⟨hnamed, -⟩)
      · rfl
      · exact absurd hnameless hnamed
  · obtain ⟨name, hblock⟩ := ofBlock_of_not_isNameless hnameless
    rw [hblock, map_eq_error_iff, GroupKind.ofMarker_eq_error_iff]
    constructor
    · rintro ⟨marker, hmarker, hunknown, rfl⟩
      exact .unknownMarker hnameless ⟨hmarker, hunknown⟩
    · rintro (hmissing | ⟨-, hmarker, hunknown⟩)
      · exact absurd hmissing hnameless
      · exact ⟨_, hmarker, hunknown, rfl⟩

theorem EnumGroup.exists_ofBlock_eq_ok_iff {block : EnumBlock} :
    (∃ group, ofBlock block = .ok group) ↔ ¬ block.IsFaulty := by
  rw [← EnumBlock.exists_hasFault_iff]
  simp only [← ofBlock_eq_error_iff]
  cases ofBlock block with
  | error error => simp
  | ok group => simp

/-! ## The first faulty group -/

/-- The group that a section declares, if it declares one. -/
def Section.enumBlock? : Section → Option EnumBlock
  | .enums block => some block
  | _ => none

theorem Section.enumBlock?_eq_some_iff {part : Section} {block : EnumBlock} :
    part.enumBlock? = some block ↔ part = .enums block := by
  cases part <;> simp [enumBlock?]

namespace Registry

/-- A group is faulty and stands before all other faulty groups. -/
def HasFirstFaulty (registry : Registry) (block : EnumBlock) : Prop :=
  ∃ before after, registry.sections = before ++ .enums block :: after ∧
    block.IsFaulty ∧ ∀ earlier, .enums earlier ∈ before → ¬ earlier.IsFaulty

theorem enumBlocks_eq_filterMap (registry : Registry) :
    registry.enumBlocks = registry.sections.filterMap Section.enumBlock? := by
  rw [enumBlocks, List.filterMap_eq_flatMap_toList]
  congr 1
  funext part
  cases part <;> rfl

theorem mem_enumBlocks_iff {registry : Registry} {block : EnumBlock} :
    block ∈ registry.enumBlocks ↔ .enums block ∈ registry.sections := by
  simp [enumBlocks_eq_filterMap, Section.enumBlock?_eq_some_iff]

/-- The sections between the groups do not matter for which one is the first
faulty group. -/
theorem hasFirstFaulty_iff {registry : Registry} {block : EnumBlock} :
    registry.HasFirstFaulty block ↔
      ∃ before after, registry.enumBlocks = before ++ block :: after ∧
        block.IsFaulty ∧ ∀ earlier ∈ before, ¬ earlier.IsFaulty := by
  rw [enumBlocks_eq_filterMap]
  constructor
  · rintro ⟨before, after, hsections, hfaulty, hbefore⟩
    refine ⟨before.filterMap Section.enumBlock?,
      after.filterMap Section.enumBlock?, ?_, hfaulty, ?_⟩
    · rw [hsections, List.filterMap_append]
      rfl
    · intro earlier hearlier
      obtain ⟨part, hpart, hblock⟩ := List.mem_filterMap.mp hearlier
      rw [Section.enumBlock?_eq_some_iff.mp hblock] at hpart
      exact hbefore earlier hpart
  · rintro ⟨before, after, hblocks, hfaulty, hbefore⟩
    obtain ⟨first, rest, hsections, hfirst, hrest⟩ :=
      List.filterMap_eq_append_iff.mp hblocks
    obtain ⟨skipped, part, later, rfl, hskipped, hpart, -⟩ :=
      List.filterMap_eq_cons_iff.mp hrest
    rw [Section.enumBlock?_eq_some_iff.mp hpart] at hsections
    refine ⟨first ++ skipped, later, ?_, hfaulty, ?_⟩
    · rw [hsections, List.append_assoc]
    · intro earlier hearlier
      rcases List.mem_append.mp hearlier with hfound | hfound
      · apply hbefore
        rw [← hfirst]
        exact List.mem_filterMap.mpr ⟨_, hfound, rfl⟩
      · cases hskipped _ hfound

/-- The groups are not indexed exactly when one is faulty, and then because of
the first faulty group. -/
theorem groupIndex_eq_error_iff {registry : Registry} {error : GroupError} :
    registry.groupIndex = .error error ↔
      ∃ block, registry.HasFirstFaulty block ∧ block.HasFault error := by
  rw [groupIndex, map_eq_error_iff, mapM_eq_error_iff]
  simp only [hasFirstFaulty_iff, EnumGroup.ofBlock_eq_error_iff,
    EnumGroup.exists_ofBlock_eq_ok_iff]
  constructor
  · rintro ⟨before, block, after, hblocks, hbefore, hfault⟩
    have hfaulty := EnumBlock.exists_hasFault_iff.mp ⟨error, hfault⟩
    exact ⟨block, ⟨before, after, hblocks, hfaulty, hbefore⟩, hfault⟩
  · rintro ⟨block, ⟨before, after, hblocks, -, hbefore⟩, hfault⟩
    exact ⟨before, block, after, hblocks, hbefore, hfault⟩

/-! ## The sorted indices -/

/-- The aggregates by target, in the order in which the walk over extensions
meets the targets. -/
def aggregatesMet (registry : Registry) : Dictionary Aggregate :=
  (Aggregate.walk registry.extensionIndex.entries).foldl
    (fun found met => found.update met.1 (Aggregate.join met.2))
    Dictionary.empty

/-- Each index is the dictionary of the declarations, sorted: the groups as
soon as none of them is faulty, and the others in any case. -/
structure SortsIndices (registry : Registry) : Prop where
  extensions :
    (Dictionary.ofPairs (registry.extensions.map fun extension =>
      (extension.name, extension))).SortsTo registry.extensionIndex.entries
  types :
    (Dictionary.ofPairs (registry.types.filterMap fun type =>
      type.indexName?.map fun name => (name, type))).SortsTo
        registry.typeIndex.entries
  groups : ∀ index, registry.groupIndex = .ok index →
    ∃ groups,
      List.Forall₂ (fun block group => EnumGroup.ofBlock block = .ok group)
        registry.enumBlocks groups ∧
      (Dictionary.ofPairs (groups.map fun group =>
        (group.name, group))).SortsTo index.entries
  aggregates :
    registry.aggregatesMet.SortsTo
      (Aggregate.collect registry.extensionIndex.entries).entries

theorem sortsIndices (registry : Registry) : registry.SortsIndices where
  extensions := (Dictionary.mirrors_ofPairs _).sortsTo
  types := by
    rw [typeIndex_eq]
    exact (Dictionary.mirrors_ofPairs _).sortsTo
  groups := by
    intro index hindex
    obtain ⟨groups, hgroups, rfl⟩ := groupIndex_eq_ok hindex
    exact ⟨groups, hgroups, (Dictionary.mirrors_ofPairs _).sortsTo⟩
  aggregates := by
    rw [Aggregate.collect_eq_foldl_walk]
    exact (Dictionary.mirrors_empty.foldl Prod.fst
      (fun met => Aggregate.join met.2) _).sortsTo

end Registry

/-! ## Failure -/

namespace Catalog

theorem build_eq_error_iff {registry : Registry} {error : GroupError} :
    build registry = .error error ↔
      ∃ block, registry.HasFirstFaulty block ∧ block.HasFault error := by
  rw [build, map_eq_error_iff, Registry.groupIndex_eq_error_iff]

theorem exists_build_eq_error_iff {registry : Registry} :
    (∃ error, build registry = .error error) ↔
      ∃ block, .enums block ∈ registry.sections ∧ block.IsFaulty := by
  have hfailed : (∃ error, build registry = .error error) ↔
      ¬ ∃ catalog, build registry = .ok catalog := by
    cases build registry with
    | error error => simp
    | ok catalog => simp
  rw [hfailed, exists_build_eq_ok_iff]
  simp only [EnumGroup.exists_ofBlock_eq_ok_iff, Registry.mem_enumBlocks_iff,
    not_forall, not_not, exists_prop]

/-- A registry has no catalog exactly when one of its groups is faulty.  Then
the first faulty group is reported, a missing name before an unknown marker,
and all dictionaries but that of the groups are sorted nonetheless. -/
theorem build_fails_at_first_fault (registry : Registry) :
    ((∃ error, build registry = .error error) ↔
      ∃ block, .enums block ∈ registry.sections ∧ block.IsFaulty) ∧
    (∀ error, build registry = .error error ↔
      ∃ block, registry.HasFirstFaulty block ∧ block.HasFault error ∧
        block.IsReportedBy error.diagnostic) ∧
    registry.SortsIndices := by
  refine ⟨exists_build_eq_error_iff, fun error => ?_, registry.sortsIndices⟩
  rw [build_eq_error_iff]
  constructor
  · rintro ⟨block, hfirst, hfault⟩
    exact ⟨block, hfirst, hfault, hfault.isReportedBy⟩
  · rintro ⟨block, hfirst, hfault, -⟩
    exact ⟨block, hfirst, hfault⟩

/-! ## A registry with every name declared twice -/

/-- A registry that declares everything twice, with a given first group before
the group of its name that stays, and with targets that are no groups. -/
def repeatedRegistry (first : EnumBlock) : Registry :=
  ⟨[.tags [⟨"KHR", "", ""⟩, ⟨"", "", ""⟩, ⟨"KHR", "", ""⟩],
    .enums first,
    .types [⟨some "VkHue", "enum", none⟩, ⟨some "", "", none⟩],
    .extensions [⟨"VK_B", [], some 1, ""⟩, ⟨"", [], none, ""⟩,
      ⟨"VK_B", [.require [.enumerant ⟨"VK_HUE_RED", .bit 0 (some "VkTone")⟩,
        .enumerant ⟨"VK_HUE_RED", .bit 0 (some "VkTone")⟩] ""], some 2, ""⟩],
    .enums ⟨some "VkShape", some "enum", []⟩,
    .types [⟨some "VkHue", "bitmask", none⟩, ⟨none, "", none⟩]]⟩

theorem build_fails_at_first_fault_repeated :
    build (repeatedRegistry ⟨none, some "bitfield", []⟩) =
        .error .missingName ∧
      build (repeatedRegistry ⟨some "VkShape", some "bitfield", []⟩) =
        .error (.unknownMarker "bitfield") ∧
      ¬ ∃ error,
        build (repeatedRegistry ⟨some "VkShape", some "bitmask", []⟩) =
          .error error := by
  have hfirst : ∀ block : EnumBlock, block.IsFaulty →
      (repeatedRegistry block).HasFirstFaulty block := by
    intro block hfaulty
    exact ⟨[_], _, rfl, hfaulty, by simp⟩
  have hmarker : EnumBlock.HasUnknownMarker
      ⟨some "VkShape", some "bitfield", []⟩ "bitfield" := ⟨rfl, by decide⟩
  have hnamed : ¬ EnumBlock.IsNameless
      ⟨some "VkShape", some "bitfield", []⟩ := by
    simp [EnumBlock.IsNameless]
  refine ⟨?_, ?_, ?_⟩
  · have hfault : EnumBlock.HasFault ⟨none, some "bitfield", []⟩
        .missingName := .missingName (.inl rfl)
    exact ((build_fails_at_first_fault _).2.1 _).mpr
      ⟨_, hfirst _ (.inl (.inl rfl)), hfault, hfault.isReportedBy⟩
  · have hfault : EnumBlock.HasFault ⟨some "VkShape", some "bitfield", []⟩
        (.unknownMarker "bitfield") := .unknownMarker hnamed hmarker
    exact ((build_fails_at_first_fault _).2.1 _).mpr
      ⟨_, hfirst _ (.inr ⟨_, hmarker⟩), hfault, hfault.isReportedBy⟩
  · rw [(build_fails_at_first_fault _).1]
    rintro ⟨block, hmem, hfaulty⟩
    simp only [repeatedRegistry, List.mem_cons, reduceCtorEq, false_or,
      Section.enums.injEq, List.not_mem_nil, or_false] at hmem
    rcases hmem with rfl | rfl
    · simp [EnumBlock.IsFaulty, EnumBlock.IsNameless,
        EnumBlock.HasUnknownMarker] at hfaulty
    · simp [EnumBlock.IsFaulty, EnumBlock.IsNameless,
        EnumBlock.HasUnknownMarker] at hfaulty

end Catalog

end VulkanRegistry
