import VulkanRegistry.Proofs.Catalog.LastDeclarations
import VulkanRegistry.Proofs.Catalog.Walk

/-!
# A further extension

An extension with a name of its own may be put into any section of extensions,
or into a new one.  The catalog of the larger registry differs from the old one
in two places only.  The extension stands at its sorted place in the index of
the extensions, and what it contributes to a group stands as one block between
the contributions of the extensions below it and those of the extensions above
it.  It represents the group only if there are none below it, so the
representative of an aggregate can change although no entry is lost.
-/

namespace VulkanRegistry

/-! ## Insertion of a new key -/

namespace Index

variable {α : Type}

/-- An index with one new entry, which stands between the smaller keys and the
larger ones. -/
def Gains (key : String) (value : α) (former larger : Index α) : Prop :=
  ∃ below above, former.entries = below ++ above ∧
    larger.entries = below ++ (key, value) :: above ∧
    (∀ entry ∈ below, entry.1 < key) ∧ ∀ entry ∈ above, key < entry.1

theorem exists_updateEntries_of_absent {key : String}
    (change : Option α → α) {entries : List (String × α)}
    (hascending : entries.Pairwise fun a b => a.1 < b.1)
    (habsent : key ∉ entries.map Prod.fst) :
    ∃ below above, entries = below ++ above ∧
      updateEntries key change entries =
        below ++ (key, change none) :: above ∧
      (∀ entry ∈ below, entry.1 < key) ∧ ∀ entry ∈ above, key < entry.1 := by
  induction entries with
  | nil => exact ⟨[], [], rfl, rfl, by simp, by simp⟩
  | cons entry rest ih =>
      obtain ⟨other, value⟩ := entry
      obtain ⟨habove, htail⟩ := List.pairwise_cons.mp hascending
      simp only [List.map_cons, List.mem_cons, not_or] at habsent
      obtain ⟨hne, hrest⟩ := habsent
      rw [updateEntries, if_neg hne]
      split
      · rename_i hlt
        refine ⟨[], (other, value) :: rest, rfl, rfl, by simp, ?_⟩
        rw [List.forall_mem_cons]
        exact ⟨hlt, fun entry hentry =>
          String.lt_trans hlt (habove entry hentry)⟩
      · rename_i hnlt
        obtain ⟨below, above, rfl, hupdate, hbelow, hafter⟩ := ih htail hrest
        refine ⟨(other, value) :: below, above, rfl, ?_, ?_, hafter⟩
        · rw [hupdate, List.cons_append]
        · rw [List.forall_mem_cons]
          exact ⟨lt_of_not_lt_of_ne hnlt hne, hbelow⟩

theorem gains_insert (index : Index α) {key : String}
    (habsent : key ∉ index.keys) (value : α) :
    Gains key value index (index.insert key value) :=
  exists_updateEntries_of_absent (fun _ => value) index.ascending habsent

end Index

/-! ## Registries with a further extension -/

/-- A registry with a further extension, which stands anywhere in one of its
sections of extensions or in a section of its own. -/
inductive AddsExtension (extension : Extension) (registry : Registry) :
    Registry → Prop where
  | within {before after : List Section} {preceding following : List Extension}
      (hsections : registry.sections =
        before ++ .extensions (preceding ++ following) :: after) :
      AddsExtension extension registry
        ⟨before ++ .extensions (preceding ++ extension :: following) :: after⟩
  | apart {before after : List Section}
      (hsections : registry.sections = before ++ after) :
      AddsExtension extension registry
        ⟨before ++ .extensions [extension] :: after⟩

namespace AddsExtension

variable {extension : Extension} {registry larger : Registry}

theorem tagNames_eq (h : AddsExtension extension registry larger) :
    larger.tagNames = registry.tagNames := by
  cases h with
  | within hsections => simp [Registry.tagNames, hsections]
  | apart hsections => simp [Registry.tagNames, hsections]

theorem types_eq (h : AddsExtension extension registry larger) :
    larger.types = registry.types := by
  cases h with
  | within hsections => simp [Registry.types, hsections]
  | apart hsections => simp [Registry.types, hsections]

theorem enumBlocks_eq (h : AddsExtension extension registry larger) :
    larger.enumBlocks = registry.enumBlocks := by
  cases h with
  | within hsections => simp [Registry.enumBlocks, hsections]
  | apart hsections => simp [Registry.enumBlocks, hsections]

theorem exists_extensions_eq (h : AddsExtension extension registry larger) :
    ∃ preceding following, registry.extensions = preceding ++ following ∧
      larger.extensions = preceding ++ extension :: following := by
  cases h with
  | @within before after preceding following hsections =>
      refine ⟨Registry.extensions ⟨before⟩ ++ preceding,
        following ++ Registry.extensions ⟨after⟩, ?_, ?_⟩
      · simp [Registry.extensions, hsections]
      · simp [Registry.extensions]
  | @apart before after hsections =>
      refine ⟨Registry.extensions ⟨before⟩, Registry.extensions ⟨after⟩, ?_, ?_⟩
      · simp [Registry.extensions, hsections]
      · simp [Registry.extensions]

theorem extensionIndex_eq (h : AddsExtension extension registry larger)
    (hnew : ∀ other ∈ registry.extensions, other.name ≠ extension.name) :
    larger.extensionIndex =
      registry.extensionIndex.insert extension.name extension := by
  obtain ⟨preceding, following, hold, hlarger⟩ := h.exists_extensions_eq
  apply Index.eq_of_get?_eq
  intro name
  rw [Index.get?_insert, Registry.get?_extensionIndex,
    Registry.get?_extensionIndex, hlarger, hold, lastNamed_append,
    ← List.singleton_append, lastNamed_append, lastNamed_append,
    lastNamed_singleton]
  by_cases hname : name = extension.name
  · subst hname
    have habsent : lastNamed (fun extension => some extension.name) following
        extension.name = none := by
      rw [lastNamed_eq_none_iff]
      intro other hother heq
      apply hnew other _ (Option.some.inj heq)
      rw [hold]
      exact List.mem_append_right preceding hother
    simp [habsent]
  · have hother : ¬some extension.name = some name := by
      simpa using Ne.symm hname
    rw [if_neg hother, if_neg hname]
    simp

end AddsExtension

/-! ## Aggregates -/

/-- Whether an extension requires an enumerant for a group. -/
def Extension.Extends (extension : Extension) (target : String) : Prop :=
  ∃ enumerant ∈ extension.required, enumerant.payload.target? = some target

/-- What an extension contributes to a group, in declaration order. -/
def Extension.contributions (extension : Extension) (target : String) :
    List Contribution :=
  (extension.required.filter fun enumerant =>
    enumerant.payload.target? = some target).map
      (Contribution.mk extension.name)

theorem Extension.contributions_eq_nil_iff {extension : Extension}
    {target : String} :
    extension.contributions target = [] ↔ ¬extension.Extends target := by
  simp [Extension.contributions, Extension.Extends]

theorem Extension.exists_first {extension : Extension} {target : String}
    (hextends : extension.Extends target) :
    ∃ first rest, extension.contributions target = first :: rest ∧
      first.extension = extension.name := by
  cases hblock : extension.contributions target with
  | nil =>
      exact absurd hextends (Extension.contributions_eq_nil_iff.mp hblock)
  | cons first rest =>
      refine ⟨first, rest, rfl, ?_⟩
      have hmem : first ∈ extension.contributions target := by
        rw [hblock]
        exact List.mem_cons_self
      obtain ⟨enumerant, -, rfl⟩ := List.mem_map.mp hmem
      rfl

namespace Aggregate

/-- The aggregate that a group has once an extension contributes to it: the
former entries with one block between those of smaller and those of larger
extension names.  The extension represents the group if no smaller name is
among them, and else the representative stays. -/
structure Receives (extension : Extension) (target : String)
    (former : Option Aggregate) (aggregate : Aggregate) : Prop where
  entries : ∃ below above,
    (former.map Aggregate.entries).getD [] = below ++ above ∧
      aggregate.entries =
        below ++ extension.contributions target ++ above ∧
      (∀ entry ∈ below, entry.extension < extension.name) ∧
      ∀ entry ∈ above, extension.name < entry.extension
  represents : aggregate.representative = extension.name ↔
    ∀ entry ∈ (former.map Aggregate.entries).getD [],
      ¬entry.extension < extension.name
  represented : aggregate.representative ≠ extension.name →
    former.map Aggregate.representative = some aggregate.representative

theorem contributionsTo_append_cons (target : String)
    (below above : List (String × Extension)) (extension : Extension) :
    contributionsTo target (below ++ (extension.name, extension) :: above) =
      contributionsTo target below ++ extension.contributions target ++
        contributionsTo target above := by
  simp [contributionsTo, Extension.contributions]

theorem contributionsTo_append (target : String)
    (below above : List (String × Extension)) :
    contributionsTo target (below ++ above) =
      contributionsTo target below ++ contributionsTo target above := by
  simp [contributionsTo]

theorem exists_entry_of_mem_contributionsTo {target : String}
    {extensions : List (String × Extension)} {contribution : Contribution}
    (h : contribution ∈ contributionsTo target extensions) :
    ∃ entry ∈ extensions, entry.1 = contribution.extension := by
  rw [contributionsTo, List.mem_flatMap] at h
  obtain ⟨entry, hentry, hmem⟩ := h
  obtain ⟨enumerant, -, rfl⟩ := List.mem_map.mp hmem
  exact ⟨entry, hentry, rfl⟩

theorem receives_of_contributions {extension : Extension} {target : String}
    {below above : List Contribution} (hextends : extension.Extends target)
    (hbelow : ∀ entry ∈ below, entry.extension < extension.name)
    (habove : ∀ entry ∈ above, extension.name < entry.extension) :
    ∃ aggregate,
      ofContributions? (below ++ extension.contributions target ++ above) =
        some aggregate ∧
      Receives extension target (ofContributions? (below ++ above))
        aggregate := by
  have hformer := entries_ofContributions? (below ++ above)
  obtain ⟨first, rest, hblock, hfirst⟩ := Extension.exists_first hextends
  cases below with
  | nil =>
      refine ⟨⟨extension.name, extension.contributions target ++ above⟩,
        ?_, ?_, ?_, ?_⟩
      · simp [hblock, ofContributions?, hfirst]
      · exact ⟨[], above, hformer, rfl, hbelow, habove⟩
      · rw [hformer]
        refine iff_of_true rfl ?_
        intro entry hentry hlt
        exact String.lt_irrefl _ (String.lt_trans hlt (habove entry hentry))
      · exact fun hne => absurd rfl hne
  | cons lowest others =>
      have hlowest := hbelow lowest List.mem_cons_self
      refine ⟨⟨lowest.extension,
        lowest :: others ++ extension.contributions target ++ above⟩,
        rfl, ?_, ?_, ?_⟩
      · exact ⟨lowest :: others, above, hformer, rfl, hbelow, habove⟩
      · rw [hformer]
        refine iff_of_false ?_ ?_
        · rintro (heq : lowest.extension = extension.name)
          exact String.lt_irrefl _ (heq ▸ hlowest)
        · intro hnone
          exact hnone lowest (by simp) hlowest
      · intro _
        rfl

end Aggregate

/-! ## Catalogs -/

/-- A summary as it is when no extension contributes to the group. -/
def Summary.own (summary : Summary) : Summary :=
  { summary with
    variants := summary.variants.filter fun variant => variant.extension.isNone
    representative := none }

/-- How a catalog grows by an extension with a name of its own: at the sorted
place of the name in the index of the extensions, in the aggregates of the
groups that it extends, and nowhere else. -/
structure Catalog.GrowsBy (extension : Extension) (former larger : Catalog) :
    Prop where
  tags : larger.tags = former.tags
  types : larger.types = former.types
  groups : larger.groups = former.groups
  extensions : Index.Gains extension.name extension former.extensions
    larger.extensions
  untouched : ∀ target, ¬extension.Extends target →
    larger.aggregates.get? target = former.aggregates.get? target
  extended : ∀ target, extension.Extends target →
    ∃ aggregate, larger.aggregates.get? target = some aggregate ∧
      Aggregate.Receives extension target (former.aggregates.get? target)
        aggregate
  summaries : ∀ name, ¬extension.Extends name →
    larger.summary? name = former.summary? name
  ownSummaries : ∀ name, (larger.summary? name).map Summary.own =
    (former.summary? name).map Summary.own

section Catalog

variable {registry grown : Registry} {extension : Extension}
  {former larger : Catalog}

theorem get?_aggregates (hbuild : Catalog.build registry = .ok former)
    (target : String) :
    former.aggregates.get? target =
      Aggregate.ofContributions?
        (Aggregate.contributionsTo target former.extensions.entries) := by
  obtain ⟨-, -, -, hextensions, -, haggregates⟩ :=
    Catalog.build_eq_ok_iff.mp hbuild
  rw [haggregates, hextensions, Aggregate.get?_collect]

theorem AddsExtension.exists_build (h : AddsExtension extension registry grown)
    (hbuild : Catalog.build registry = .ok former) :
    ∃ larger, Catalog.build grown = .ok larger := by
  rw [Catalog.exists_build_eq_ok_iff, h.enumBlocks_eq,
    ← Catalog.exists_build_eq_ok_iff]
  exact ⟨former, hbuild⟩

theorem AddsExtension.groups_eq (h : AddsExtension extension registry grown)
    (hbuild : Catalog.build registry = .ok former)
    (hlarger : Catalog.build grown = .ok larger) :
    larger.groups = former.groups := by
  have hformer := (Catalog.build_eq_ok_iff.mp hbuild).1
  have hgrown := (Catalog.build_eq_ok_iff.mp hlarger).1
  rw [Registry.groupIndex, h.enumBlocks_eq, ← Registry.groupIndex,
    hformer] at hgrown
  exact (Except.ok.inj hgrown).symm

theorem AddsExtension.tags_eq (h : AddsExtension extension registry grown)
    (hbuild : Catalog.build registry = .ok former)
    (hlarger : Catalog.build grown = .ok larger) :
    larger.tags = former.tags := by
  obtain ⟨-, -, hformer, -⟩ := Catalog.build_eq_ok_iff.mp hbuild
  obtain ⟨-, -, hgrown, -⟩ := Catalog.build_eq_ok_iff.mp hlarger
  rw [hgrown, hformer, Registry.sortedTags, Registry.sortedTags,
    h.tagNames_eq]

theorem AddsExtension.typeIndex_eq (h : AddsExtension extension registry grown)
    (hbuild : Catalog.build registry = .ok former)
    (hlarger : Catalog.build grown = .ok larger) :
    larger.types = former.types := by
  obtain ⟨-, -, -, -, hformer, -⟩ := Catalog.build_eq_ok_iff.mp hbuild
  obtain ⟨-, -, -, -, hgrown, -⟩ := Catalog.build_eq_ok_iff.mp hlarger
  rw [hgrown, hformer, Registry.typeIndex, Registry.typeIndex, h.types_eq]

theorem AddsExtension.gains (h : AddsExtension extension registry grown)
    (hnew : ∀ other ∈ registry.extensions, other.name ≠ extension.name)
    (hbuild : Catalog.build registry = .ok former)
    (hlarger : Catalog.build grown = .ok larger) :
    Index.Gains extension.name extension former.extensions
      larger.extensions := by
  obtain ⟨-, -, -, hformer, -, -⟩ := Catalog.build_eq_ok_iff.mp hbuild
  obtain ⟨-, -, -, hgrown, -, -⟩ := Catalog.build_eq_ok_iff.mp hlarger
  rw [hgrown, h.extensionIndex_eq hnew, hformer]
  apply Index.gains_insert
  rw [Registry.extensionIndex, Index.mem_keys_ofList]
  simpa using hnew

/-! ## Aggregates and summaries of the larger catalog -/

theorem get?_aggregates_of_not_extends
    (hbuild : Catalog.build registry = .ok former)
    (hlarger : Catalog.build grown = .ok larger)
    (hgains : Index.Gains extension.name extension former.extensions
      larger.extensions) {target : String}
    (hnone : ¬extension.Extends target) :
    larger.aggregates.get? target = former.aggregates.get? target := by
  obtain ⟨below, above, hformer, hgrown, -, -⟩ := hgains
  have hblock := Extension.contributions_eq_nil_iff.mpr hnone
  rw [get?_aggregates hlarger, get?_aggregates hbuild, hgrown, hformer,
    Aggregate.contributionsTo_append_cons, hblock, List.append_nil,
    Aggregate.contributionsTo_append]

theorem exists_receives (hbuild : Catalog.build registry = .ok former)
    (hlarger : Catalog.build grown = .ok larger)
    (hgains : Index.Gains extension.name extension former.extensions
      larger.extensions) {target : String}
    (hextends : extension.Extends target) :
    ∃ aggregate, larger.aggregates.get? target = some aggregate ∧
      Aggregate.Receives extension target (former.aggregates.get? target)
        aggregate := by
  obtain ⟨below, above, hformer, hgrown, hbelow, habove⟩ := hgains
  rw [get?_aggregates hlarger, get?_aggregates hbuild, hgrown, hformer,
    Aggregate.contributionsTo_append_cons, Aggregate.contributionsTo_append]
  apply Aggregate.receives_of_contributions hextends
  · intro entry hentry
    obtain ⟨source, hsource, hname⟩ :=
      Aggregate.exists_entry_of_mem_contributionsTo hentry
    exact hname ▸ hbelow source hsource
  · intro entry hentry
    obtain ⟨source, hsource, hname⟩ :=
      Aggregate.exists_entry_of_mem_contributionsTo hentry
    exact hname ▸ habove source hsource

theorem variantOf_eq_of_tags (htags : larger.tags = former.tags) :
    larger.variantOf = former.variantOf := by
  funext owner extension enumerant
  rw [Catalog.variantOf, Catalog.variantOf, Catalog.variantName,
    Catalog.variantName, htags]

theorem summarize_eq_of_aggregate {group : EnumGroup}
    (htags : larger.tags = former.tags)
    (haggregate : larger.aggregates.get? group.name =
      former.aggregates.get? group.name) :
    larger.summarize group = former.summarize group := by
  rw [Catalog.summarize, Catalog.summarize, haggregate,
    variantOf_eq_of_tags htags]

/-- Without what extensions contribute, a summary lists the enumerants of the
group itself. -/
theorem variants_own_summarize (catalog : Catalog) (group : EnumGroup) :
    (catalog.summarize group).own.variants =
      group.enumerants.map (catalog.variantOf group.name none) := by
  have hown : ∀ variant ∈ group.enumerants.map
      (catalog.variantOf group.name none), variant.extension.isNone = true := by
    simp [Catalog.variantOf]
  rw [Summary.own, Catalog.summarize]
  dsimp only
  rw [List.filter_append, List.filter_eq_self.mpr hown,
    List.filter_eq_nil_iff.mpr, List.append_nil]
  simp [Catalog.variantOf]

theorem own_summarize_eq (htags : larger.tags = former.tags)
    (group : EnumGroup) :
    (larger.summarize group).own = (former.summarize group).own := by
  have hvariants : (larger.summarize group).own.variants =
      (former.summarize group).own.variants := by
    rw [variants_own_summarize, variants_own_summarize,
      variantOf_eq_of_tags htags]
  calc
    (larger.summarize group).own =
        { (former.summarize group).own with
          variants := (larger.summarize group).own.variants } := rfl
    _ = (former.summarize group).own := by rw [hvariants]

theorem summary?_eq_of_aggregate {name : String}
    (hbuild : Catalog.build registry = .ok former)
    (htags : larger.tags = former.tags)
    (hgroups : larger.groups = former.groups)
    (haggregate : larger.aggregates.get? name =
      former.aggregates.get? name) :
    larger.summary? name = former.summary? name := by
  rw [Catalog.summary?, Catalog.summary?, hgroups]
  cases hgroup : former.groups.get? name with
  | none => rfl
  | some group =>
      have hcalled := (holdsLast_groups hbuild).called (name, group)
        (Index.mem_entries_iff.mpr hgroup)
      obtain rfl : group.name = name := Option.some.inj hcalled
      rw [Option.map_some, Option.map_some,
        summarize_eq_of_aggregate htags haggregate]

theorem own_summary?_eq (htags : larger.tags = former.tags)
    (hgroups : larger.groups = former.groups) (name : String) :
    (larger.summary? name).map Summary.own =
      (former.summary? name).map Summary.own := by
  rw [Catalog.summary?, Catalog.summary?, hgroups]
  cases former.groups.get? name with
  | none => rfl
  | some group => simp [own_summarize_eq htags]

end Catalog

/-- A registry with a further extension of a new name can be indexed when the
registry can, and its catalog grows at the extension's places only. -/
theorem Catalog.exists_build_growsBy (registry grown : Registry)
    (extension : Extension) (former : Catalog)
    (hbuild : Catalog.build registry = .ok former)
    (hnew : ∀ other ∈ registry.extensions, other.name ≠ extension.name)
    (hadds : AddsExtension extension registry grown) :
    ∃ larger, Catalog.build grown = .ok larger ∧
      Catalog.GrowsBy extension former larger := by
  obtain ⟨larger, hlarger⟩ := hadds.exists_build hbuild
  have htags := hadds.tags_eq hbuild hlarger
  have hgroups := hadds.groups_eq hbuild hlarger
  have hgains := hadds.gains hnew hbuild hlarger
  have huntouched : ∀ target, ¬extension.Extends target →
      larger.aggregates.get? target = former.aggregates.get? target :=
    fun _ hnone => get?_aggregates_of_not_extends hbuild hlarger hgains hnone
  refine ⟨larger, hlarger, htags, hadds.typeIndex_eq hbuild hlarger, hgroups,
    hgains, huntouched, ?_, ?_, own_summary?_eq htags hgroups⟩
  · intro target hextends
    exact exists_receives hbuild hlarger hgains hextends
  · intro name hnone
    exact summary?_eq_of_aggregate hbuild htags hgroups (huntouched name hnone)

/-! ## An extension between two others -/

/-- An extension that adds a cone to the group `VkShape`. -/
def lowerExtension : Extension :=
  ⟨"VK_A", [.require [.enumerant
    ⟨"VK_SHAPE_CONE", .offset 0 "VkShape" none ""⟩] ""], some 1, ""⟩

/-- An extension that adds to `VkShape` in two blocks, and also to a group that
nothing has extended so far. -/
def middleExtension : Extension :=
  ⟨"VK_B",
    [.require [.enumerant ⟨"VK_SHAPE_RING", .offset 0 "VkShape" none ""⟩,
      .enumerant ⟨"VK_HUE_RED", .value "1" (some "VkHue")⟩] "",
    .require [.enumerant ⟨"VK_SHAPE_TORUS", .aliasOf "VK_SHAPE_RING"
      (some "VkShape")⟩] ""], some 2, ""⟩

/-- An extension that adds a ball to the group `VkShape`. -/
def upperExtension : Extension :=
  ⟨"VK_C", [.require [.enumerant
    ⟨"VK_SHAPE_BALL", .offset 0 "VkShape" none ""⟩] ""], some 3, ""⟩

/-- A registry of the group `VkShape` and some extensions. -/
def registryWith (extensions : List Extension) : Registry :=
  ⟨[.enums ⟨some "VkShape", some "enum", [⟨"VK_SHAPE_CUBE", .value "0" none⟩]⟩,
    .extensions extensions]⟩

theorem addsExtension_middle :
    AddsExtension middleExtension
      (registryWith [upperExtension, lowerExtension])
      (registryWith [upperExtension, middleExtension, lowerExtension]) :=
  @AddsExtension.within middleExtension
    (registryWith [upperExtension, lowerExtension])
    [.enums ⟨some "VkShape", some "enum",
      [⟨"VK_SHAPE_CUBE", .value "0" none⟩]⟩]
    [] [upperExtension] [lowerExtension] rfl

theorem Catalog.exists_build_growsBy_middle :
    ∃ former larger,
      Catalog.build (registryWith [upperExtension, lowerExtension]) =
          .ok former ∧
        (∀ other ∈
            (registryWith [upperExtension, lowerExtension]).extensions,
          other.name ≠ middleExtension.name) ∧
        AddsExtension middleExtension
          (registryWith [upperExtension, lowerExtension])
          (registryWith [upperExtension, middleExtension, lowerExtension]) ∧
        Catalog.build
            (registryWith [upperExtension, middleExtension, lowerExtension]) =
          .ok larger ∧
        Catalog.GrowsBy middleExtension former larger ∧
        (larger.summary? "VkShape").map (fun summary =>
            summary.variants.map Variant.rawName) =
          some ["VK_SHAPE_CUBE", "VK_SHAPE_CONE", "VK_SHAPE_RING",
            "VK_SHAPE_TORUS", "VK_SHAPE_BALL"] := by
  obtain ⟨former, hformer⟩ : ∃ former,
      Catalog.build (registryWith [upperExtension, lowerExtension]) =
        .ok former := ⟨_, rfl⟩
  have hnew : ∀ other ∈
      (registryWith [upperExtension, lowerExtension]).extensions,
      other.name ≠ middleExtension.name := by
    decide +kernel
  obtain ⟨larger, hlarger, hgrows⟩ := Catalog.exists_build_growsBy _ _
    middleExtension former hformer hnew addsExtension_middle
  refine ⟨former, larger, hformer, hnew, addsExtension_middle, hlarger,
    hgrows, ?_⟩
  cases hlarger
  decide +kernel

end VulkanRegistry
