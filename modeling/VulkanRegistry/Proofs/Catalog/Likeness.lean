import VulkanRegistry.Command.Discovery
import VulkanRegistry.Proofs.Catalog.Declarations
import VulkanRegistry.Proofs.Catalog.Walk
import VulkanRegistry.Proofs.Registry.Reading

/-!
# Registries that are alike

Two registries are alike when their groups and extensions have the same names
and their enumerants the same names and targets and are aliases in the same
places.  What else they hold may differ: values, positions and offsets, numbers,
what is removed, types and commands.  The catalogs of such registries are alike
in turn, and everything that is reported of groups is the same.
-/

namespace VulkanRegistry

/-! ## The relations -/

/-- Enumerants that a group or an aggregate does not tell apart. -/
structure Enumerant.Alike (left right : Enumerant) : Prop where
  name : left.name = right.name
  target : left.payload.target? = right.payload.target?
  isAlias : left.payload.isAlias = right.payload.isAlias

/-- Declared groups with the same name and marker and with enumerants that are
alike. -/
structure EnumBlock.Alike (left right : EnumBlock) : Prop where
  name : left.name = right.name
  marker : left.marker = right.marker
  enumerants : List.Forall₂ Enumerant.Alike left.enumerants right.enumerants

/-- Extensions with the same name that require enumerants that are alike. -/
structure Extension.Alike (left right : Extension) : Prop where
  name : left.name = right.name
  required : List.Forall₂ Enumerant.Alike left.required right.required

/-- Registries with the same tags whose groups and extensions are alike, each
with the one in its place. -/
structure Registry.Alike (left right : Registry) : Prop where
  tags : left.tagNames = right.tagNames
  groups : List.Forall₂ EnumBlock.Alike left.enumBlocks right.enumBlocks
  extensions :
    List.Forall₂ Extension.Alike left.extensions right.extensions

/-- Groups with the same name and kind and with enumerants that are alike. -/
structure EnumGroup.Alike (left right : EnumGroup) : Prop where
  name : left.name = right.name
  kind : left.kind = right.kind
  enumerants : List.Forall₂ Enumerant.Alike left.enumerants right.enumerants

/-- Contributions of the same extension. -/
structure Contribution.Alike (left right : Contribution) : Prop where
  extension : left.extension = right.extension
  enumerant : Enumerant.Alike left.enumerant right.enumerant

/-- Aggregates with the same representative and with entries that are alike. -/
structure Aggregate.Alike (left right : Aggregate) : Prop where
  representative : left.representative = right.representative
  entries : List.Forall₂ Contribution.Alike left.entries right.entries

/-- Catalogs with the same tags in which look-ups find groups and aggregates
that are alike. -/
structure Catalog.Alike (left right : Catalog) : Prop where
  tags : left.tags = right.tags
  groups : ∀ name, Option.Rel EnumGroup.Alike (left.groups.get? name)
    (right.groups.get? name)
  aggregates : ∀ target, Option.Rel Aggregate.Alike
    (left.aggregates.get? target) (right.aggregates.get? target)

/-! ## Catalogs -/

theorem EnumGroup.alike_of_ofBlock {left right : EnumBlock} {a b : EnumGroup}
    (halike : EnumBlock.Alike left right)
    (hleft : EnumGroup.ofBlock left = .ok a)
    (hright : EnumGroup.ofBlock right = .ok b) : EnumGroup.Alike a b := by
  obtain ⟨hleftName, -, hleftKind, rfl⟩ := EnumGroup.ofBlock_eq_ok hleft
  obtain ⟨hrightName, -, hrightKind, rfl⟩ := EnumGroup.ofBlock_eq_ok hright
  have hname := halike.name
  rw [hleftName, hrightName] at hname
  rw [halike.marker, hrightKind] at hleftKind
  exact ⟨Option.some.inj hname, (Except.ok.inj hleftKind).symm,
    halike.enumerants⟩

theorem Aggregate.forall₂_contributionsTo (target : String)
    {left right : List (String × Extension)}
    (h : List.Forall₂ (fun a b => a.1 = b.1 ∧ Extension.Alike a.2 b.2) left
      right) :
    List.Forall₂ Contribution.Alike (contributionsTo target left)
      (contributionsTo target right) := by
  refine List.rel_flatMap h ?_
  rintro ⟨name, extension⟩ ⟨_, other⟩ ⟨rfl, halike⟩
  dsimp only
  rw [List.forall₂_map_left_iff, List.forall₂_map_right_iff]
  have htargets : List.Forall₂ Enumerant.Alike
      (extension.required.filter fun enumerant =>
        enumerant.payload.target? = some target)
      (other.required.filter fun enumerant =>
        enumerant.payload.target? = some target) := by
    refine forall₂_filter ?_ halike.required
    intro a b hab
    rw [hab.target]
  exact htargets.imp fun a b hab => ⟨rfl, hab⟩

theorem Aggregate.rel_ofContributions? {left right : List Contribution}
    (h : List.Forall₂ Contribution.Alike left right) :
    Option.Rel Aggregate.Alike (ofContributions? left)
      (ofContributions? right) := by
  cases h with
  | nil => exact Option.Rel.none
  | cons hfirst hrest =>
      exact Option.Rel.some
        ⟨hfirst.extension, List.Forall₂.cons hfirst hrest⟩

section Build

variable {left right : Registry} {a b : Catalog}

theorem Registry.Alike.forall₂_extensionIndex (h : Registry.Alike left right) :
    List.Forall₂ (fun a b => a.1 = b.1 ∧ Extension.Alike a.2 b.2)
      left.extensionIndex.entries right.extensionIndex.entries := by
  apply Index.forall₂_entries
  intro name
  rw [Registry.get?_extensionIndex, Registry.get?_extensionIndex]
  refine rel_lastNamed _ _ ?_ h.extensions name
  intro extension other halike
  rw [halike.name]

theorem Registry.Alike.catalog_alike (h : Registry.Alike left right)
    (ha : Catalog.build left = .ok a) (hb : Catalog.build right = .ok b) :
    Catalog.Alike a b := by
  obtain ⟨hga, -, hta, -, -, haga⟩ := Catalog.build_eq_ok_iff.mp ha
  obtain ⟨hgb, -, htb, -, -, hagb⟩ := Catalog.build_eq_ok_iff.mp hb
  constructor
  · rw [hta, htb, Registry.sortedTags, Registry.sortedTags, h.tags]
  · intro name
    have hblocks := rel_lastNamed EnumBlock.name EnumBlock.name
      (fun _ _ halike => halike.name) h.groups name
    refine rel_of_readings ?_ hblocks (Registry.rel_get?_groupIndex hga name)
      (Registry.rel_get?_groupIndex hgb name)
    intro _ _ _ _ halike hleft hright
    exact EnumGroup.alike_of_ofBlock halike hleft hright
  · intro target
    rw [haga, hagb, Aggregate.get?_collect, Aggregate.get?_collect]
    exact Aggregate.rel_ofContributions?
      (Aggregate.forall₂_contributionsTo target h.forall₂_extensionIndex)

end Build

/-! ## Summaries -/

namespace Catalog.Alike

variable {left right : Catalog}

theorem variantOf_eq (h : Catalog.Alike left right) (owner : String)
    (extension : Option String) {a b : Enumerant} (hab : Enumerant.Alike a b) :
    left.variantOf owner extension a = right.variantOf owner extension b := by
  rw [Catalog.variantOf, Catalog.variantOf, Catalog.variantName,
    Catalog.variantName, h.tags, hab.name, hab.isAlias]

theorem entries_alike (h : Catalog.Alike left right) (target : String) :
    List.Forall₂ Contribution.Alike
      (((left.aggregates.get? target).map Aggregate.entries).getD [])
      (((right.aggregates.get? target).map Aggregate.entries).getD []) := by
  have haggregate := h.aggregates target
  generalize left.aggregates.get? target = found,
    right.aggregates.get? target = other at haggregate ⊢
  cases haggregate with
  | none => exact List.Forall₂.nil
  | some halike => exact halike.entries

theorem representative_eq (h : Catalog.Alike left right) (target : String) :
    (left.aggregates.get? target).map Aggregate.representative =
      (right.aggregates.get? target).map Aggregate.representative := by
  have haggregate := h.aggregates target
  generalize left.aggregates.get? target = found,
    right.aggregates.get? target = other at haggregate ⊢
  cases haggregate with
  | none => rfl
  | some halike => simp [halike.representative]

theorem summarize_eq (h : Catalog.Alike left right) {a b : EnumGroup}
    (hab : EnumGroup.Alike a b) : left.summarize a = right.summarize b := by
  have hown : a.enumerants.map (left.variantOf b.name none) =
      b.enumerants.map (right.variantOf b.name none) := by
    refine map_eq_map_of_forall₂ ?_ hab.enumerants
    intro _ _ halike
    exact h.variantOf_eq b.name none halike
  have hcontributed :
      (((left.aggregates.get? b.name).map Aggregate.entries).getD []).map
          (fun entry =>
            left.variantOf b.name (some entry.extension) entry.enumerant) =
        (((right.aggregates.get? b.name).map Aggregate.entries).getD []).map
          fun entry =>
            right.variantOf b.name (some entry.extension) entry.enumerant := by
    refine map_eq_map_of_forall₂ ?_ (h.entries_alike b.name)
    intro _ _ halike
    rw [halike.extension, h.variantOf_eq b.name _ halike.enumerant]
  rw [Catalog.summarize, Catalog.summarize, hab.name, hab.kind, hown,
    hcontributed, h.representative_eq]

theorem summary?_eq (h : Catalog.Alike left right) (name : String) :
    left.summary? name = right.summary? name := by
  rw [Catalog.summary?, Catalog.summary?]
  have hgroup := h.groups name
  generalize left.groups.get? name = found,
    right.groups.get? name = other at hgroup ⊢
  cases hgroup with
  | none => rfl
  | some hab => rw [Option.map_some, Option.map_some, h.summarize_eq hab]

theorem summaries_eq (h : Catalog.Alike left right) :
    left.summaries = right.summaries := by
  rw [Catalog.summaries, Catalog.summaries, Index.values, Index.values,
    List.map_map, List.map_map]
  refine map_eq_map_of_forall₂ ?_ (Index.forall₂_entries h.groups)
  rintro entry other ⟨-, hab⟩
  exact h.summarize_eq hab

end Catalog.Alike

/-! ## Findings -/

/-- The groups of a catalog with their kinds and the names of their
enumerants. -/
def Catalog.groupOutline (catalog : Catalog) :
    List (String × GroupKind × List String) :=
  catalog.groups.entries.map fun (name, group) =>
    (name, group.kind, group.enumerants.map Enumerant.name)

/-- The aggregates of a catalog with their targets, their representatives and
the names of the extensions and enumerants in their entries. -/
def Catalog.aggregateOutline (catalog : Catalog) :
    List (String × String × List (String × String)) :=
  catalog.aggregates.entries.map fun (target, aggregate) =>
    (target, aggregate.representative, aggregate.entries.map fun entry =>
      (entry.extension, entry.enumerant.name))

/-- Catalogs in which the same is found about tags, groups and aggregates, and
from which the same is reported about groups. -/
structure Catalog.SameFindings (left right : Catalog) : Prop where
  tags : left.tags = right.tags
  groups : left.groupOutline = right.groupOutline
  aggregates : left.aggregateOutline = right.aggregateOutline
  summary? : ∀ name, left.summary? name = right.summary? name
  summaries : left.summaries = right.summaries
  listing : ∀ filter source, Discovery.listing left filter source =
    Discovery.listing right filter source
  detail : ∀ name, (left.summary? name).map Detail.render =
    (right.summary? name).map Detail.render

namespace Catalog.Alike

variable {left right : Catalog}

theorem groupOutline_eq (h : Catalog.Alike left right) :
    left.groupOutline = right.groupOutline := by
  refine map_eq_map_of_forall₂ ?_ (Index.forall₂_entries h.groups)
  rintro ⟨name, group⟩ ⟨_, other⟩ ⟨rfl, (hab : EnumGroup.Alike group other)⟩
  have hnames : group.enumerants.map Enumerant.name =
      other.enumerants.map Enumerant.name :=
    map_eq_map_of_forall₂ (fun _ _ halike => halike.name) hab.enumerants
  simp only [hab.kind, hnames]

theorem aggregateOutline_eq (h : Catalog.Alike left right) :
    left.aggregateOutline = right.aggregateOutline := by
  refine map_eq_map_of_forall₂ ?_ (Index.forall₂_entries h.aggregates)
  rintro ⟨target, aggregate⟩ ⟨_, other⟩
    ⟨rfl, (hab : Aggregate.Alike aggregate other)⟩
  have hentries : aggregate.entries.map
        (fun entry => (entry.extension, entry.enumerant.name)) =
      other.entries.map
        fun entry => (entry.extension, entry.enumerant.name) := by
    refine map_eq_map_of_forall₂ ?_ hab.entries
    intro _ _ halike
    rw [halike.extension, halike.enumerant.name]
  simp only [hab.representative, hentries]

theorem sameFindings (h : Catalog.Alike left right) :
    Catalog.SameFindings left right where
  tags := h.tags
  groups := h.groupOutline_eq
  aggregates := h.aggregateOutline_eq
  summary? := h.summary?_eq
  summaries := h.summaries_eq
  listing filter source := by
    simp only [Discovery.listing, h.summaries_eq]
  detail name := by rw [h.summary?_eq name]

end Catalog.Alike

end VulkanRegistry
