import Mathlib.Algebra.BigOperators.Group.List.Basic
import Mathlib.Algebra.GroupWithZero.Nat
import VulkanRegistry.Proofs.Catalog.Declarations
import VulkanRegistry.Proofs.Catalog.Walk

/-!
# Aggregation divides the walk

The walk over the extensions meets enumerants with targets.  Aggregation gives
each of them to the aggregate of its target and keeps their order, so the
aggregates are the walk divided by target: nothing is lost, and nothing is
found twice or under another target.  When the extensions are walked in
ascending order, the representative of an aggregate is the least of the
extensions that contribute to it.
-/

namespace VulkanRegistry

/-- The group that the enumerant of a contribution extends. -/
def Contribution.target? (contribution : Contribution) : Option String :=
  contribution.enumerant.payload.target?

namespace Aggregate

/-- The required enumerants that have a target, each with the name that its
extension is found under, in the order of the walk. -/
def contributions (extensions : List (String × Extension)) :
    List Contribution :=
  extensions.flatMap fun (name, extension) =>
    (extension.required.filter fun enumerant =>
      enumerant.payload.target?.isSome).map (Contribution.mk name)

/-- An index of aggregates is a list of contributions divided by target.  An
aggregate has the contributions of its target in their order, the first of
which gives it its representative. -/
structure Divides (found : Index Aggregate) (met : List Contribution) :
    Prop where
  ascending : found.keys.Pairwise (· < ·)
  targets : ∀ target, target ∈ found.keys ↔
    ∃ contribution ∈ met, contribution.target? = some target
  entries : ∀ target aggregate, found.get? target = some aggregate →
    aggregate.entries = met.filter fun contribution =>
      contribution.target? = some target
  representative : ∀ target aggregate, found.get? target = some aggregate →
    ∃ first rest, aggregate.entries = first :: rest ∧
      aggregate.representative = first.extension
  exhausts : (found.values.flatMap Aggregate.entries).Perm met
  count : (found.values.map fun aggregate => aggregate.entries.length).sum =
    met.length

/-! ## Lists divided by a key -/

/-- The items of one key are among those that do not have another key. -/
theorem filter_filter_of_ne {α : Type} (keyOf : α → Option String)
    {key other : String} (h : other ≠ key) (items : List α) :
    ((items.filter fun item => ¬ keyOf item = some key).filter
        fun item => keyOf item = some other) =
      items.filter fun item => keyOf item = some other := by
  rw [List.filter_filter]
  apply List.filter_congr
  intro item _
  by_cases hitem : keyOf item = some other
  · simp [hitem, h]
  · simp [hitem]

/-- A list is a rearrangement of its parts, when each of its items belongs to
the part of one of the keys. -/
theorem perm_flatMap_filter {α : Type} (keyOf : α → Option String)
    {keys : List String} (hdistinct : keys.Nodup) {items : List α}
    (hcovered : ∀ item ∈ items, ∃ key ∈ keys, keyOf item = some key) :
    (keys.flatMap fun key => items.filter fun item =>
      keyOf item = some key).Perm items := by
  induction keys generalizing items with
  | nil =>
      have hempty : items = [] := by
        apply List.eq_nil_iff_forall_not_mem.mpr
        intro item hitem
        obtain ⟨key, hkey, -⟩ := hcovered item hitem
        cases hkey
      rw [hempty]
      exact List.Perm.nil
  | cons key rest ih =>
      obtain ⟨hfresh, hrest⟩ := List.nodup_cons.mp hdistinct
      have hothers : ∀ item ∈ items.filter fun item =>
          ¬ keyOf item = some key, ∃ other ∈ rest, keyOf item = some other := by
        intro item hitem
        obtain ⟨hmem, hnot⟩ := List.mem_filter.mp hitem
        obtain ⟨other, hother, hkey⟩ := hcovered item hmem
        rcases List.mem_cons.mp hother with rfl | hlater
        · exact absurd hkey (of_decide_eq_true hnot)
        · exact ⟨other, hlater, hkey⟩
      have hsame : ∀ other ∈ rest,
          ((items.filter fun item => ¬ keyOf item = some key).filter
              fun item => keyOf item = some other) =
            items.filter fun item => keyOf item = some other := by
        intro other hother
        have hne : other ≠ key := fun heq => hfresh (heq ▸ hother)
        exact filter_filter_of_ne keyOf hne items
      have hparts := ih hrest hothers
      rw [List.flatMap_congr hsame] at hparts
      rw [List.flatMap_cons]
      refine (hparts.append_left _).trans ?_
      simpa using List.filter_append_perm
        (fun item => decide (keyOf item = some key)) items

/-! ## The parts of the walk -/

theorem filter_contributions (extensions : List (String × Extension))
    (target : String) :
    ((contributions extensions).filter fun contribution =>
        contribution.target? = some target) =
      contributionsTo target extensions := by
  rw [contributions, contributionsTo, List.filter_flatMap]
  congr 1
  funext entry
  rw [List.filter_map, List.filter_filter]
  congr 1
  apply List.filter_congr
  intro enumerant _
  by_cases htarget : enumerant.payload.target? = some target
  · simp [Contribution.target?, htarget]
  · simp [Contribution.target?, htarget]

theorem isSome_target?_of_mem_contributions
    {extensions : List (String × Extension)} {contribution : Contribution}
    (h : contribution ∈ contributions extensions) :
    ∃ target, contribution.target? = some target := by
  obtain ⟨⟨name, extension⟩, -, hmet⟩ := List.mem_flatMap.mp h
  obtain ⟨enumerant, hrequired, rfl⟩ := List.mem_map.mp hmet
  exact Option.isSome_iff_exists.mp (List.mem_filter.mp hrequired).2

theorem ofContributions?_eq_some_iff {entries : List Contribution}
    {aggregate : Aggregate} :
    ofContributions? entries = some aggregate ↔
      aggregate.entries = entries ∧ ∃ first rest, entries = first :: rest ∧
        aggregate.representative = first.extension := by
  obtain ⟨representative, found⟩ := aggregate
  cases entries with
  | nil => simp [ofContributions?]
  | cons first rest =>
      simp [ofContributions?, and_comm, eq_comm]

theorem get?_collect_eq_some_iff {extensions : List (String × Extension)}
    {target : String} {aggregate : Aggregate} :
    (collect extensions).get? target = some aggregate ↔
      aggregate.entries = ((contributions extensions).filter
          fun contribution => contribution.target? = some target) ∧
        ∃ first rest, aggregate.entries = first :: rest ∧
          aggregate.representative = first.extension := by
  rw [get?_collect, filter_contributions, ofContributions?_eq_some_iff]
  constructor
  · rintro ⟨hentries, hfirst⟩
    exact ⟨hentries, hentries ▸ hfirst⟩
  · rintro ⟨hentries, hfirst⟩
    exact ⟨hentries, hentries ▸ hfirst⟩

theorem mem_keys_collect {extensions : List (String × Extension)}
    {target : String} :
    target ∈ (collect extensions).keys ↔
      ∃ contribution ∈ contributions extensions,
        contribution.target? = some target := by
  rw [Index.mem_keys_iff]
  constructor
  · rintro ⟨aggregate, haggregate⟩
    obtain ⟨hentries, first, rest, hfirst, -⟩ :=
      get?_collect_eq_some_iff.mp haggregate
    have hmem : first ∈ aggregate.entries := hfirst ▸ List.mem_cons_self
    rw [hentries] at hmem
    obtain ⟨hmet, htarget⟩ := List.mem_filter.mp hmem
    exact ⟨first, hmet, of_decide_eq_true htarget⟩
  · rintro ⟨contribution, hmet, htarget⟩
    have hmem : contribution ∈ (contributions extensions).filter
        fun contribution => contribution.target? = some target :=
      List.mem_filter.mpr ⟨hmet, decide_eq_true htarget⟩
    obtain ⟨first, rest, hfirst⟩ :=
      List.exists_cons_of_ne_nil (List.ne_nil_of_mem hmem)
    exact ⟨⟨first.extension, first :: rest⟩,
      get?_collect_eq_some_iff.mpr ⟨hfirst.symm, first, rest, rfl, rfl⟩⟩

theorem flatMap_entries_collect (extensions : List (String × Extension)) :
    (collect extensions).values.flatMap Aggregate.entries =
      (collect extensions).keys.flatMap fun target =>
        (contributions extensions).filter fun contribution =>
          contribution.target? = some target := by
  rw [Index.values, Index.keys, List.flatMap_map, List.flatMap_map]
  apply List.flatMap_congr
  rintro ⟨target, aggregate⟩ hentry
  exact (get?_collect_eq_some_iff.mp (Index.mem_entries_iff.mp hentry)).1

theorem perm_entries_collect (extensions : List (String × Extension)) :
    ((collect extensions).values.flatMap Aggregate.entries).Perm
      (contributions extensions) := by
  have hdistinct : (collect extensions).keys.Nodup :=
    (collect extensions).pairwise_keys.imp fun hlt => String.ne_of_lt hlt
  rw [flatMap_entries_collect]
  apply perm_flatMap_filter Contribution.target? hdistinct
  intro contribution hmet
  obtain ⟨target, htarget⟩ := isSome_target?_of_mem_contributions hmet
  exact ⟨target, mem_keys_collect.mpr ⟨contribution, hmet, htarget⟩, htarget⟩

theorem divides_collect (extensions : List (String × Extension)) :
    Divides (collect extensions) (contributions extensions) where
  ascending := (collect extensions).pairwise_keys
  targets _ := mem_keys_collect
  entries _ _ h := (get?_collect_eq_some_iff.mp h).1
  representative _ _ h := (get?_collect_eq_some_iff.mp h).2
  exhausts := perm_entries_collect extensions
  count := by
    rw [← (perm_entries_collect extensions).length_eq, List.length_flatMap]

/-! ## Extensions in ascending order -/

theorem pairwise_contributions {extensions : List (String × Extension)}
    (h : extensions.Pairwise fun a b => a.1 < b.1) :
    (contributions extensions).Pairwise fun a b =>
      a.extension ≤ b.extension := by
  have hextension : ∀ entry : String × Extension, ∀ contribution ∈
      (entry.2.required.filter fun enumerant =>
        enumerant.payload.target?.isSome).map (Contribution.mk entry.1),
      contribution.extension = entry.1 := by
    intro entry contribution hmem
    obtain ⟨enumerant, -, rfl⟩ := List.mem_map.mp hmem
    rfl
  rw [contributions, List.pairwise_flatMap]
  constructor
  · intro entry _
    apply List.pairwise_of_forall_mem_list
    intro a ha b hb
    have hsame : a.extension = b.extension :=
      (hextension entry a ha).trans (hextension entry b hb).symm
    exact hsame ▸ String.le_refl a.extension
  · refine h.imp fun {first second} hlt a ha b hb => ?_
    rw [hextension first a ha, hextension second b hb]
    exact String.not_lt.mp (String.lt_asymm hlt)

/-- An aggregate lists the extensions that contribute to it in ascending order,
and its representative is the least of them. -/
structure Ascends (aggregate : Aggregate) : Prop where
  extensions : aggregate.entries.Pairwise fun a b => a.extension ≤ b.extension
  occurs : ∃ entry ∈ aggregate.entries,
    entry.extension = aggregate.representative
  least : ∀ entry ∈ aggregate.entries,
    aggregate.representative ≤ entry.extension

theorem Divides.ascends {found : Index Aggregate} {met : List Contribution}
    (h : Divides found met)
    (hmet : met.Pairwise fun a b => a.extension ≤ b.extension)
    {target : String} {aggregate : Aggregate}
    (haggregate : found.get? target = some aggregate) :
    aggregate.Ascends := by
  have hordered : aggregate.entries.Pairwise fun a b =>
      a.extension ≤ b.extension := by
    rw [h.entries target aggregate haggregate]
    exact hmet.filter _
  obtain ⟨first, rest, hentries, hfirst⟩ :=
    h.representative target aggregate haggregate
  refine ⟨hordered, ⟨first, ?_, hfirst.symm⟩, ?_⟩
  · rw [hentries]
    exact List.mem_cons_self
  · rw [hentries] at hordered ⊢
    rw [hfirst]
    intro entry hentry
    rcases List.mem_cons.mp hentry with rfl | hrest
    · exact String.le_refl _
    · exact List.rel_of_pairwise_cons hordered hrest

/-- The aggregates divide the walk over the extensions by target, whatever the
order of the extensions is.  The extensions of a catalog are walked in ascending
order, so its aggregates list their extensions in that order. -/
theorem collect_divides_walk :
    (∀ extensions, Divides (collect extensions) (contributions extensions)) ∧
    ∀ registry catalog, Catalog.build registry = .ok catalog →
      Divides catalog.aggregates (contributions catalog.extensions.entries) ∧
      ∀ target aggregate, catalog.aggregates.get? target = some aggregate →
        aggregate.Ascends := by
  refine ⟨divides_collect, fun registry catalog hbuild => ?_⟩
  obtain ⟨-, -, -, hextensions, -, haggregates⟩ :=
    Catalog.build_eq_ok_iff.mp hbuild
  have hdivides : Divides catalog.aggregates
      (contributions catalog.extensions.entries) := by
    rw [haggregates, hextensions]
    exact divides_collect _
  refine ⟨hdivides, fun target aggregate haggregate => ?_⟩
  exact hdivides.ascends
    (pairwise_contributions catalog.extensions.ascending) haggregate

/-- Two extensions, the later name first, that contribute to two groups by
turns, with a removal and a mention that contribute nothing. -/
def interleaved : List (String × Extension) :=
  [("VK_B", ⟨"VK_B",
    [.require [.enumerant ⟨"VK_SHAPE_CUBE", .bit 0 (some "VkShape")⟩,
      .type "VkShape", .enumerant ⟨"VK_HUE_RED", .bit 0 (some "VkHue")⟩] "",
    .remove [.enumerant ⟨"VK_SHAPE_BALL", .bit 1 (some "VkShape")⟩],
    .require [.enumerant ⟨"VK_SHAPE_LINE", .mention⟩,
      .enumerant ⟨"VK_SHAPE_CONE", .bit 2 (some "VkShape")⟩] ""],
    some 2, ""⟩),
   ("VK_A", ⟨"VK_A",
    [.require [.enumerant ⟨"VK_HUE_BLUE", .bit 1 (some "VkHue")⟩,
      .enumerant ⟨"VK_SHAPE_DISC", .bit 3 (some "VkShape")⟩] ""],
    some 1, ""⟩)]

theorem collect_divides_walk_interleaved :
    Divides (collect interleaved) (contributions interleaved) ∧
    (collect interleaved).values.map (fun aggregate =>
        (aggregate.representative,
          aggregate.entries.map fun entry => entry.enumerant.name)) =
      [("VK_B", ["VK_HUE_RED", "VK_HUE_BLUE"]),
        ("VK_B", ["VK_SHAPE_CUBE", "VK_SHAPE_CONE", "VK_SHAPE_DISC"])] ∧
    ∃ catalog, Catalog.build ⟨[.extensions (interleaved.map Prod.snd)]⟩ =
        .ok catalog ∧
      ∃ aggregate, catalog.aggregates.get? "VkShape" = some aggregate ∧
        aggregate.Ascends ∧ aggregate.representative = "VK_A" := by
  obtain ⟨catalog, hbuild⟩ : ∃ catalog, Catalog.build
      ⟨[.extensions (interleaved.map Prod.snd)]⟩ = .ok catalog := ⟨_, rfl⟩
  have hascends := (collect_divides_walk.2 _ catalog hbuild).2 "VkShape"
  have hshape : ∃ aggregate, catalog.aggregates.get? "VkShape" =
      some aggregate ∧ aggregate.representative = "VK_A" := by
    cases hbuild
    exact ⟨_, rfl, rfl⟩
  obtain ⟨aggregate, haggregate, hfirst⟩ := hshape
  exact ⟨collect_divides_walk.1 _, by decide +kernel, catalog, hbuild,
    aggregate, haggregate, hascends aggregate haggregate, hfirst⟩

end Aggregate

end VulkanRegistry
