import VulkanRegistry.Command.Program
import VulkanRegistry.Proofs.Catalog.LastDeclarations
import VulkanRegistry.Proofs.Command.ExitStatus
import VulkanRegistry.Proofs.Command.SwitchNames

/-!
# Coherent configurations

The command of a configuration and the group that it works on are decided
apart: nothing but the order in which the arguments take effect keeps a listing
from coming with a group.  An obeyed command line asks for a listing exactly
when one of its arguments names that switch, whatever else it repeats,
shortens or gives an empty value.  What follows for the run is that a detail
always has its group and that a listing finds every group it looks up.
-/

namespace VulkanRegistry

/-- A configuration whose command agrees with its other parts and with the
command line that it comes from. -/
structure Config.Coherent {Content : Type} (storage : Storage Content)
    (line : List String) (config : Config) : Prop where
  offered : config.command ≠ .check
  detail : config.command = .info ↔ config.group ≠ .absent
  listing : config.command = .listEnums ↔
    ∃ argument ∈ line, Switch.listEnums.NamedBy argument
  filtered : ∀ text, config.filter = .value text → text ≠ "" →
    config.command = .listEnums
  found : storage.exists? config.registry = .ok true

/-- No run of a configuration, on whatever storage and with whatever reader of
documents, misses a group that it must have: a detail has its group, and a
listing finds each group it looks up. -/
structure Config.MissesNothing (config : Config) : Prop where
  given : ∀ {Content : Type} (reader : Markup.Reader Content)
    (storage : Storage Content),
    (Discovery.run reader storage config).ending ≠ .failed .absentGroup
  indexed : ∀ {Content : Type} (reader : Markup.Reader Content)
    (storage : Storage Content) (catalog : Catalog),
    Catalog.load reader storage config.registry = .ok catalog →
      catalog.lookedUpSummaries? = some catalog.summaries

/-! ## Arguments that take effect -/

namespace Arguments

variable {arguments next : Arguments} {extra : List String}
  {classes : List ArgumentClass}

theorem listEnums_of_give {switch : Switch} {given : Given String}
    (h : arguments.give switch given = .ok next) :
    next.listEnums = true ↔
      switch = .listEnums ∨ arguments.listEnums = true := by
  cases switch with
  | help => cases h
  | registry | filter =>
      cases h
      simp
  | listEnums | info =>
      rw [give] at h
      split at h
      · cases h
      · cases h
        simp

theorem turnOn_eq_ok {switch : Switch} {attachment : Attachment}
    (h : arguments.turnOn switch attachment = .ok next) :
    (∀ value, attachment ≠ .assigned value) ∧
      arguments.give switch .bare = .ok next := by
  cases attachment with
  | none => exact ⟨by simp, h⟩
  | assigned value => cases h
  | joined letters =>
      rw [turnOn] at h
      split at h
      · cases h
      · exact ⟨by simp, h⟩

/-- Classes without a separator and without a value for the listing, after which
there is a listing if there was one before or its switch is among them. -/
structure SettlesListing (arguments : Arguments)
    (classes : List ArgumentClass) (next : Arguments) : Prop where
  together : .separator ∉ classes
  unassigned : ∀ value, .recognized .listEnums (.assigned value) ∉ classes
  listing : next.listEnums = true ↔ arguments.listEnums = true ∨
    ∃ attachment, .recognized .listEnums attachment ∈ classes

theorem SettlesListing.plain (h : arguments.SettlesListing classes next)
    (text : String) :
    arguments.SettlesListing (.plain text :: classes) next where
  together := by simp [h.together]
  unassigned := by simp [h.unassigned]
  listing := by simp [h.listing]

theorem SettlesListing.recognized {middle : Arguments} {switch : Switch}
    {attachment : Attachment} {given : Given String}
    (h : middle.SettlesListing classes next)
    (hgive : arguments.give switch given = .ok middle)
    (hvalue : switch = .listEnums → ∀ value, attachment ≠ .assigned value) :
    arguments.SettlesListing (.recognized switch attachment :: classes)
      next where
  together := by simp [h.together]
  unassigned := by
    intro value hmem
    rcases List.mem_cons.mp hmem with heq | hrest
    · cases heq
      exact hvalue rfl value rfl
    · exact h.unassigned value hrest
  listing := by
    rw [h.listing, listEnums_of_give hgive]
    constructor
    · rintro ((rfl | hlisting) | ⟨other, hmem⟩)
      · exact Or.inr ⟨attachment, List.mem_cons_self⟩
      · exact Or.inl hlisting
      · exact Or.inr ⟨other, List.mem_cons_of_mem _ hmem⟩
    · rintro (hlisting | ⟨other, hmem⟩)
      · exact Or.inl (Or.inr hlisting)
      · rcases List.mem_cons.mp hmem with heq | hrest
        · cases heq
          exact Or.inl (Or.inl rfl)
        · exact Or.inr ⟨other, hrest⟩

/-- Obeyed arguments leave nothing over and settle whether there is a
listing. -/
theorem settlesListing_of_obey
    (h : arguments.obey extra classes = .ok next) :
    extra = [] ∧ arguments.SettlesListing classes next := by
  have hvalued : ∀ {switch : Switch} {attachment : Attachment},
      switch.takesValue = true → switch = .listEnums →
        ∀ value, attachment ≠ .assigned value := by
    rintro switch attachment htakes rfl
    cases htakes
  fun_induction arguments.obey extra classes with
  | case1 _ _ hextra =>
      cases h
      exact ⟨List.isEmpty_iff.mp hextra, by simp, by simp, by simp⟩
  | case2 => cases h
  | case3 _ _ _ _ ih | case4 _ _ _ _ ih | case5 _ _ _ ih =>
      -- What no switch takes as its value would be left over at the end.
      have hextra := (ih h).1
      simp at hextra
  | case6 _ _ _ htakes text _ ih | case7 _ _ _ htakes text _ ih =>
      obtain ⟨middle, hgive, hrest⟩ := bind_eq_ok_iff.mp h
      obtain ⟨hextra, hsettles⟩ := ih middle hrest
      exact ⟨hextra, hsettles.recognized hgive (hvalued htakes)⟩
  | case8 _ _ _ htakes text _ ih =>
      obtain ⟨middle, hgive, hrest⟩ := bind_eq_ok_iff.mp h
      obtain ⟨hextra, hsettles⟩ := ih middle hrest
      exact ⟨hextra, (hsettles.plain text).recognized hgive (hvalued htakes)⟩
  | case9 => cases h
  | case10 _ _ _ _ _ _ ih =>
      obtain ⟨middle, hturn, hrest⟩ := bind_eq_ok_iff.mp h
      obtain ⟨hextra, hsettles⟩ := ih middle hrest
      obtain ⟨hunassigned, hgive⟩ := turnOn_eq_ok hturn
      exact ⟨hextra, hsettles.recognized hgive fun _ => hunassigned⟩

/-- An obeyed line asks for a listing when one of its arguments names it. -/
theorem listEnums_iff_of_parse {default : Path} {line : List String}
    (h : parse default line = .ok arguments) :
    arguments.listEnums = true ↔
      ∃ argument ∈ line, Switch.listEnums.NamedBy argument := by
  rw [parse] at h
  split at h
  · cases h
  · rename_i classes hclasses
    have hsettles := (settlesListing_of_obey h).2
    rw [hsettles.listing]
    constructor
    · rintro (hfalse | ⟨attachment, hmem⟩)
      · cases hfalse
      · obtain ⟨argument, hargument, hfound⟩ :=
          (ArgumentClass.mem_iff_of_ofList hclasses hsettles.together).mp hmem
        cases ArgumentClass.recognizes_of_ofString hfound with
        | named hnamed => exact ⟨argument, hargument, hnamed⟩
        | assigned value => exact absurd hmem (hsettles.unassigned value)
        | joined letters hhelp => cases hhelp
    · rintro ⟨argument, hargument, hnamed⟩
      have hfound := ArgumentClass.ofString_eq_recognized_none_iff.mpr hnamed
      exact Or.inr ⟨.none,
        (ArgumentClass.mem_iff_of_ofList hclasses hsettles.together).mpr
          ⟨argument, hargument, hfound⟩⟩

theorem command_eq_info_iff (hconsistent : arguments.Consistent) :
    arguments.command = .info ↔ arguments.info ≠ .absent := by
  rw [command]
  cases hlist : arguments.listEnums with
  | true => simp [hconsistent.exclusive hlist]
  | false => cases arguments.info <;> simp [Given.isGiven]

theorem command_eq_listEnums_iff :
    arguments.command = .listEnums ↔ arguments.listEnums = true := by
  rw [command]
  split
  · simp [*]
  · split <;> simp [*]

theorem command_ne_check : arguments.command ≠ .check := by
  rw [command]
  split
  · simp
  · split <;> simp

/-- A registry that is not refused existed when it was tested. -/
theorem exists_of_registryPath {Content : Type} {storage : Storage Content}
    {path : Path} (h : arguments.registryPath storage = .ok path) :
    storage.exists? path = .ok true := by
  rw [registryPath] at h
  split at h
  · cases h
  · cases h
  · rw [existingPath] at h
    split at h
    · cases h
    · cases h
      assumption
    · cases h

end Arguments

/-! ## Carrying out a configuration -/

theorem Discovery.ending_ne_absentGroup {Content : Type} {config : Config}
    (reader : Markup.Reader Content) (storage : Storage Content)
    (h : config.command = .info → config.group ≠ .absent) :
    (run reader storage config).ending ≠ .failed .absentGroup := by
  cases hload : Catalog.load reader storage config.registry with
  | error fault =>
      rw [run_of_fault hload]
      rintro heq
      cases heq
      exact Catalog.load_ne_absentGroup reader storage config.registry hload
  | ok catalog =>
      simp only [run, hload, report]
      cases hcommand : config.command with
      | summary | listEnums | check => simp
      | info =>
          cases hgroup : config.group with
          | absent => exact absurd hgroup (h hcommand)
          | bare => simp
          | value group =>
              dsimp only
              cases catalog.summary? group with
              | none => simp
              | some summary => simp

namespace Program

variable {Content : Type} {home : Path} {storage : Storage Content}
  {line : List String} {config : Config}

theorem exists_of_configure
    (h : configure home storage line = .ok config) :
    ∃ arguments path,
      Arguments.parse (defaultRegistry home) line = .ok arguments ∧
        arguments.FilterPlaced ∧
          arguments.registryPath storage = .ok path ∧
            config = arguments.configAt path := by
  rw [configure] at h
  split at h
  · cases h
  · rename_i arguments hparse
    split at h
    · cases h
    · rename_i found hfound
      cases h
      rw [Config.ofArguments] at hfound
      split at hfound
      · cases hfound
      · rename_i hplaced
        obtain ⟨path, hpath, rfl⟩ := map_eq_ok_iff.mp hfound
        refine ⟨arguments, path, hparse, ?_, hpath, rfl⟩
        intro hfilter
        simpa [hfilter] using hplaced

/-- A configuration is coherent with the line that it comes from, and none of
its runs misses a group that it must have. -/
theorem coherent_of_configure {Content : Type} (home : Path)
    (storage : Storage Content) (line : List String) (config : Config)
    (h : configure home storage line = .ok config) :
    config.Coherent storage line ∧ config.MissesNothing := by
  obtain ⟨arguments, path, hparse, hplaced, hpath, rfl⟩ :=
    exists_of_configure h
  have hconsistent := Arguments.consistent_of_parse hparse
  have hdetail := Arguments.command_eq_info_iff hconsistent
  constructor
  · refine ⟨Arguments.command_ne_check, hdetail, ?_, ?_, ?_⟩
    · exact Arguments.command_eq_listEnums_iff.trans
        (Arguments.listEnums_iff_of_parse hparse)
    · intro text hfilter htext
      refine Arguments.command_eq_listEnums_iff.mpr (hplaced ?_)
      have hvalue : arguments.filter = .value text := hfilter
      simp [Arguments.hasFilter, hvalue, htext]
    · exact Arguments.exists_of_registryPath hpath
  · refine ⟨fun reader other => ?_, fun _ _ catalog _ => ?_⟩
    · exact Discovery.ending_ne_absentGroup reader other hdetail.mp
    · exact lookedUpSummaries?_eq catalog

/-- A tree whose one file declares a group. -/
def oneGroup : FileTree where
  directories := []
  files := [(["vk.xml"], "<registry><enums name=\"VkShape\"/></registry>")]

/-- A line that shortens, repeats and assigns switches, and one that asks for
the group without a name. -/
theorem coherent_of_configure_shortened :
    ∃ listing detail,
      configure ⟨"/", []⟩ oneGroup.storage
          ["--li", "--filter=", "--vk", "vk.xml", "--filter", "shape",
            "--list-enums"] = .ok listing ∧
        listing.command = .listEnums ∧ listing.filter = .value "shape" ∧
        listing.Coherent oneGroup.storage
          ["--li", "--filter=", "--vk", "vk.xml", "--filter", "shape",
            "--list-enums"] ∧
        listing.MissesNothing ∧
        configure ⟨"/", []⟩ oneGroup.storage
          ["--info", "", "--vk-xml=./vk.xml"] = .ok detail ∧
        detail.command = .info ∧ detail.group = .value "" ∧
        detail.Coherent oneGroup.storage ["--info", "", "--vk-xml=./vk.xml"] ∧
        detail.MissesNothing := by
  have hlisting : configure ⟨"/", []⟩ oneGroup.storage
      ["--li", "--filter=", "--vk", "vk.xml", "--filter", "shape",
        "--list-enums"] =
      .ok ⟨.listEnums, .value "shape", .absent, ⟨"", ["vk.xml"]⟩⟩ := by
    decide +kernel
  have hdetail : configure ⟨"/", []⟩ oneGroup.storage
      ["--info", "", "--vk-xml=./vk.xml"] =
      .ok ⟨.info, .absent, .value "", ⟨"", ["vk.xml"]⟩⟩ := by
    decide +kernel
  obtain ⟨hlistingCoherent, hlistingRuns⟩ :=
    coherent_of_configure ⟨"/", []⟩ oneGroup.storage _ _ hlisting
  obtain ⟨hdetailCoherent, hdetailRuns⟩ :=
    coherent_of_configure ⟨"/", []⟩ oneGroup.storage _ _ hdetail
  exact ⟨_, _, hlisting, rfl, rfl, hlistingCoherent, hlistingRuns,
    hdetail, rfl, rfl, hdetailCoherent, hdetailRuns⟩

end Program

end VulkanRegistry
