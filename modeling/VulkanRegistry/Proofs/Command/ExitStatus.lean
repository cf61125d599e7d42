import VulkanRegistry.Command.Program
import VulkanRegistry.Markup.Document
import VulkanRegistry.Proofs.Command.Arguments
import VulkanRegistry.Proofs.Command.Loading
import VulkanRegistry.Proofs.Registry.MalformedNumber
import VulkanRegistry.Storage.FileTree

/-!
# The exit status of a run

A run either finishes, or ends with a status of at most 2, or fails with a fault
that nothing reports.  The last happens in six cases and in no others: the
registry is given without a path, it cannot be tested whether the path exists,
the document declares an encoding that is unknown or one that documents cannot
be read in, a number of the document is no numeral, or a group is given without
a name.  So the exit status does not tell every failure.  This holds for every
reader of documents.
-/

namespace VulkanRegistry

open Markup (Element)

/-! ## Endings that a status tells -/

/-- The ending of a run is told by the status of the program. -/
def Ending.IsReported : Ending → Prop
  | .finished => True
  | .exited status => status ≤ 2
  | .failed _ => False

namespace Transcript

variable {report? : Fault → Option String} {transcript : Transcript}

theorem isReported_reporting (h : transcript.ending.IsReported) :
    (transcript.reporting report?).ending.IsReported := by
  rw [reporting]
  split
  case h_1 fault hending =>
    rw [hending] at h
    exact h.elim
  case h_2 => exact h

theorem isReported_reporting_of_failed {fault : Fault}
    (hending : transcript.ending = .failed fault) :
    (transcript.reporting report?).ending.IsReported ↔
      (report? fault).isSome = true := by
  rw [reporting, hending]
  dsimp only
  cases report? fault with
  | none => simp [hending, Ending.IsReported]
  | some report => simp [Ending.IsReported]

end Transcript

/-! ## Faults that nothing reports -/

/-- A filter that leaves something out belongs to a listing. -/
def Arguments.FilterPlaced (arguments : Arguments) : Prop :=
  arguments.hasFilter = true → arguments.listEnums = true

/-- The cases in which obeyed arguments lead to a fault that nothing reports. -/
inductive Escapes {Content : Type} (reader : Markup.Reader Content)
    (storage : Storage Content) (arguments : Arguments) : Prop where
  | bareRegistry (hregistry : arguments.registry = .bare)
  | untested {path : Path} {error : AccessError}
      (hregistry : arguments.registry = .value path)
      (htest : storage.exists? path = .error error)
  | unknownEncoding {path : Path} {content : Content} {complaint : String}
      (hregistry : arguments.registry = .value path)
      (hread : storage.read path = .ok content)
      (hdocument : reader content = .error (.unknownEncoding complaint))
  | unusableEncoding {path : Path} {content : Content} {complaint : String}
      (hregistry : arguments.registry = .value path)
      (hread : storage.read path = .ok content)
      (hdocument : reader content = .error (.unusableEncoding complaint))
  | numeral {path : Path} {content : Content} {root : Element}
      {number : Document.Number}
      (hregistry : arguments.registry = .value path)
      (hread : storage.read path = .ok content)
      (hdocument : reader content = .ok root)
      (hnumber : Document.IsMalformed root number)
  | bareGroup {path : Path} {catalog : Catalog}
      (hregistry : arguments.registry = .value path)
      (hheld : storage.HoldsCatalog reader path catalog)
      (hgroup : arguments.info = .bare)

/-! ## The registry's path -/

section RegistryPath

variable {Content : Type} {storage : Storage Content} {arguments : Arguments}
  {path : Path}

theorem Arguments.registryPath_of_found
    (hregistry : arguments.registry = .value path)
    (hfound : storage.exists? path = .ok true) :
    arguments.registryPath storage = .ok path := by
  simp [registryPath, hregistry, existingPath, hfound]

theorem Arguments.registryPath_of_untested {error : AccessError}
    (hregistry : arguments.registry = .value path)
    (htest : storage.exists? path = .error error) :
    arguments.registryPath storage = .error (.access path error) := by
  simp [registryPath, hregistry, existingPath, htest]

theorem Arguments.registryPath_of_missing
    (hregistry : arguments.registry = .value path)
    (hmissing : storage.exists? path = .ok false) :
    arguments.registryPath storage = .error (.config
      (.pathNotFound "--vk-xml" path (some registrySuggestion))) := by
  simp [registryPath, hregistry, existingPath, hmissing]

end RegistryPath

/-- The command that arguments with an existing registry ask for. -/
def Arguments.configAt (arguments : Arguments) (path : Path) : Config where
  command := arguments.command
  filter := arguments.filter
  group := arguments.info
  registry := path

/-! ## Setting up -/

namespace Program

section Setup

variable {Content : Type} {reader : Markup.Reader Content} {home : Path}
  {storage : Storage Content} {line : List String} {arguments : Arguments}

theorem isReported_of_interruption {cause : Interruption}
    (hparse : Arguments.parse (defaultRegistry home) line = .error cause) :
    (run reader home storage line).ending.IsReported := by
  have hstop :
      configure home storage line = .error (.interrupted cause) := by
    rw [configure, hparse]
  rw [run, hstop]
  apply Transcript.isReported_reporting
  cases cause with
  | help => simp [Stop.transcript, Ending.IsReported]
  | usage error => simp [Stop.transcript, Ending.IsReported]

theorem isReported_setup_iff {error : SetupError}
    (hparse : Arguments.parse (defaultRegistry home) line = .ok arguments)
    (hconfig : Config.ofArguments storage arguments = .error error) :
    (run reader home storage line).ending.IsReported ↔
      (Fault.setupReport? (.ofSetupError error)).isSome = true := by
  have hstop : configure home storage line =
      .error (.failed (.ofSetupError error)) := by
    rw [configure, hparse]
    dsimp only
    rw [hconfig]
  rw [run, hstop]
  exact Transcript.isReported_reporting_of_failed rfl

theorem isReported_of_misplaced_filter
    (hparse : Arguments.parse (defaultRegistry home) line = .ok arguments)
    (hplaced : ¬arguments.FilterPlaced) :
    (run reader home storage line).ending.IsReported := by
  have hconfig : Config.ofArguments storage arguments =
      .error (.config .filterWithoutList) := by
    simp only [Arguments.FilterPlaced, Classical.not_imp,
      Bool.not_eq_true] at hplaced
    simp [Config.ofArguments, hplaced]
  exact (isReported_setup_iff hparse hconfig).mpr rfl

theorem ofArguments_of_placed (hplaced : arguments.FilterPlaced) :
    Config.ofArguments storage arguments =
      (arguments.registryPath storage).map arguments.configAt := by
  have hkept : ¬(arguments.hasFilter && !arguments.listEnums) = true := by
    simpa [Arguments.FilterPlaced] using hplaced
  rw [Config.ofArguments, if_neg hkept]
  rfl

/-- With a registry that exists, the command is carried out. -/
theorem run_eq_of_found {path : Path}
    (hparse : Arguments.parse (defaultRegistry home) line = .ok arguments)
    (hplaced : arguments.FilterPlaced)
    (hregistry : arguments.registry = .value path)
    (hfound : storage.exists? path = .ok true) :
    run reader home storage line =
      (Discovery.run reader storage (arguments.configAt path)).reporting
        Fault.runReport? := by
  have hconfig : configure home storage line =
      .ok (arguments.configAt path) := by
    rw [configure, hparse]
    dsimp only
    rw [ofArguments_of_placed hplaced,
      Arguments.registryPath_of_found hregistry hfound]
    rfl
  rw [run, hconfig]

end Setup

end Program

/-! ## Carrying out a command -/

theorem Discovery.isReported_report {config : Config} {catalog : Catalog}
    (hgroup : config.command = .info →
      ∃ group, config.group = .value group) :
    (Discovery.report config catalog).ending.IsReported := by
  rw [Discovery.report]
  cases hcommand : config.command with
  | summary | listEnums | check => trivial
  | info =>
      obtain ⟨group, hvalue⟩ := hgroup hcommand
      simp only [hvalue]
      cases catalog.summary? group with
      | none => simp [Ending.IsReported]
      | some summary => trivial

theorem Discovery.ending_report_of_bareGroup {config : Config}
    {catalog : Catalog} (hcommand : config.command = .info)
    (hgroup : config.group = .bare) :
    (Discovery.report config catalog).ending = .failed .bareGroup := by
  rw [Discovery.report, hcommand, hgroup]

section Command

variable {arguments : Arguments}

/-- A detail is only asked for when a group has been given. -/
theorem Arguments.isGiven_of_command_info (h : arguments.command = .info) :
    arguments.info.isGiven = true := by
  rw [Arguments.command] at h
  split at h
  · cases h
  · split at h
    · assumption
    · cases h

theorem Arguments.exists_group_of_command_info
    (hcommand : arguments.command = .info)
    (hgroup : arguments.info ≠ .bare) :
    ∃ group, arguments.info = .value group := by
  have hgiven := isGiven_of_command_info hcommand
  cases hinfo : arguments.info with
  | absent => simp [hinfo, Given.isGiven] at hgiven
  | bare => exact absurd hinfo hgroup
  | value group => exact ⟨group, rfl⟩

theorem Arguments.Consistent.command_of_bareGroup
    (hconsistent : arguments.Consistent) (hgroup : arguments.info = .bare) :
    arguments.command = .info := by
  have hlist : ¬arguments.listEnums = true := by
    intro hlist
    have habsent := hconsistent.exclusive hlist
    rw [hgroup] at habsent
    cases habsent
  simp [Arguments.command, hlist, hgroup, Given.isGiven]

end Command

namespace Program

section Run

variable {Content : Type} {reader : Markup.Reader Content} {home : Path}
  {storage : Storage Content} {line : List String} {arguments : Arguments}

/-- When its registry cannot be loaded, a run is told if the fault is
reported. -/
theorem isReported_iff_of_fault {path : Path} {fault : Fault}
    (hparse : Arguments.parse (defaultRegistry home) line = .ok arguments)
    (hplaced : arguments.FilterPlaced)
    (hregistry : arguments.registry = .value path)
    (hfound : storage.exists? path = .ok true)
    (hload : Catalog.load reader storage path = .error fault) :
    (run reader home storage line).ending.IsReported ↔
      fault.runReport?.isSome = true := by
  have hrun : Discovery.run reader storage (arguments.configAt path) =
      ⟨Discovery.opening (arguments.configAt path), "", .failed fault⟩ :=
    Discovery.run_of_fault hload
  rw [run_eq_of_found hparse hplaced hregistry hfound, hrun]
  exact Transcript.isReported_reporting_of_failed rfl

/-- When its registry is loaded, a run is told unless it has a group without a
name. -/
theorem isReported_iff_of_held {path : Path} {catalog : Catalog}
    (hparse : Arguments.parse (defaultRegistry home) line = .ok arguments)
    (hplaced : arguments.FilterPlaced)
    (hregistry : arguments.registry = .value path)
    (hheld : storage.HoldsCatalog reader path catalog) :
    (run reader home storage line).ending.IsReported ↔
      arguments.info ≠ .bare := by
  have hending : (Discovery.run reader storage
      (arguments.configAt path)).ending =
        (Discovery.report (arguments.configAt path) catalog).ending :=
    Discovery.ending_of_held hheld
  rw [run_eq_of_found hparse hplaced hregistry hheld.exists?]
  by_cases hgroup : arguments.info = .bare
  · refine iff_of_false ?_ (not_not.mpr hgroup)
    have hcommand :=
      (Arguments.consistent_of_parse hparse).command_of_bareGroup hgroup
    rw [Discovery.ending_report_of_bareGroup hcommand hgroup] at hending
    rw [Transcript.isReported_reporting_of_failed hending]
    simp [Fault.runReport?]
  · refine iff_of_true ?_ hgroup
    apply Transcript.isReported_reporting
    rw [hending]
    apply Discovery.isReported_report
    intro hcommand
    exact Arguments.exists_group_of_command_info hcommand hgroup

/-- An escaping run ends with a fault that nothing reports. -/
theorem not_isReported_of_escapes
    (hparse : Arguments.parse (defaultRegistry home) line = .ok arguments)
    (hplaced : arguments.FilterPlaced)
    (hescapes : Escapes reader storage arguments) :
    ¬(run reader home storage line).ending.IsReported := by
  cases hescapes with
  | bareRegistry hregistry =>
      have hconfig : Config.ofArguments storage arguments =
          .error .bareRegistry := by
        rw [ofArguments_of_placed hplaced, Arguments.registryPath, hregistry]
        rfl
      rw [isReported_setup_iff hparse hconfig]
      simp [Fault.ofSetupError, Fault.setupReport?]
  | @untested path error hregistry htest =>
      have hconfig : Config.ofArguments storage arguments =
          .error (.access path error) := by
        rw [ofArguments_of_placed hplaced,
          Arguments.registryPath_of_untested hregistry htest]
        rfl
      rw [isReported_setup_iff hparse hconfig]
      simp [Fault.ofSetupError, Fault.setupReport?]
  | unknownEncoding hregistry hread hdocument
  | unusableEncoding hregistry hread hdocument =>
      rw [isReported_iff_of_fault hparse hplaced hregistry
        (Storage.exists?_of_read hread)
        (Catalog.load_eq_document_iff.mpr ⟨_, hread, hdocument⟩)]
      simp [Fault.runReport?]
  | numeral hregistry hread hdocument hnumber =>
      obtain ⟨error, hnumeral⟩ :=
        Registry.exists_ofElement_eq_error_iff.mpr ⟨_, hnumber⟩
      rw [isReported_iff_of_fault hparse hplaced hregistry
        (Storage.exists?_of_read hread)
        (Catalog.load_of_numeral hread hdocument hnumeral)]
      simp [Fault.runReport?]
  | bareGroup hregistry hheld hgroup =>
      rw [isReported_iff_of_held hparse hplaced hregistry hheld]
      exact not_not.mpr hgroup

theorem isReported_or_escapes_of_found {path : Path}
    (hparse : Arguments.parse (defaultRegistry home) line = .ok arguments)
    (hplaced : arguments.FilterPlaced)
    (hregistry : arguments.registry = .value path)
    (hfound : storage.exists? path = .ok true) :
    (run reader home storage line).ending.IsReported ∨
      Escapes reader storage arguments := by
  have hreported : ∀ {fault report},
      Catalog.load reader storage path = .error fault →
        fault.runReport? = some report →
          (run reader home storage line).ending.IsReported := by
    intro fault report hload hreport
    rw [isReported_iff_of_fault hparse hplaced hregistry hfound hload, hreport]
    rfl
  have hloads := Catalog.loadsAs_load reader storage path
  generalize hload : Catalog.load reader storage path = loaded at hloads
  cases hloads with
  | unread hread =>
      exact .inl (hreported hload (Fault.runReport?_of_unread hfound hread))
  | @refused content error hread hdocument =>
      cases error with
      | malformed complaint => exact .inl (hreported hload rfl)
      | unknownEncoding complaint =>
          exact .inr (.unknownEncoding hregistry hread hdocument)
      | unusableEncoding complaint =>
          exact .inr (.unusableEncoding hregistry hread hdocument)
  | numeral hread hdocument hnumeral =>
      obtain ⟨number, hnumber⟩ :=
        Registry.exists_ofElement_eq_error_iff.mp ⟨_, hnumeral⟩
      exact .inr (.numeral hregistry hread hdocument hnumber)
  | faulty hheld hbuild => exact .inl (hreported hload rfl)
  | held hheld =>
      by_cases hgroup : arguments.info = .bare
      · exact .inr (.bareGroup hregistry hheld hgroup)
      · exact .inl ((isReported_iff_of_held hparse hplaced hregistry
          hheld).mpr hgroup)

/-- A run that is told neither by finishing nor by its status escapes. -/
theorem isReported_or_escapes
    (hparse : Arguments.parse (defaultRegistry home) line = .ok arguments)
    (hplaced : arguments.FilterPlaced) :
    (run reader home storage line).ending.IsReported ∨
      Escapes reader storage arguments := by
  have hconsistent := Arguments.consistent_of_parse hparse
  cases hregistry : arguments.registry with
  | absent => exact absurd hregistry hconsistent.located
  | bare => exact .inr (.bareRegistry hregistry)
  | value path =>
      cases htest : storage.exists? path with
      | error error => exact .inr (.untested hregistry htest)
      | ok found =>
          cases found with
          | true =>
              exact isReported_or_escapes_of_found hparse hplaced hregistry
                htest
          | false =>
              left
              have hmissing := Arguments.registryPath_of_missing hregistry htest
              have hconfig : Config.ofArguments storage arguments =
                  .error (.config (.pathNotFound "--vk-xml" path
                    (some registrySuggestion))) := by
                rw [ofArguments_of_placed hplaced, hmissing]
                rfl
              exact (isReported_setup_iff hparse hconfig).mpr rfl

/-- A run is told by finishing or by its status exactly when the command line
cannot be obeyed, misplaces its filter, or leads to none of the six faults that
nothing reports. -/
theorem isReported_run_iff {Content : Type} (reader : Markup.Reader Content)
    (home : Path) (storage : Storage Content) (line : List String) :
    (run reader home storage line).ending.IsReported ↔
      ∀ arguments,
        Arguments.parse (defaultRegistry home) line = .ok arguments →
          arguments.FilterPlaced → ¬Escapes reader storage arguments := by
  constructor
  · intro hreported arguments hparse hplaced hescapes
    exact not_isReported_of_escapes hparse hplaced hescapes hreported
  · intro hnone
    cases hparse : Arguments.parse (defaultRegistry home) line with
    | error cause => exact isReported_of_interruption hparse
    | ok arguments =>
        by_cases hplaced : arguments.FilterPlaced
        · rcases isReported_or_escapes hparse hplaced with hreported | hescapes
          · exact hreported
          · exact absurd hescapes (hnone arguments hparse hplaced)
        · exact isReported_of_misplaced_filter hparse hplaced

/-- A reader that says the same of all malformed documents. -/
def plainReader : Markup.Reader String :=
  Markup.readDocument "malformed document"

/-- A tree whose one file declares a flag at no position. -/
def misplacedFlag : FileTree where
  directories := []
  files :=
    [(["vk.xml"],
      "<registry><enums name=\"A\"><enum bitpos=\"zz\"/></enums></registry>")]

theorem not_isReported_misplacedFlag :
    (run plainReader ⟨"/", []⟩ misplacedFlag.storage
        ["--vk-xml", "vk.xml"]).ending =
        .failed (.numeral (.malformed "zz")) ∧
      ¬(run plainReader ⟨"/", []⟩ misplacedFlag.storage
        ["--vk-xml", "vk.xml"]).ending.IsReported := by
  have hending :
      (run plainReader ⟨"/", []⟩ misplacedFlag.storage
        ["--vk-xml", "vk.xml"]).ending =
        .failed (.numeral (.malformed "zz")) := by
    decide +kernel
  rw [hending]
  exact ⟨rfl, fun h => h⟩

end Run

end Program

end VulkanRegistry
