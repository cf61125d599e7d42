import VulkanRegistry.Proofs.Command.Configuration
import VulkanRegistry.Proofs.Command.Loading

/-!
# Complete reports

A run prints a complete report or no part of one.  It finishes exactly when the
registry can be read and has a catalog, and when the group that a detail is
asked for is among its groups.  Otherwise it ends with status 1, and prints what
is wrong and nothing else, but for the line that a summary begins with.  This
leaves out runs that fail over a value, and it breaks down for a document in an
unknown encoding and for a group that is given without a name.
-/

namespace VulkanRegistry

/-! ## Faults of a value -/

/-- The faults that are about a value that cannot be used: a number that is no
numeral, an encoding that documents cannot be read in, and a path with a null
character. -/
inductive Fault.IsBadValue : Fault → Prop where
  | numeral (error : Numeral.Error) : IsBadValue (.numeral error)
  | encoding (complaint : String) :
      IsBadValue (.document (.unusableEncoding complaint))
  | nullCharacter (path : Path) : IsBadValue (.access path .embeddedNull)

/-! ## What is printed -/

namespace Config

variable {Content : Type}

/-- The line that a summary begins with; the other commands begin with none. -/
inductive Begins (config : Config) : String → Prop where
  | summary (hcommand : config.command = .summary) :
      Begins config s!"Parsing: {config.registry.toString}\n"
  | other (hcommand : config.command ≠ .summary) : Begins config ""

/-- The complete report that a command prints about a catalog. -/
inductive Reports (config : Config) (catalog : Catalog) : String → Prop where
  | summary (hcommand : config.command = .summary) :
      Reports config catalog
        (s!"Parsing: {config.registry.toString}\n"
          ++ s!"  Registry: {catalog.tags.length} tags, "
          ++ s!"{catalog.types.size} types, "
          ++ s!"{catalog.groups.size} enum groups, "
          ++ s!"{catalog.extensions.size} extensions\n"
          ++ s!"  Extension enums: {catalog.aggregates.size} groups extended\n")
  /-- A filter that is given without a value leaves nothing out. -/
  | listing (hcommand : config.command = .listEnums)
      (hfilter : ∀ text, config.filter ≠ .value text) :
      Reports config catalog
        (Table.render catalog.summaries config.registry.name)
  | filtered {text : String} (hcommand : config.command = .listEnums)
      (hfilter : config.filter = .value text) :
      Reports config catalog
        (Table.render (Summary.filter text catalog.summaries)
          config.registry.name)
  | detail {group : String} {summary : Summary}
      (hcommand : config.command = .info) (hgroup : config.group = .value group)
      (hsummary : catalog.summary? group = some summary) :
      Reports config catalog (Detail.render summary)

/-- What is printed, and as which errors, when there is nothing to report. -/
inductive Refuses (reader : Markup.Reader Content) (storage : Storage Content)
    (config : Config) : String → String → Prop where
  | unreadable {opening : String} {error : AccessError}
      (hopening : config.Begins opening)
      (hread : storage.read config.registry = .error error) :
      Refuses reader storage config
        (opening ++ s!"Error: {error.message config.registry}\n") ""
  /-- What is wrong with a malformed document is said by the reader. -/
  | malformed {opening complaint : String} {content : Content}
      (hopening : config.Begins opening)
      (hread : storage.read config.registry = .ok content)
      (hdocument : reader content = .error (.malformed complaint)) :
      Refuses reader storage config (opening ++ s!"Error: {complaint}\n") ""
  | faulty {opening suggestion : String} {registry : Registry}
      {error : GroupError} (hopening : config.Begins opening)
      (hheld : storage.HoldsRegistry reader config.registry registry)
      (hbuild : Catalog.build registry = .error error)
      (hsuggestion : error.diagnostic.suggestion = some suggestion) :
      Refuses reader storage config
        (opening ++ (s!"Registry error [{error.diagnostic.code.name}]: "
          ++ s!"{error.diagnostic.message}\nHint: {suggestion}\n")) ""
  | missing {catalog : Catalog} {group : String}
      (hcommand : config.command = .info)
      (hheld : storage.HoldsCatalog reader config.registry catalog)
      (hgroup : config.group = .value group)
      (hmissing : group ∉ catalog.groups.keys) :
      Refuses reader storage config ""
        s!"Error: enum group '{group}' not found in {config.registry.name}\n"

/-- There is a catalog at the path of a configuration, and the group that a
detail is asked for is among its groups. -/
def IsAnswerable (reader : Markup.Reader Content) (storage : Storage Content)
    (config : Config) : Prop :=
  ∃ catalog, storage.HoldsCatalog reader config.registry catalog ∧
    (config.command = .info →
      ∃ group ∈ catalog.groups.keys, config.group = .value group)

/-- A run finishes when it has something to report, and then prints all of it
and no error.  It ends with status 1 otherwise, and prints what is wrong. -/
structure CompleteOrNone (reader : Markup.Reader Content)
    (storage : Storage Content) (config : Config) (transcript : Transcript) :
    Prop where
  finishes : transcript.ending = .finished ↔ config.IsAnswerable reader storage
  complete : transcript.ending = .finished →
    transcript.errors = "" ∧ ∃ catalog,
      storage.HoldsCatalog reader config.registry catalog ∧
        config.Reports catalog transcript.output
  none : transcript.ending ≠ .finished →
    transcript.ending = .exited 1 ∧
      config.Refuses reader storage transcript.output transcript.errors

section Outcomes

variable {reader : Markup.Reader Content} {storage : Storage Content}
  {config : Config} {catalog : Catalog}

theorem begins_opening (config : Config) :
    config.Begins (Discovery.opening config) := by
  by_cases hcommand : config.command = .summary
  · rw [Discovery.opening, hcommand]
    exact .summary hcommand
  · have hnone : Discovery.opening config = "" := by
      rw [Discovery.opening]
      split
      · contradiction
      · rfl
    rw [hnone]
    exact .other hcommand

theorem mem_keys_iff_summary? {name : String} :
    name ∈ catalog.groups.keys ↔
      ∃ summary, catalog.summary? name = some summary := by
  rw [Index.mem_keys_iff, Catalog.summary?]
  cases catalog.groups.get? name with
  | none => simp
  | some group => simp

theorem Refuses.not_isAnswerable {output errors : String}
    (h : config.Refuses reader storage output errors) :
    ¬ config.IsAnswerable reader storage := by
  rintro ⟨found, hfound, hgroup⟩
  obtain ⟨registry, ⟨content, root, hread, hroot, hregistry⟩, hbuild⟩ := hfound
  cases h with
  | unreadable _ hunread => cases hunread.symm.trans hread
  | malformed _ hread' hnone =>
      cases hread'.symm.trans hread
      cases hnone.symm.trans hroot
  | faulty _ hheld hfaulty _ =>
      cases hheld.unique ⟨content, root, hread, hroot, hregistry⟩
      cases hfaulty.symm.trans hbuild
  | missing hcommand hheld hvalue hmissing =>
      cases hheld.unique
        ⟨registry, ⟨content, root, hread, hroot, hregistry⟩, hbuild⟩
      obtain ⟨group, hmem, hgiven⟩ := hgroup hcommand
      cases hvalue.symm.trans hgiven
      exact hmissing hmem

theorem completeOrNone_of_refuses {output errors : String}
    (h : config.Refuses reader storage output errors) :
    config.CompleteOrNone reader storage ⟨output, errors, .exited 1⟩ where
  finishes := by
    simp [h.not_isAnswerable]
  complete := by
    rintro ⟨⟩
  none := fun _ => ⟨rfl, h⟩

theorem completeOrNone_of_reports {output : String}
    (hheld : storage.HoldsCatalog reader config.registry catalog)
    (h : config.Reports catalog output) :
    config.CompleteOrNone reader storage ⟨output, "", .finished⟩ where
  finishes := by
    refine ⟨fun _ => ⟨catalog, hheld, fun hinfo => ?_⟩, fun _ => rfl⟩
    cases h with
    | summary hcommand => cases hcommand.symm.trans hinfo
    | listing hcommand _ => cases hcommand.symm.trans hinfo
    | filtered hcommand _ => cases hcommand.symm.trans hinfo
    | detail _ hgroup hsummary =>
        exact ⟨_, mem_keys_iff_summary?.mpr ⟨_, hsummary⟩, hgroup⟩
  complete := fun _ => ⟨rfl, catalog, hheld, h⟩
  none := fun hending => absurd rfl hending

/-- A run that fails neither finishes nor ends with a status. -/
theorem not_completeOrNone_of_failed {transcript : Transcript} {fault : Fault}
    (hending : transcript.ending = .failed fault) :
    ¬ config.CompleteOrNone reader storage transcript := by
  intro h
  have hstatus := (h.none (by simp [hending])).1
  cases hending.symm.trans hstatus

end Outcomes

end Config

/-! ## The report on a faulty group -/

theorem Diagnostic.report_of_suggestion {diagnostic : Diagnostic}
    {suggestion : String} (harea : diagnostic.area = .registry)
    (hsuggestion : diagnostic.suggestion = some suggestion)
    (hne : suggestion ≠ "") :
    diagnostic.report = s!"Registry error [{diagnostic.code.name}]: "
      ++ s!"{diagnostic.message}\nHint: {suggestion}\n" := by
  have hhint : diagnostic.hint = s!"Hint: {suggestion}\n" := by
    simp [hint, hsuggestion, hne]
  have htitle : Area.registry.title ++ " error [" = "Registry error [" := rfl
  have hline : "\n" ++ "Hint: " = "\nHint: " := rfl
  rw [report, hhint, harea]
  simp only [toString, ← htitle, ← hline, String.append_assoc]

theorem GroupError.exists_report_eq (error : GroupError) :
    ∃ suggestion, error.diagnostic.suggestion = some suggestion ∧
      error.diagnostic.report =
        s!"Registry error [{error.diagnostic.code.name}]: "
          ++ s!"{error.diagnostic.message}\nHint: {suggestion}\n" := by
  cases error with
  | missingName =>
      exact ⟨_, rfl, Diagnostic.report_of_suggestion rfl rfl (by decide)⟩
  | unknownMarker marker =>
      refine ⟨_, rfl, Diagnostic.report_of_suggestion rfl rfl ?_⟩
      simp [toString]

/-! ## Carrying out a command -/

namespace Discovery

variable {Content : Type} {reader : Markup.Reader Content}
  {storage : Storage Content} {config : Config} {catalog : Catalog}

theorem reports_counts (hcommand : config.command = .summary) :
    config.Reports catalog (opening config ++ counts catalog) := by
  have hreport : config.Reports catalog _ := .summary hcommand
  delta counts
  simpa only [opening, hcommand, String.append_assoc] using hreport

theorem reports_listing (hcommand : config.command = .listEnums) :
    config.Reports catalog
      (listing catalog config.filter config.registry.name) := by
  cases hfilter : config.filter with
  | absent => exact .listing hcommand (by simp [hfilter])
  | bare => exact .listing hcommand (by simp [hfilter])
  | value text => exact .filtered hcommand hfilter

theorem completeOrNone_of_detail {group : String}
    (hheld : storage.HoldsCatalog reader config.registry catalog)
    (hcommand : config.command = .info)
    (hgroup : config.group = .value group) :
    config.CompleteOrNone reader storage
      ((run reader storage config).reporting Fault.runReport?) := by
  rw [run_of_held hheld]
  cases hsummary : catalog.summary? group with
  | none =>
      have hmissing : group ∉ catalog.groups.keys := by
        simp [Config.mem_keys_iff_summary?, hsummary]
      simp only [report, opening, hcommand, hgroup, hsummary]
      exact Config.completeOrNone_of_refuses
        (.missing hcommand hheld hgroup hmissing)
  | some summary =>
      simp only [report, opening, hcommand, hgroup, hsummary,
        String.empty_append]
      exact Config.completeOrNone_of_reports hheld
        (.detail hcommand hgroup hsummary)

/-- A command that is offered, carried out on a catalog, reports all of it or
refuses, unless it has a group without a name. -/
theorem completeOrNone_iff_of_held
    (hheld : storage.HoldsCatalog reader config.registry catalog)
    (hoffered : config.command ≠ .check)
    (hdetail : config.command = .info ↔ config.group ≠ .absent) :
    config.CompleteOrNone reader storage
        ((run reader storage config).reporting Fault.runReport?) ↔
      config.group ≠ .bare := by
  have hnamed : config.command ≠ .info → config.group ≠ .bare := by
    intro hother hbare
    exact hother (hdetail.mpr (by simp [hbare]))
  cases hcommand : config.command with
  | check => exact absurd hcommand hoffered
  | summary =>
      refine iff_of_true ?_ (hnamed (by simp [hcommand]))
      rw [run_of_held hheld]
      simp only [report, hcommand]
      exact Config.completeOrNone_of_reports hheld (reports_counts hcommand)
  | listEnums =>
      refine iff_of_true ?_ (hnamed (by simp [hcommand]))
      rw [run_of_held hheld]
      simp only [report, opening, hcommand, String.empty_append]
      exact Config.completeOrNone_of_reports hheld (reports_listing hcommand)
  | info =>
      cases hgroup : config.group with
      | absent => exact absurd hgroup (hdetail.mp hcommand)
      | value group =>
          exact iff_of_true
            (completeOrNone_of_detail hheld hcommand hgroup) (by simp)
      | bare =>
          refine iff_of_false ?_ (by simp)
          rw [run_of_held hheld]
          apply Config.not_completeOrNone_of_failed
          simp only [report, hcommand, hgroup]
          rfl

end Discovery

namespace Program

variable {Content : Type} {reader : Markup.Reader Content} {home : Path}
  {storage : Storage Content} {line : List String} {config : Config}

theorem run_of_configure (hconfig : configure home storage line = .ok config) :
    run reader home storage line =
      (Discovery.run reader storage config).reporting Fault.runReport? := by
  rw [run, hconfig]

/-- A configuration comes with a command that is offered, has a group when that
is a detail, and its registry existed when it was tested. -/
theorem offered_of_configure
    (hconfig : configure home storage line = .ok config) :
    config.command ≠ .check ∧
      (config.command = .info ↔ config.group ≠ .absent) ∧
        storage.exists? config.registry = .ok true := by
  obtain ⟨arguments, path, hparse, -, hpath, rfl⟩ := exists_of_configure hconfig
  exact ⟨Arguments.command_ne_check, Arguments.command_eq_info_iff
    (Arguments.consistent_of_parse hparse),
    Arguments.exists_of_registryPath hpath⟩

/-- A run that cannot load its registry refuses when the fault is reported. -/
theorem completeOrNone_of_fault {fault : Fault} {report : String}
    (hconfig : configure home storage line = .ok config)
    (hload : Catalog.load reader storage config.registry = .error fault)
    (hreport : fault.runReport? = some report)
    (hrefuses :
      config.Refuses reader storage (Discovery.opening config ++ report) "") :
    config.CompleteOrNone reader storage (run reader home storage line) := by
  rw [run_of_configure hconfig, Discovery.run_of_fault hload,
    Transcript.reporting]
  simp only [hreport]
  exact Config.completeOrNone_of_refuses hrefuses

/-- A run that cannot load its registry fails when the fault is not reported. -/
theorem not_completeOrNone_of_fault {fault : Fault}
    (hconfig : configure home storage line = .ok config)
    (hload : Catalog.load reader storage config.registry = .error fault)
    (hreport : fault.runReport? = none) :
    ¬ config.CompleteOrNone reader storage (run reader home storage line) := by
  rw [run_of_configure hconfig, Discovery.run_of_fault hload,
    Transcript.reporting]
  simp only [hreport]
  exact Config.not_completeOrNone_of_failed rfl

/-- A run that cannot load its registry, though no value is at fault, refuses
unless the document is in an unknown encoding. -/
theorem completeOrNone_iff_of_fault {fault : Fault}
    (hconfig : configure home storage line = .ok config)
    (hload : Catalog.load reader storage config.registry = .error fault)
    (hvalue : ¬ fault.IsBadValue) :
    config.CompleteOrNone reader storage (run reader home storage line) ↔
      ∀ complaint, fault ≠ .document (.unknownEncoding complaint) := by
  have hopening := Config.begins_opening config
  obtain ⟨-, -, hfound⟩ := offered_of_configure hconfig
  have hloads := Catalog.loadsAs_load reader storage config.registry
  rw [hload] at hloads
  cases hloads with
  | unread hread =>
      refine iff_of_true ?_ (by simp)
      exact completeOrNone_of_fault hconfig hload
        (Fault.runReport?_of_unread hfound hread) (.unreadable hopening hread)
  | @refused content error hread hdocument =>
      cases error with
      | malformed complaint =>
          refine iff_of_true ?_ (by simp)
          exact completeOrNone_of_fault hconfig hload rfl
            (.malformed hopening hread hdocument)
      | unknownEncoding complaint =>
          refine iff_of_false ?_ (by simp)
          exact not_completeOrNone_of_fault hconfig hload rfl
      | unusableEncoding complaint => exact absurd (.encoding _) hvalue
  | numeral => exact absurd (.numeral _) hvalue
  | @faulty registry error hheld hbuild =>
      obtain ⟨suggestion, hsuggestion, hreport⟩ := error.exists_report_eq
      refine iff_of_true ?_ (by simp)
      exact completeOrNone_of_fault hconfig hload (congrArg some hreport)
        (.faulty hopening hheld hbuild hsuggestion)

/-- A run that does not fail over a value prints its complete report or none of
it, with two exceptions: the document declares an unknown encoding, or the
registry has a catalog and a detail is asked for without a group's name. -/
theorem completeOrNone_run_iff {Content : Type}
    (reader : Markup.Reader Content) (home : Path) (storage : Storage Content)
    (line : List String) (config : Config)
    (hconfig : configure home storage line = .ok config)
    (hvalues : ∀ fault,
      (Discovery.run reader storage config).ending = .failed fault →
        ¬ fault.IsBadValue) :
    config.CompleteOrNone reader storage (run reader home storage line) ↔
      (∀ content complaint, storage.read config.registry = .ok content →
        reader content ≠ .error (.unknownEncoding complaint)) ∧
      ∀ catalog, storage.HoldsCatalog reader config.registry catalog →
        config.group ≠ .bare := by
  have hencoding : (∀ content complaint,
      storage.read config.registry = .ok content →
        reader content ≠ .error (.unknownEncoding complaint)) ↔
      ∀ complaint, Catalog.load reader storage config.registry ≠
        .error (.document (.unknownEncoding complaint)) := by
    simp only [ne_eq, Catalog.load_eq_document_iff, not_exists, not_and]
    exact forall_comm
  rw [hencoding]
  simp only [← Catalog.load_eq_ok_iff]
  cases hload : Catalog.load reader storage config.registry with
  | error fault =>
      have hvalue : ¬ fault.IsBadValue := by
        apply hvalues
        rw [Discovery.run_of_fault hload]
      rw [completeOrNone_iff_of_fault hconfig hload hvalue]
      simp
  | ok catalog =>
      have hheld := Catalog.load_eq_ok_iff.mp hload
      obtain ⟨hoffered, hdetail, -⟩ := offered_of_configure hconfig
      rw [run_of_configure hconfig,
        Discovery.completeOrNone_iff_of_held hheld hoffered hdetail]
      simp

/-! ## Runs on a tree with one group -/

/-- A listing with a filter, and a detail of a group that there is not. -/
theorem completeOrNone_run_iff_oneGroup :
    ∃ listing detail,
      configure ⟨"/", []⟩ oneGroup.storage
          ["--vk-xml", "vk.xml", "--list-enums", "--filter", "SHAPE"] =
            .ok listing ∧
        listing.CompleteOrNone plainReader oneGroup.storage
          (run plainReader ⟨"/", []⟩ oneGroup.storage
            ["--vk-xml", "vk.xml", "--list-enums", "--filter", "SHAPE"]) ∧
        configure ⟨"/", []⟩ oneGroup.storage
          ["--vk-xml", "vk.xml", "--info", "VkHue"] = .ok detail ∧
        detail.CompleteOrNone plainReader oneGroup.storage
          (run plainReader ⟨"/", []⟩ oneGroup.storage
            ["--vk-xml", "vk.xml", "--info", "VkHue"]) := by
  have hlisting : configure ⟨"/", []⟩ oneGroup.storage
      ["--vk-xml", "vk.xml", "--list-enums", "--filter", "SHAPE"] =
      .ok ⟨.listEnums, .value "SHAPE", .absent, ⟨"", ["vk.xml"]⟩⟩ := by
    decide +kernel
  have hlistingEnds : (Discovery.run plainReader oneGroup.storage
      ⟨.listEnums, .value "SHAPE", .absent, ⟨"", ["vk.xml"]⟩⟩).ending =
        .finished := by
    decide +kernel
  have hdetail : configure ⟨"/", []⟩ oneGroup.storage
      ["--vk-xml", "vk.xml", "--info", "VkHue"] =
      .ok ⟨.info, .absent, .value "VkHue", ⟨"", ["vk.xml"]⟩⟩ := by
    decide +kernel
  have hdetailEnds : (Discovery.run plainReader oneGroup.storage
      ⟨.info, .absent, .value "VkHue", ⟨"", ["vk.xml"]⟩⟩).ending =
        .exited 1 := by
    decide +kernel
  have hknown : ∀ content complaint,
      oneGroup.storage.read ⟨"", ["vk.xml"]⟩ = .ok content →
        plainReader content ≠ .error (.unknownEncoding complaint) := by
    rintro content complaint ⟨⟩ hunknown
    have hdocument : (plainReader
        "<registry><enums name=\"VkShape\"/></registry>").isOk = true := by
      decide +kernel
    rw [hunknown] at hdocument
    cases hdocument
  refine ⟨_, _, hlisting, ?_, hdetail, ?_⟩
  · exact (completeOrNone_run_iff _ _ _ _ _ hlisting
      (by simp [hlistingEnds])).mpr ⟨hknown, by simp⟩
  · exact (completeOrNone_run_iff _ _ _ _ _ hdetail
      (by simp [hdetailEnds])).mpr ⟨hknown, by simp⟩

/-- A detail that is asked for without a group's name. -/
theorem not_completeOrNone_bareGroup :
    ∃ config,
      configure ⟨"/", []⟩ oneGroup.storage
          ["--vk-xml", "vk.xml", "--info=--"] = .ok config ∧
        (∀ fault, (Discovery.run plainReader oneGroup.storage config).ending =
          .failed fault → ¬ fault.IsBadValue) ∧
        ¬ config.CompleteOrNone plainReader oneGroup.storage
          (run plainReader ⟨"/", []⟩ oneGroup.storage
            ["--vk-xml", "vk.xml", "--info=--"]) := by
  have hconfig : configure ⟨"/", []⟩ oneGroup.storage
      ["--vk-xml", "vk.xml", "--info=--"] =
      .ok ⟨.info, .absent, .bare, ⟨"", ["vk.xml"]⟩⟩ := by
    decide +kernel
  have hfailed : (Discovery.run plainReader oneGroup.storage
      ⟨.info, .absent, .bare, ⟨"", ["vk.xml"]⟩⟩).ending =
        .failed .bareGroup := by
    decide +kernel
  have hending : (run plainReader ⟨"/", []⟩ oneGroup.storage
      ["--vk-xml", "vk.xml", "--info=--"]).ending = .failed .bareGroup := by
    decide +kernel
  refine ⟨_, hconfig, ?_, Config.not_completeOrNone_of_failed hending⟩
  intro fault hfault hbad
  cases hfailed.symm.trans hfault
  cases hbad

end Program

end VulkanRegistry
