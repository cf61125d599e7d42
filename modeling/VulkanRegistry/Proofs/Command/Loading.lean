import VulkanRegistry.Command.Discovery

/-!
# What comes of loading a catalog

A catalog is loaded in four steps, each of which may fail: the file is opened,
its content is read as a document, the document as a registry, and the registry
is indexed.  All steps but the last two depend on what a storage holds and on
the reader of documents, about which nothing is assumed.
-/

namespace VulkanRegistry

variable {Content : Type} {reader : Markup.Reader Content}
  {storage : Storage Content} {path : Path}

/-! ## What a storage holds -/

/-- A path leads to a file with the document of a registry. -/
def Storage.HoldsRegistry (storage : Storage Content)
    (reader : Markup.Reader Content) (path : Path) (registry : Registry) :
    Prop :=
  ∃ content root, storage.read path = .ok content ∧
    reader content = .ok root ∧ Registry.ofElement root = .ok registry

/-- A path leads to a file with the document of a registry that has a given
catalog. -/
def Storage.HoldsCatalog (storage : Storage Content)
    (reader : Markup.Reader Content) (path : Path) (catalog : Catalog) : Prop :=
  ∃ registry, storage.HoldsRegistry reader path registry ∧
    Catalog.build registry = .ok catalog

namespace Storage

theorem HoldsRegistry.unique {registry other : Registry}
    (hregistry : storage.HoldsRegistry reader path registry)
    (hother : storage.HoldsRegistry reader path other) : registry = other := by
  obtain ⟨content, root, hread, hroot, hfound⟩ := hregistry
  obtain ⟨content', root', hread', hroot', hfound'⟩ := hother
  cases hread.symm.trans hread'
  cases hroot.symm.trans hroot'
  exact Except.ok.inj (hfound.symm.trans hfound')

theorem HoldsCatalog.load_eq {catalog : Catalog}
    (h : storage.HoldsCatalog reader path catalog) :
    Catalog.load reader storage path = .ok catalog := by
  obtain ⟨registry, ⟨content, root, hread, hroot, hregistry⟩, hbuild⟩ := h
  simp [Catalog.load, Registry.ofDocument, hread, hroot, hregistry, hbuild]

theorem HoldsCatalog.unique {catalog other : Catalog}
    (hcatalog : storage.HoldsCatalog reader path catalog)
    (hother : storage.HoldsCatalog reader path other) : catalog = other :=
  Except.ok.inj (hcatalog.load_eq.symm.trans hother.load_eq)

/-- What can be read exists. -/
theorem exists?_of_read {content : Content}
    (hread : storage.read path = .ok content) :
    storage.exists? path = .ok true := by
  rw [read] at hread
  rw [exists?]
  split at hread
  case h_1 found hfound => rw [hfound]
  all_goals cases hread

theorem HoldsCatalog.exists? {catalog : Catalog}
    (h : storage.HoldsCatalog reader path catalog) :
    storage.exists? path = .ok true := by
  obtain ⟨registry, ⟨content, root, hread, -⟩, -⟩ := h
  exact exists?_of_read hread

end Storage

/-- What exists and cannot be read all the same is reported. -/
theorem Fault.runReport?_of_unread {error : AccessError}
    (hfound : storage.exists? path = .ok true)
    (hread : storage.read path = .error error) :
    (access path error).runReport? =
      some s!"Error: {error.message path}\n" := by
  rw [Storage.read] at hread
  split at hread
  case h_1 => cases hread
  case h_2 | h_3 =>
    cases hread
    rfl
  case h_4 cause hcause =>
    rw [Storage.exists?, hcause] at hfound
    dsimp only at hfound
    split at hfound
    · cases hfound
    · cases hfound

/-! ## The outcomes of loading -/

namespace Catalog

/-- What comes of loading the catalog at a path, with the reason. -/
inductive LoadsAs (reader : Markup.Reader Content) (storage : Storage Content)
    (path : Path) : Except Fault Catalog → Prop where
  | unread {error : AccessError} (hread : storage.read path = .error error) :
      LoadsAs reader storage path (.error (.access path error))
  | refused {content : Content} {error : Markup.ReadError}
      (hread : storage.read path = .ok content)
      (hdocument : reader content = .error error) :
      LoadsAs reader storage path (.error (.document error))
  | numeral {content : Content} {root : Markup.Element}
      {error : Numeral.Error} (hread : storage.read path = .ok content)
      (hdocument : reader content = .ok root)
      (hnumeral : Registry.ofElement root = .error error) :
      LoadsAs reader storage path (.error (.numeral error))
  | faulty {registry : Registry} {error : GroupError}
      (hheld : storage.HoldsRegistry reader path registry)
      (hbuild : Catalog.build registry = .error error) :
      LoadsAs reader storage path (.error (.group error))
  | held {catalog : Catalog}
      (hheld : storage.HoldsCatalog reader path catalog) :
      LoadsAs reader storage path (.ok catalog)

theorem loadsAs_load (reader : Markup.Reader Content)
    (storage : Storage Content) (path : Path) :
    LoadsAs reader storage path (load reader storage path) := by
  rw [load]
  cases hread : storage.read path with
  | error error => exact .unread hread
  | ok content =>
      dsimp only [Registry.ofDocument]
      cases hdocument : reader content with
      | error error => exact .refused hread hdocument
      | ok root =>
          dsimp only
          cases hregistry : Registry.ofElement root with
          | error error => exact .numeral hread hdocument hregistry
          | ok registry =>
              have hheld : storage.HoldsRegistry reader path registry :=
                ⟨content, root, hread, hdocument, hregistry⟩
              dsimp only
              cases hbuild : Catalog.build registry with
              | error error => exact .faulty hheld hbuild
              | ok catalog => exact .held ⟨registry, hheld, hbuild⟩

/-- Loading fails with what the reader says of a content when it refuses it. -/
theorem load_eq_document_iff {error : Markup.ReadError} :
    load reader storage path = .error (.document error) ↔
      ∃ content, storage.read path = .ok content ∧
        reader content = .error error := by
  constructor
  · intro hload
    have hloads := loadsAs_load reader storage path
    rw [hload] at hloads
    cases hloads with
    | refused hread hdocument => exact ⟨_, hread, hdocument⟩
  · rintro ⟨content, hread, hdocument⟩
    simp [load, hread, Registry.ofDocument, hdocument]

/-- What is loaded is what the storage holds. -/
theorem load_eq_ok_iff {catalog : Catalog} :
    load reader storage path = .ok catalog ↔
      storage.HoldsCatalog reader path catalog := by
  constructor
  · intro hload
    have hloads := loadsAs_load reader storage path
    rw [hload] at hloads
    cases hloads with
    | held hheld => exact hheld
  · exact Storage.HoldsCatalog.load_eq

theorem load_of_numeral {content : Content} {root : Markup.Element}
    {error : Numeral.Error} (hread : storage.read path = .ok content)
    (hdocument : reader content = .ok root)
    (hnumeral : Registry.ofElement root = .error error) :
    load reader storage path = .error (.numeral error) := by
  simp [load, hread, Registry.ofDocument, hdocument, hnumeral]

theorem load_ne_absentGroup (reader : Markup.Reader Content)
    (storage : Storage Content) (path : Path) :
    load reader storage path ≠ .error .absentGroup := by
  intro habsent
  have hloads := loadsAs_load reader storage path
  rw [habsent] at hloads
  cases hloads

end Catalog

/-! ## How a run ends after loading -/

namespace Discovery

variable {config : Config}

theorem run_of_fault {fault : Fault}
    (hload : Catalog.load reader storage config.registry = .error fault) :
    run reader storage config = ⟨opening config, "", .failed fault⟩ := by
  rw [run, hload]

theorem run_of_held {catalog : Catalog}
    (hheld : storage.HoldsCatalog reader config.registry catalog) :
    run reader storage config =
      { report config catalog with
        output := opening config ++ (report config catalog).output } := by
  rw [run, hheld.load_eq]

theorem ending_of_held {catalog : Catalog}
    (hheld : storage.HoldsCatalog reader config.registry catalog) :
    (run reader storage config).ending = (report config catalog).ending := by
  rw [run_of_held hheld]

end Discovery

end VulkanRegistry
