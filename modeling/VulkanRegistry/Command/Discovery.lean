import VulkanRegistry.Command.Transcript
import VulkanRegistry.Registry.OfElement
import VulkanRegistry.Report.Detail
import VulkanRegistry.Report.Table

/-!
# Carrying out a command

Every command reads and indexes the registry first.  The summary alone prints a
line before it does, so that line stands even when reading fails; otherwise a
report is printed as a whole or not at all.  How the content of a file is read
as a document is settled by the reader that a run is given.
-/

namespace VulkanRegistry

variable {Content : Type}

/-- The registry that a content holds for a reader of documents. -/
def Registry.ofDocument (reader : Markup.Reader Content) (content : Content) :
    Except Fault Registry :=
  match reader content with
  | .error error => .error (.document error)
  | .ok root =>
      match Registry.ofElement root with
      | .error error => .error (.numeral error)
      | .ok registry => .ok registry

/-- The catalog of the registry at a path. -/
def Catalog.load (reader : Markup.Reader Content) (storage : Storage Content)
    (path : Path) : Except Fault Catalog :=
  match storage.read path with
  | .error error => .error (.access path error)
  | .ok content =>
      match Registry.ofDocument reader content with
      | .error fault => .error fault
      | .ok registry =>
          match Catalog.build registry with
          | .error error => .error (.group error)
          | .ok catalog => .ok catalog

namespace Discovery

/-- The sizes of the indices of a catalog. -/
def counts (catalog : Catalog) : String :=
  s!"  Registry: {catalog.tags.length} tags, {catalog.types.size} types, "
    ++ s!"{catalog.groups.size} enum groups, "
    ++ s!"{catalog.extensions.size} extensions\n"
    ++ s!"  Extension enums: {catalog.aggregates.size} groups extended\n"

/-- The table of a catalog's groups, filtered when the filter has a value. -/
def listing (catalog : Catalog) (filter : Given String) (source : String) :
    String :=
  let summaries :=
    match filter with
    | .absent | .bare => catalog.summaries
    | .value text => Summary.filter text catalog.summaries
  Table.render summaries source

/-- What a command prints once there is a catalog. -/
def report (config : Config) (catalog : Catalog) : Transcript :=
  let source := config.registry.name
  match config.command with
  | .summary => ⟨counts catalog, "", .finished⟩
  | .listEnums => ⟨listing catalog config.filter source, "", .finished⟩
  | .info =>
      match config.group with
      | .absent => ⟨"", "", .failed .absentGroup⟩
      | .bare => ⟨"", "", .failed .bareGroup⟩
      | .value group =>
          match catalog.summary? group with
          | none =>
              ⟨"", s!"Error: enum group '{group}' not found in {source}\n",
                .exited 1⟩
          | some summary => ⟨Detail.render summary, "", .finished⟩
  | .check => ⟨"", "", .finished⟩

/-- What a command prints before the registry is read. -/
def opening (config : Config) : String :=
  match config.command with
  | .summary => s!"Parsing: {config.registry.toString}\n"
  | _ => ""

/-- Carries out the command of a configuration. -/
def run (reader : Markup.Reader Content) (storage : Storage Content)
    (config : Config) : Transcript :=
  match Catalog.load reader storage config.registry with
  | .error fault => ⟨opening config, "", .failed fault⟩
  | .ok catalog =>
      let transcript := report config catalog
      { transcript with output := opening config ++ transcript.output }

end Discovery

end VulkanRegistry
