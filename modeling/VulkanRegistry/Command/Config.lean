import VulkanRegistry.Command.Arguments
import VulkanRegistry.Diagnostic
import VulkanRegistry.Storage.Access

/-!
# Configurations

A configuration names one command and an existing registry.  A filter belongs to
a listing and to nothing else, and a fault of the filter is reported before a
fault of the path.
-/

namespace VulkanRegistry

/-- What is done with a registry. -/
inductive Command where
  /-- Report the sizes of the indices. -/
  | summary
  /-- List the groups. -/
  | listEnums
  /-- Show one group. -/
  | info
  /-- Index the registry and report nothing. -/
  | check
  deriving DecidableEq, Repr

/-- A command with what it works on. -/
structure Config where
  command : Command
  filter : Given String
  group : Given String
  registry : Path
  deriving DecidableEq, Repr

/-- Why arguments make no configuration. -/
inductive ConfigError where
  | filterWithoutList
  | pathNotGiven (flag : String) (suggestion : Option String)
  | pathNotFound (flag : String) (path : Path) (suggestion : Option String)
  deriving DecidableEq, Repr

/-- The given suggestion, or another one when there is none or an empty one. -/
def suggestionOr (suggestion : Option String) (other : String) :
    Option String :=
  match suggestion with
  | none | some "" => some other
  | some text => some text

/-- How arguments that make no configuration are reported. -/
def ConfigError.diagnostic : ConfigError → Diagnostic
  | filterWithoutList =>
      { code := .filterWithoutList
        message := "--filter requires --list-enums."
        suggestion := some "Add --list-enums or remove --filter." }
  | pathNotGiven flag suggestion =>
      { code := .pathNotFound
        message := s!"{flag} is required: no path provided."
        suggestion := suggestionOr suggestion
          s!"Pass the path explicitly: {flag} /path/to/resource" }
  | pathNotFound flag path suggestion =>
      { code := .pathNotFound
        message := s!"Path for {flag} does not exist: {path.toString}"
        suggestion :=
          suggestionOr suggestion "Provide an existing path for this flag." }

/-- Why no configuration comes about. -/
inductive SetupError where
  | config (error : ConfigError)
  /-- The test whether a path exists has failed. -/
  | access (path : Path) (error : AccessError)
  /-- The registry is given without a path. -/
  | bareRegistry
  deriving DecidableEq, Repr

section Setup

variable {Content : Type}

/-- The path given for a flag, if it exists. -/
def existingPath (storage : Storage Content) (path : Option Path)
    (flag : String) (suggestion : Option String) : Except SetupError Path :=
  match path with
  | none => .error (.config (.pathNotGiven flag suggestion))
  | some path =>
      match storage.exists? path with
      | .error error => .error (.access path error)
      | .ok true => .ok path
      | .ok false => .error (.config (.pathNotFound flag path suggestion))

/-- How to come by a registry. -/
def registrySuggestion : String :=
  "Clone Vulkan-Docs:\n"
    ++ "  git clone https://github.com/KhronosGroup/Vulkan-Docs.git "
    ++ "thoughts/repos/Vulkan-Docs\n"
    ++ "Or pass a custom path: --vk-xml /your/path/to/vk.xml"

/-- The path of the registry that arguments ask for, if it exists. -/
def Arguments.registryPath (storage : Storage Content)
    (arguments : Arguments) : Except SetupError Path :=
  match arguments.registry with
  | .bare => .error .bareRegistry
  | .absent => existingPath storage none "--vk-xml" (some registrySuggestion)
  | .value path =>
      existingPath storage (some path) "--vk-xml" (some registrySuggestion)

/-- The command that arguments ask for. -/
def Arguments.command (arguments : Arguments) : Command :=
  if arguments.listEnums then .listEnums
  else if arguments.info.isGiven then .info
  else .summary

/-- Whether arguments hold a filter that leaves something out. -/
def Arguments.hasFilter (arguments : Arguments) : Bool :=
  match arguments.filter with
  | .value text => !text.isEmpty
  | _ => false

/-- The configuration that arguments ask for. -/
def Config.ofArguments (storage : Storage Content) (arguments : Arguments) :
    Except SetupError Config :=
  if arguments.hasFilter && !arguments.listEnums then
    .error (.config .filterWithoutList)
  else
    (arguments.registryPath storage).map fun path =>
      { command := arguments.command
        filter := arguments.filter
        group := arguments.info
        registry := path }

end Setup

end VulkanRegistry
