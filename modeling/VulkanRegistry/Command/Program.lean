import VulkanRegistry.Command.Discovery

/-!
# The program

The program turns its arguments into a configuration and carries it out.  Faults
of the configuration are reported, and so are unreadable and malformed
registries and faulty groups.  The status is 2 for a command line that cannot be
obeyed and 1 for a reported fault.

The words of a command line are texts of Unicode characters, and whatever is
printed can be written: the encoding of the streams is left out.  The usage and
the help are laid out for a terminal of 80 columns.
-/

namespace VulkanRegistry

namespace Program

/-- How the program is called. -/
def usage : String :=
  "usage: vknames [-h] [--vk-xml VK_XML] [--list-enums | --info INFO]\n"
    ++ "               [--filter FILTER]\n"

/-- The answer to a request for help. -/
def help : String :=
  usage ++ "\n"
    ++ "Index vk.xml and derive Vulkan enum type and variant names\n\n"
    ++ "options:\n"
    ++ "  -h, --help       show this help message and exit\n"
    ++ "  --vk-xml VK_XML\n"
    ++ "  --list-enums\n"
    ++ "  --info INFO\n"
    ++ "  --filter FILTER\n"

/-- Where the registry is when the command line does not say. -/
def defaultRegistry (home : Path) : Path :=
  home.extend ["thoughts", "repos", "Vulkan-Docs", "xml", "vk.xml"]

/-- Why no configuration comes about. -/
inductive Stop where
  | interrupted (cause : Interruption)
  | failed (fault : Fault)
  deriving DecidableEq, Repr

/-- What a program prints that stops before it has a configuration. -/
def Stop.transcript : Stop → Transcript
  | interrupted .help => ⟨help, "", .exited 0⟩
  | interrupted (.usage error) =>
      ⟨"", usage ++ s!"vknames: error: {error.message}\n", .exited 2⟩
  | failed fault => ⟨"", "", .failed fault⟩

variable {Content : Type}

/-- The configuration that a command line asks for. -/
def configure (home : Path) (storage : Storage Content) (line : List String) :
    Except Stop Config :=
  match Arguments.parse (defaultRegistry home) line with
  | .error cause => .error (.interrupted cause)
  | .ok arguments =>
      match Config.ofArguments storage arguments with
      | .error error => .error (.failed (.ofSetupError error))
      | .ok config => .ok config

/-- Obeys a command line. -/
def run (reader : Markup.Reader Content) (home : Path)
    (storage : Storage Content) (line : List String) : Transcript :=
  match configure home storage line with
  | .error stop => stop.transcript.reporting Fault.setupReport?
  | .ok config =>
      (Discovery.run reader storage config).reporting Fault.runReport?

end Program

end VulkanRegistry
