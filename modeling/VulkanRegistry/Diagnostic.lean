/-!
# Diagnostics

A diagnostic reports a fault that the user can mend.  It carries a code, a
message and, where there is one, a suggestion.  Each code belongs to one area,
that of the configuration or that of the registry.
-/

namespace VulkanRegistry

namespace Diagnostic

/-- What a diagnostic is about. -/
inductive Area where
  | config
  | registry
  deriving DecidableEq, Repr

/-- The kinds of faults. -/
inductive Code where
  | filterWithoutList
  | pathNotFound
  | unknownEnumKind
  | missingEnumName
  deriving DecidableEq, Repr

/-- The name of an area within a sentence. -/
def Area.name : Area → String
  | config => "config"
  | registry => "registry"

/-- The name of an area at the start of a sentence. -/
def Area.title : Area → String
  | config => "Config"
  | registry => "Registry"

/-- The area of a code. -/
def Code.area : Code → Area
  | filterWithoutList | pathNotFound => .config
  | unknownEnumKind | missingEnumName => .registry

/-- The written form of a code. -/
def Code.name : Code → String
  | filterWithoutList => "FILTER_WITHOUT_LIST"
  | pathNotFound => "PATH_NOT_FOUND"
  | unknownEnumKind => "UNKNOWN_ENUM_KIND"
  | missingEnumName => "MISSING_ENUM_NAME"

/-- All codes. -/
def Code.all : List Code :=
  [filterWithoutList, pathNotFound, unknownEnumKind, missingEnumName]

/-- The code of an area with a given written form. -/
def Code.ofName? (area : Area) (name : String) : Option Code :=
  Code.all.find? fun code => code.area == area && code.name == name

/-- How a code that its area does not have is reported. -/
def unknownCodeMessage (area : Area) (name : String) : String :=
  s!"Unknown {area.name} error code: {name}"

end Diagnostic

/-- A fault that the user can mend. -/
structure Diagnostic where
  code : Diagnostic.Code
  message : String
  suggestion : Option String
  deriving DecidableEq, Repr

namespace Diagnostic

/-- The area of a diagnostic is that of its code. -/
def area (diagnostic : Diagnostic) : Area :=
  diagnostic.code.area

/-- The line that follows the message, unless there is no suggestion or an empty
one. -/
def hint (diagnostic : Diagnostic) : String :=
  match diagnostic.suggestion with
  | none => ""
  | some text => if text.isEmpty then "" else s!"Hint: {text}\n"

/-- The printed form of a diagnostic. -/
def report (diagnostic : Diagnostic) : String :=
  s!"{diagnostic.area.title} error [{diagnostic.code.name}]: "
    ++ s!"{diagnostic.message}\n"
    ++ diagnostic.hint

end Diagnostic

end VulkanRegistry
