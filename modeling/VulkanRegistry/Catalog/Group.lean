import VulkanRegistry.Diagnostic
import VulkanRegistry.Registry.Basic

/-!
# Groups of enumerants

A declared group is a flag set, an enumeration or a group of constants, as its
marker says.  A group without a name or with an unknown marker cannot be
indexed, and its missing name is noticed first.
-/

namespace VulkanRegistry

/-- The kinds of groups. -/
inductive GroupKind where
  | flagSet
  | enumeration
  | constants
  deriving DecidableEq, Repr

/-- The name of a kind in reports. -/
def GroupKind.label : GroupKind → String
  | flagSet => "flag set"
  | enumeration => "enumeration"
  | constants => "constant group"

/-- Why a declared group cannot be indexed. -/
inductive GroupError where
  | missingName
  | unknownMarker (marker : String)
  deriving DecidableEq, Repr

/-- How a faulty group is reported. -/
def GroupError.diagnostic : GroupError → Diagnostic
  | missingName =>
      { code := .missingEnumName
        message := "Missing enum name on an <enums> block"
        suggestion :=
          some "Every <enums> block in vk.xml must carry a name attribute." }
  | unknownMarker marker =>
      { code := .unknownEnumKind
        message := s!"Unknown enum kind marker: '{marker}'"
        suggestion :=
          some s!"Add '{marker}' to the enum kind markers in vknames.py." }

/-- The kind that a marker stands for.  A missing or empty marker stands for
constants. -/
def GroupKind.ofMarker (marker : Option String) : Except GroupError GroupKind :=
  match marker with
  | none | some "" => .ok .constants
  | some "bitmask" => .ok .flagSet
  | some "enum" => .ok .enumeration
  | some other => .error (.unknownMarker other)

/-- A group with its name and its kind, and the block that declares it. -/
structure EnumGroup where
  name : String
  kind : GroupKind
  block : EnumBlock
  deriving DecidableEq, Repr

/-- The group's own enumerants, in declaration order. -/
def EnumGroup.enumerants (group : EnumGroup) : List Enumerant :=
  group.block.enumerants

/-- The group that a block declares. -/
def EnumGroup.ofBlock (block : EnumBlock) : Except GroupError EnumGroup :=
  match block.name with
  | none | some "" => .error .missingName
  | some name =>
      (GroupKind.ofMarker block.marker).map fun kind => ⟨name, kind, block⟩

end VulkanRegistry
