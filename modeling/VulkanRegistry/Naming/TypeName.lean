import VulkanRegistry.Text.Search

/-!
# The names of types

A type is named without the `Vk` at its start.  The type of a flag set is named
for its flags and not for its flag bits.
-/

namespace VulkanRegistry.Naming

/-- A name without the copies of `Vk` that it starts with. -/
def stripVk : List Char → List Char
  | 'V' :: 'k' :: rest => stripVk rest
  | name => name

/-- The type name of a group. -/
def typeName (name : String) : String :=
  String.ofList (stripVk name.toList)

/-- The type name of a flag set. -/
def flagSetTypeName (name : String) : String :=
  String.ofList
    (Text.replaceAll "FlagBits".toList "Flags".toList (typeName name).toList)

end VulkanRegistry.Naming
