import VulkanRegistry.Catalog.Aggregate
import VulkanRegistry.Catalog.Group
import VulkanRegistry.Naming.TypeName
import VulkanRegistry.Naming.VariantName

/-!
# The catalog of a registry

A catalog holds the indices of a registry: vendor tags, extensions, types and
groups by name, and what extensions add to groups.  Of several declarations of a
name the last one counts.  A catalog depends on the order of declarations in no
other way.
-/

namespace VulkanRegistry

/-- The indices of a registry. -/
structure Catalog where
  registry : Registry
  tags : List String
  extensions : Index Extension
  types : Index TypeDeclaration
  groups : Index EnumGroup
  aggregates : Index Aggregate

namespace Registry

/-- The vendor tags in ascending order, each once. -/
def sortedTags (registry : Registry) : List String :=
  (Index.ofList (registry.tagNames.map fun name => (name, ()))).keys

/-- The index of the extensions. -/
def extensionIndex (registry : Registry) : Index Extension :=
  Index.ofList (registry.extensions.map fun extension =>
    (extension.name, extension))

/-- The index of the types that have a name. -/
def typeIndex (registry : Registry) : Index TypeDeclaration :=
  Index.ofList (registry.types.filterMap fun type =>
    match type.name with
    | none | some "" => none
    | some name => some (name, type))

/-- The index of the groups, unless one of them is faulty; the first fault
counts. -/
def groupIndex (registry : Registry) : Except GroupError (Index EnumGroup) :=
  (registry.enumBlocks.mapM EnumGroup.ofBlock).map fun groups =>
    Index.ofList (groups.map fun group => (group.name, group))

end Registry

namespace Catalog

/-- The catalog of a registry, unless one of its groups is faulty. -/
def build (registry : Registry) : Except GroupError Catalog :=
  registry.groupIndex.map fun groups =>
    { registry := registry
      tags := registry.sortedTags
      extensions := registry.extensionIndex
      types := registry.typeIndex
      groups := groups
      aggregates := Aggregate.collect registry.extensionIndex.entries }

/-- The name of a variant of the group `owner`, with the vendor tags of the
catalog. -/
def variantName (catalog : Catalog) (owner enumerant : String) : String :=
  Naming.variantName catalog.tags owner enumerant

end Catalog

end VulkanRegistry
