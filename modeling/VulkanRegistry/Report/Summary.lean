import VulkanRegistry.Catalog.Basic

/-!
# Summaries of groups

A summary lists the variants of a group with their derived names: the group's
own enumerants in declaration order, then those of its aggregate.
-/

namespace VulkanRegistry

/-- A variant of a group.  Its extension is none for the group's own
enumerants. -/
structure Variant where
  rawName : String
  name : String
  extension : Option String
  isAlias : Bool
  deriving DecidableEq, Repr

/-- A group with the derived names of its type and its variants. -/
structure Summary where
  name : String
  kind : GroupKind
  typeName : String
  variants : List Variant
  representative : Option String
  deriving DecidableEq, Repr

namespace Summary

/-- The number of the group's own variants. -/
def baseCount (summary : Summary) : Nat :=
  summary.variants.countP fun variant => variant.extension.isNone

/-- The number of variants that extensions contribute. -/
def extensionCount (summary : Summary) : Nat :=
  summary.variants.length - summary.baseCount

/-- The summaries whose name contains a text, letter case aside. -/
def filter (text : String) (summaries : List Summary) : List Summary :=
  if text.isEmpty then summaries
  else
    let needle := (Text.lower text).toList
    summaries.filter fun summary =>
      Text.occursIn needle (Text.lower summary.name).toList

end Summary

namespace Catalog

/-- The variant that an enumerant gives the group `owner`. -/
def variantOf (catalog : Catalog) (owner : String) (extension : Option String)
    (enumerant : Enumerant) : Variant :=
  { rawName := enumerant.name
    name := catalog.variantName owner enumerant.name
    extension := extension
    isAlias := enumerant.payload.isAlias }

/-- The summary of a group. -/
def summarize (catalog : Catalog) (group : EnumGroup) : Summary :=
  let aggregate := catalog.aggregates.get? group.name
  let own := group.enumerants.map (catalog.variantOf group.name none)
  let contributed :=
    ((aggregate.map Aggregate.entries).getD []).map fun entry =>
      catalog.variantOf group.name (some entry.extension) entry.enumerant
  { name := group.name
    kind := group.kind
    typeName :=
      match group.kind with
      | .flagSet => Naming.flagSetTypeName group.name
      | _ => Naming.typeName group.name
    variants := own ++ contributed
    representative := aggregate.map Aggregate.representative }

/-- The summary of the group with a given name, if there is one. -/
def summary? (catalog : Catalog) (name : String) : Option Summary :=
  (catalog.groups.get? name).map catalog.summarize

/-- The summaries of all groups, in ascending order of their names. -/
def summaries (catalog : Catalog) : List Summary :=
  catalog.groups.values.map catalog.summarize

end Catalog

end VulkanRegistry
