import VulkanRegistry.Index.Basic
import VulkanRegistry.Registry.Basic

/-!
# Enumerants that extensions add to groups

Extensions are walked in a given order, each with the enumerants that its
require blocks hold.  An enumerant with a target joins the aggregate of its
target, behind those that are there.  Removed enumerants and mere mentions join
none.
-/

namespace VulkanRegistry

/-- An enumerant and the extension that contributes it. -/
structure Contribution where
  extension : String
  enumerant : Enumerant
  deriving DecidableEq, Repr

/-- What extensions contribute to one group.  The representative is the first
extension to contribute. -/
structure Aggregate where
  representative : String
  entries : List Contribution
  deriving DecidableEq, Repr

namespace Aggregate

/-- Adds a contribution to an aggregate, or begins one with it. -/
def join (contribution : Contribution) : Option Aggregate → Aggregate
  | none => ⟨contribution.extension, [contribution]⟩
  | some aggregate =>
      { aggregate with entries := aggregate.entries ++ [contribution] }

/-- Adds what one required item contributes. -/
def addItem (extension : String) (found : Index Aggregate) :
    InterfaceItem → Index Aggregate
  | .enumerant enumerant =>
      match enumerant.payload.target? with
      | some target => found.update target (join ⟨extension, enumerant⟩)
      | none => found
  | _ => found

/-- Adds what one block contributes. -/
def addBlock (extension : String) (found : Index Aggregate) :
    InterfaceBlock → Index Aggregate
  | .require items _ => items.foldl (addItem extension) found
  | .remove _ => found

/-- The aggregates by target, for extensions that are walked in the order of the
list. -/
def collect (extensions : List (String × Extension)) : Index Aggregate :=
  extensions.foldl
    (fun found (name, extension) =>
      extension.blocks.foldl (addBlock name) found)
    Index.empty

end Aggregate

end VulkanRegistry
