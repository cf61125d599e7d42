import VulkanRegistry.Text.Field

/-!
# Paths

A path is a root, which may be empty, and components.  Empty components and
components of one full stop are dropped, but a component of two full stops
stays.  Exactly two slashes at the start of a path are a root of their own; any
other number of them is the same as one.
-/

namespace VulkanRegistry

/-- A path in its shortest written form. -/
structure Path where
  root : String
  components : List String
  deriving DecidableEq, Repr

namespace Path

/-- The root that the start of a path's text stands for. -/
def rootOf : List Char → String
  | '/' :: '/' :: '/' :: _ => "/"
  | '/' :: '/' :: _ => "//"
  | '/' :: _ => "/"
  | _ => ""

/-- The path that a text stands for. -/
def ofString (text : String) : Path :=
  { root := rootOf text.toList
    components :=
      ((Text.fieldsBy (· == '/') text.toList).map String.ofList).filter
        fun component => component != "" && component != "." }

/-- The written form of a path. -/
def toString (path : Path) : String :=
  if path.root.isEmpty && path.components.isEmpty then "."
  else path.root ++ "/".intercalate path.components

/-- The last component, which is empty when there is none. -/
def name (path : Path) : String :=
  path.components.getLast?.getD ""

/-- The path that further components lead to. -/
def extend (path : Path) (components : List String) : Path :=
  { path with components := path.components ++ components }

end Path

end VulkanRegistry
