import VulkanRegistry.Storage.Access

/-!
# Trees of files

A tree holds directories and files below a working directory.  Of what lies
outside of it only this is known: the directories above the working directory
exist, and so does the root.  A tree has no links, and all that is in it may be
read.
-/

namespace VulkanRegistry

/-- Directories and files by their components below the working directory.  The
directories that lead to them need not be listed. -/
structure FileTree where
  directories : List (List String)
  files : List (List String × String)

namespace FileTree

/-- A directory that a path has led to. -/
inductive Place where
  /-- The working directory or a directory below it. -/
  | inside (trail : List String)
  | outside

/-- The directory that holds a given one. -/
def Place.parent : Place → Place
  | inside [] => outside
  | inside trail => inside trail.dropLast
  | outside => outside

/-- Whether there is a directory at a trail. -/
def hasDirectory (tree : FileTree) (trail : List String) : Bool :=
  (tree.directories ++ tree.files.map Prod.fst).any trail.isPrefixOf

/-- What the components of a path lead to from a place. -/
def resolveFrom (tree : FileTree) :
    Place → List String → Except AccessError (Resource String)
  | _, [] => .ok .directory
  | place, component :: rest =>
      if 255 < component.utf8ByteSize then .error .nameTooLong
      else if component = ".." then tree.resolveFrom place.parent rest
      else
        match place with
        | .outside => .error .missing
        | .inside trail =>
            let here := trail ++ [component]
            match tree.files.lookup here with
            | some text =>
                if rest.isEmpty then .ok (.file text)
                else .error .notDirectory
            | none =>
                if tree.hasDirectory here then
                  tree.resolveFrom (.inside here) rest
                else .error .missing

/-- What each path leads to, from the working directory or from the root. -/
def storage (tree : FileTree) : Storage String := fun path =>
  if path.toString.toList.contains '\x00' then .error .embeddedNull
  else if 4096 ≤ path.toString.utf8ByteSize then .error .nameTooLong
  else
    tree.resolveFrom (if path.root.isEmpty then .inside [] else .outside)
      path.components

end FileTree

end VulkanRegistry
