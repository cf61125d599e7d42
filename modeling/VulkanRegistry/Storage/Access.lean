import VulkanRegistry.Storage.Path
import VulkanRegistry.Text.Quoted

/-!
# Access to files

A storage says what each path leads to, or why it leads nowhere.  A test for
existence answers no for a path that leads nowhere, but fails for one of which
it cannot be told: a name is too long, say, or a directory may not be searched.
What exists need not be readable.

A storage does not change while it is used, and what a content is, is left open.
The failures that a run tells apart have a case of their own; all others, such
as a missing permission, come with the words that the system has for them.
-/

namespace VulkanRegistry

/-- What a path leads to. -/
inductive Resource (Content : Type) where
  | directory
  | file (content : Content)
  /-- Something that cannot be read, with the system's words for the reason. -/
  | closed (complaint : String)
  deriving DecidableEq, Repr

/-- Why the content at a path cannot be had. -/
inductive AccessError where
  | missing
  /-- The path goes on beyond a file. -/
  | notDirectory
  | isDirectory
  | nameTooLong
  | tooManyLinks
  /-- The path holds a null character. -/
  | embeddedNull
  /-- Any other reason, in the system's words. -/
  | other (complaint : String)
  deriving DecidableEq, Repr

namespace AccessError

/-- The system's number for a failure and its words for it, about a path. -/
def numbered (number : Nat) (words : String) (path : Path) : String :=
  s!"[Errno {number}] {words}: {Text.quoted path.toString}"

/-- How a failed access is reported. -/
def message (path : Path) : AccessError → String
  | missing => numbered 2 "No such file or directory" path
  | notDirectory => numbered 20 "Not a directory" path
  | isDirectory => numbered 21 "Is a directory" path
  | nameTooLong => numbered 36 "File name too long" path
  | tooManyLinks => numbered 40 "Too many levels of symbolic links" path
  | embeddedNull => "embedded null byte"
  | other complaint => complaint

/-- Whether a path that cannot be followed for this reason leads nowhere. -/
def isAbsence : AccessError → Bool
  | missing | notDirectory | tooManyLinks | embeddedNull => true
  | isDirectory | nameTooLong | other _ => false

end AccessError

/-- What all paths lead to. -/
abbrev Storage (Content : Type) :=
  Path → Except AccessError (Resource Content)

namespace Storage

variable {Content : Type}

/-- Whether a path leads to something. -/
def exists? (storage : Storage Content) (path : Path) :
    Except AccessError Bool :=
  match storage path with
  | .ok _ => .ok true
  | .error error => if error.isAbsence then .ok false else .error error

/-- The content of the file that a path leads to. -/
def read (storage : Storage Content) (path : Path) :
    Except AccessError Content :=
  match storage path with
  | .ok (.file content) => .ok content
  | .ok .directory => .error .isDirectory
  | .ok (.closed complaint) => .error (.other complaint)
  | .error error => .error error

end Storage

end VulkanRegistry
