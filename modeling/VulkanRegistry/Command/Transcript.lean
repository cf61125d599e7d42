import VulkanRegistry.Catalog.Group
import VulkanRegistry.Command.Config
import VulkanRegistry.Markup.Reader
import VulkanRegistry.Numeral

/-!
# Transcripts

A transcript is what a run prints and how it ends.  A run that meets a fault
fails with it, or, where the fault is one that is reported, prints the report
and ends with status 1.
-/

namespace VulkanRegistry

/-- What keeps a run from its end. -/
inductive Fault where
  | config (error : ConfigError)
  | access (path : Path) (error : AccessError)
  /-- The registry cannot be read as a document. -/
  | document (error : Markup.ReadError)
  | numeral (error : Numeral.Error)
  | group (error : GroupError)
  /-- The registry is given without a path. -/
  | bareRegistry
  /-- A detail is to be shown, but no group is given. -/
  | absentGroup
  /-- A group is given without a name. -/
  | bareGroup
  deriving DecidableEq, Repr

/-- The fault that a failure to set up is. -/
def Fault.ofSetupError : SetupError → Fault
  | .config error => config error
  | .access path error => access path error
  | .bareRegistry => bareRegistry

/-- How a run ends. -/
inductive Ending where
  | finished
  | exited (status : Nat)
  | failed (fault : Fault)
  deriving DecidableEq, Repr

/-- What a run prints and how it ends. -/
structure Transcript where
  output : String
  errors : String
  ending : Ending
  deriving DecidableEq, Repr

namespace Transcript

/-- The transcript in which a fault with a report does not end the run: the
report is printed, and the status is 1. -/
def reporting (report? : Fault → Option String) (transcript : Transcript) :
    Transcript :=
  match transcript.ending with
  | .failed fault =>
      match report? fault with
      | some report =>
          { transcript with
            output := transcript.output ++ report
            ending := .exited 1 }
      | none => transcript
  | _ => transcript

end Transcript

namespace Fault

/-- What a fault says of itself. -/
def message : Fault → String
  | config error => error.diagnostic.message
  | access path error => error.message path
  | document error => error.complaint
  | numeral error => error.message
  | group error => error.diagnostic.message
  | bareRegistry => "'list' object has no attribute 'exists'"
  | absentGroup => ""
  | bareGroup => "unhashable type: 'list'"

/-- The report of a fault met before the command is carried out. -/
def setupReport? : Fault → Option String
  | config error => some error.diagnostic.report
  | _ => none

/-- The report of a fault met while the command is carried out.  A number that
is no numeral, a path with a null character, an encoding that is unknown or
unusable and a group without a name are not reported. -/
def runReport? : Fault → Option String
  | group error => some error.diagnostic.report
  | access _ .embeddedNull => none
  | access path error => some s!"Error: {(access path error).message}\n"
  | document (.malformed complaint) => some s!"Error: {complaint}\n"
  | _ => none

end Fault

end VulkanRegistry
