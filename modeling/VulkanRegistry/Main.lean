import VulkanRegistry.Command.Program
import VulkanRegistry.Markup.Document

/-!
# The command line

The one file that a command line names is read, and all else is settled without
further input.  A file whose bytes are not UTF-8 is taken for malformed,
whatever encoding it declares.
-/

namespace VulkanRegistry

/-- The number of a failed system call, which is given with either sign. -/
def systemErrorNumber (code : UInt32) : Nat :=
  min code.toNat (0 - code).toNat

/-- Reads the bytes of a document. -/
def readBytes : Markup.Reader ByteArray := fun bytes =>
  match String.fromUTF8? bytes with
  | some text => Markup.readDocument "not well-formed" text
  | none => .error (.malformed "not well-formed")

/-- What a path leads to on the disk. -/
def onDisk (path : Path) : IO (Except AccessError (Resource ByteArray)) := do
  if path.toString.toList.contains '\x00' then
    return .error .embeddedNull
  try
    return .ok (.file (← IO.FS.readBinFile path.toString))
  catch error =>
    match error with
    | .noFileOrDirectory .. => return .error .missing
    | .inappropriateType _ code _ =>
        if systemErrorNumber code = 21 then return .ok .directory
        else return .error .notDirectory
    | .invalidArgument _ code _ =>
        match systemErrorNumber code with
        | 36 => return .error .nameTooLong
        | 40 => return .error .tooManyLinks
        | _ => return .error (.other (toString error))
    | _ =>
        -- A path that can be followed to its end leads to something.
        try
          discard <| IO.FS.realPath path.toString
          return .ok (.closed (toString error))
        catch _ => return .error (.other (toString error))

/-- A storage that knows of no path but one. -/
def Storage.single {Content : Type} (path : Path)
    (found : Except AccessError (Resource Content)) : Storage Content :=
  fun other => if other = path then found else .error .missing

/-- The storage that a command line needs. -/
def storageFor (home : Path) (line : List String) :
    IO (Storage ByteArray) := do
  match Arguments.parse (Program.defaultRegistry home) line with
  | .ok { registry := .value path, .. } =>
      return .single path (← onDisk path)
  | _ => return fun _ => .error .missing

end VulkanRegistry

open VulkanRegistry in
/-- Obeys the command line and gives the status of the program. -/
def main (line : List String) : IO UInt32 := do
  let home := Path.ofString (← IO.appDir).toString
  let transcript :=
    Program.run readBytes home (← storageFor home line) line
  IO.print transcript.output
  IO.eprint transcript.errors
  match transcript.ending with
  | .finished => return 0
  | .exited status => return status.toUInt32
  | .failed fault =>
      IO.eprintln fault.message
      return 1
