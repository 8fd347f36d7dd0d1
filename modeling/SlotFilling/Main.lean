import SlotFilling.CommandLine.Run
import Std.Time.Zoned

/-!
# The program

Opens the files that the arguments name, lets the library compute the run, and
carries out its effects.
-/
namespace SlotFilling

/-- The wording of a failure to open or write a file. -/
def openingFault : IO.Error → String
  | .noFileOrDirectory .. => "No such file or directory (os error 2)"
  | .permissionDenied .. => "Permission denied (os error 13)"
  | .inappropriateType .. => "Is a directory (os error 21)"
  | fault => toString fault

/-- The value of an action, or the wording of its failure. -/
def attempted {α : Type} (action : IO α) : IO (Except String α) := do
  match ← action.toBaseIO with
  | .ok value => return .ok value
  | .error fault => return .error (openingFault fault)

/-- The entries of a folder with everything below them, in the order of the file system. -/
partial def readFolder (folder : String) : IO (List (String × FileTree)) := do
  let entries ← (← IO.FS.realPath folder).readDir
  entries.toList.mapM fun entry => do
    if ← entry.path.isDir then
      return (entry.fileName, .folder (← readFolder entry.path.toString))
    else return (entry.fileName, .file (← IO.FS.readBinFile entry.path).toList)

/-- Read what a path names; nothing is read where no path is given. -/
def readSource {α : Type} (read : String → IO (List α)) (path : Option String) :
    IO (Except String (List α)) :=
  match path with
  | some path => attempted (read path)
  | none => return .ok []

/-- Carry out effects until one fails. -/
def perform : List CommandLine.Effect → IO (Option String)
  | [] => return none
  | .print line :: rest => do
    IO.println line
    perform rest
  | .note line :: rest => do
    IO.eprintln line
    perform rest
  | .save path content :: rest => do
    match ← attempted (IO.FS.writeFile path content.pretty) with
    | .ok () => perform rest
    | .error fault => return some fault

/-- Run with arguments that can be used. -/
def runWith (arguments : CommandLine.Arguments) : IO UInt32 := do
  let lexicon ← readSource (fun path => return (← IO.FS.readBinFile path).toList) arguments.lexicon
  let rules ← readSource readFolder arguments.rules
  let today ← Std.Time.PlainDate.now
  let run := arguments.run ⟨lexicon, rules⟩ today.year
  match (← perform run.effects).or run.failure with
  | some reason =>
    IO.eprintln ("Error: " ++ reason)
    return 1
  | none => return 0

end SlotFilling

/-- Slot filling on the command line. -/
def main (words : List String) : IO UInt32 := do
  match SlotFilling.CommandLine.Request.ofWords? words with
  | some (.run arguments) => SlotFilling.runWith arguments
  | some .version =>
    IO.println SlotFilling.CommandLine.versionLine
    return 0
  | some .help =>
    SlotFilling.CommandLine.usage.forM (IO.println ·)
    return 0
  | none =>
    IO.eprintln "error: unusable arguments\n\nFor more information, try '--help'."
    return 2
