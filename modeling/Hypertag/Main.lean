import Hypertag.Command.Run

/-!
# The command line

Brings the files that the arguments name into a workspace, runs the program on it, writes back what
changed, and prints.
-/

namespace Hypertag.CommandLine

def stringOf (t : Text) : String := String.ofList t

/-- The text of an absolute place. -/
def absoluteText (place : Place) : String := stringOf ('/' :: Text.join ['/'] place)

/-- What is on disk at a place. -/
def diskEntry? (place : Place) : IO (Option Entry) := do
  let path := (← IO.currentDir) / absoluteText place
  if ← path.isDir then return some .directory
  if ← path.pathExists then return some (.file (← IO.FS.readBinFile path).toList)
  return none

/-- Brings what is on disk along a path into the workspace. -/
def bringIn (w : Workspace) (name : Text) : IO Workspace := do
  let p := Path.ofText name
  if p.hasNul then return w
  let mut w := w
  for count in List.range (p.parts.length + 1) do
    let place := (Path.mk p.root (p.parts.take count)).collapse w.home
    match ← diskEntry? place with
    | some entry => w := w.set place entry
    | none => return w
  return w

/-- The log files that the settings in the workspace name. -/
def logFiles (w : Workspace) : List Text :=
  w.entries.filterMap fun
    | (_, .file content) => (Config.ofBytes content).toOption.bind (·.logFile)
    | _ => none

def writeBack (before after : Workspace) : IO Unit := do
  for (place, entry) in after.entries do
    if before.entries.lookup place != some entry then
      match entry with
      | .directory => IO.FS.createDirAll (absoluteText place)
      | .file content => IO.FS.writeBinFile (absoluteText place) (ByteArray.mk content.toArray)

partial def readAll (input : IO.FS.Stream) (done : ByteArray) : IO ByteArray := do
  let more ← input.read 65536
  if more.isEmpty then return done else readAll input (done ++ more)

def print (output : IO.FS.Stream) (t : Text) : IO Unit := do
  output.putStr (stringOf t)
  output.flush

def run (words : List String) : IO UInt32 := do
  let arguments : List Text := words.map String.toList
  let home := (Path.ofText (← IO.currentDir).toString.toList).parts
  let named ← (Command.fileNames arguments).foldlM bringIn (.empty home)
  let files ← (logFiles named).foldlM bringIn named
  let input ←
    if Command.readsInput .program files arguments then readAll (← IO.getStdin) .empty
    else pure .empty
  let (outcome, session) := Command.run .program input.toList arguments (.initial files)
  writeBack files session.files
  print (← IO.getStdout) outcome.stdout
  print (← IO.getStderr) outcome.stderr
  match outcome.crash with
  | some crash => print (← IO.getStderr) (crash.message ++ ['\n'])
  | none => pure ()
  return UInt32.ofNat outcome.exitCode

end Hypertag.CommandLine

def main (words : List String) : IO UInt32 := Hypertag.CommandLine.run words
