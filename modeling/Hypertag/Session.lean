import Hypertag.Config.File
import Hypertag.Journal.Basic
import Hypertag.Selector.Reading
import Hypertag.Template.Segment

/-!
# Sessions

A session holds what outlives a single operation: the files, the journal with the log files that are
open, and what has been written to the consoles. Operations are functions from a session to a result
and the session after it, also when they fail.
-/

namespace Hypertag

open Journal (Console Handler Record)

structure Session where
  files : Workspace
  journal : Journal
  /-- The log files that are open, a file once for each time it was opened. -/
  streams : List Place
  /-- What a person at each console has seen. -/
  sessionConsole : Text
  commandConsole : Text
  /-- The console in use. -/
  console : Console
  deriving DecidableEq, Repr

namespace Session

def initial (files : Workspace) : Session := ⟨files, .initial, [], [], [], .session⟩

def print (s : Session) (c : Console) (t : Text) : Session :=
  match c with
  | .session => { s with sessionConsole := s.sessionConsole ++ t }
  | .command => { s with commandConsole := s.commandConsole ++ t }

/-- What the session's console shows so far, which is then cleared. -/
def takeConsole (s : Session) : Text × Session :=
  (s.sessionConsole, { s with sessionConsole := [] })

/-! ## Records -/

def deliver (s : Session) (line : Text) : Handler → Session
  | .console c => s.print c (line ++ ['\n'])
  | .file place => { s with files := s.files.append place (Encoding.encode (line ++ ['\n'])) }
  | .foreign => s

/-- A record that passes the level goes to every handler, with one copy to each. Without any handler,
a record of the default level or above is shown bare on the console in use. Records whose level is not
positive pass no level. -/
def log (s : Session) (logger : Text) (r : Record) : Session :=
  let inPackage := Journal.isPackageLogger logger
  let level := if inPackage then s.journal.effectiveLevel else Journal.defaultLevel
  let handlers := if inPackage then s.journal.handlers else []
  if r.level ≤ 0 ∨ r.level < level then s
  else if handlers.isEmpty then
    if Journal.defaultLevel ≤ r.level then s.print s.console (r.message ++ ['\n']) else s
  else handlers.foldl (fun s h => s.deliver r.line h) s

/-- Notes of the package itself. -/
def note (s : Session) (level : LogLevel) (message : Text) : Session :=
  s.log Journal.packageName (.ofLevel level.severity message .null)

/-! ## Setting up -/

inductive SetupError where
  | file (e : FileError)
  | level (e : Journal.LevelError)
  deriving DecidableEq, Repr

/-- The absolute form of a path. -/
def absolute (s : Session) (p : Path) : Text :=
  let root := if p.root.isEmpty then ['/'] else p.root
  root ++ Text.join ['/'] (p.collapse s.files.home)

/-- Takes the journal's own handlers away and closes the files that they hold open. -/
def release (s : Session) : Session :=
  { s with journal := s.journal.withoutOwn, streams := s.journal.places.foldl List.erase s.streams }

/-- Opens the log file, with the directories that lead to it. -/
def openLog (s : Session) (file : Text) : Except FileError Place × Session :=
  let p := Path.ofText file
  match s.files.makeDirectories p.parent with
  | (.error e, files) => (.error e, { s with files })
  | (.ok (), files) =>
      match files.openAppend p with
      | .error fault => (.error ⟨fault, s.absolute p⟩, { s with files })
      | .ok (place, files) => (.ok place, { s with files, streams := place :: s.streams })

/-- Takes the new handlers into use, then sets the level, which may still fail. -/
def install (s : Session) (hs : List Handler) (level : Value) : Except SetupError Unit × Session :=
  let s := { s with journal := s.journal.attach hs }
  match Journal.readLevel level with
  | .error e => (.error (.level e), s)
  | .ok n => (.ok (), { s with journal := { s.journal with level := n } })

/-- Replaces the journal's own handlers by one for the console in use and, when a file is given, one
for it. The old ones are gone, and closed, before anything can fail. -/
def setupLogging (s : Session) (level : Value) (file : Option Text) :
    Except SetupError Unit × Session :=
  let s := s.release
  match file with
  | none => s.install [.console s.console] level
  | some file =>
      match s.openLog file with
      | (.error e, s) => (.error (.file e), s)
      | (.ok place, s) => s.install [.console s.console, .file place] level

def addForeignHandler (s : Session) : Session :=
  { s with journal := s.journal.attach [.foreign] }

/-! ## Reading with notes -/

def noteQuery (s : Session) (v : Value) : Except SelectorError Query → Session
  | .ok q =>
      match Query.note? v q with
      | some t => s.note .debug t
      | none => s
  | .error _ => s

def readQuery (s : Session) (v : Value) : Except SelectorError Query × Session :=
  let r := Query.ofValue v
  (r, s.noteQuery v r)

/-- Only a text is read on the way to a list. -/
def readList (s : Session) (v : Value) : Except SelectorError SelectorList × Session :=
  match v with
  | .text _ => (SelectorList.ofValue v, s.noteQuery v (Query.ofValue v))
  | v => (SelectorList.ofValue v, s)

def splitTemplate (s : Session) (v : Value) : Except Template.TemplateError (List Text) × Session :=
  match Template.splitValue v, v with
  | .ok texts, .text t => (.ok texts, s.note .debug (Template.note t texts))
  | r, _ => (r, s)

/-! ## Files -/

def saveConfig (s : Session) (v : Value) (p : Path) : Except Config.SaveError Unit × Session :=
  let (r, files) := Config.save s.files v p
  (r, { s with files })

end Session

end Hypertag
