import Hypertag.Journal.Layout
import Hypertag.Workspace.Basic

/-!
# The journal

The journal of a package has a level and handlers, to which records of its loggers go in order. Some
handlers are its own: they write to a console or behind the content of a file, and are replaced when
logging is set up again. Others are foreign and drop every record.
-/

namespace Hypertag.Journal

/-- The console of the session, or of the command that is running in it. -/
inductive Console where
  | session
  | command
  deriving DecidableEq, Repr

inductive Handler where
  | console (console : Console)
  | file (place : Place)
  | foreign
  deriving DecidableEq, Repr

namespace Handler

def isOwn : Handler → Bool
  | .foreign => false
  | _ => true

def name : Handler → Text
  | .console _ => "stream"
  | .file _ => "file"
  | .foreign => "other"

/-- What a handler holds open; a console needs no closing. -/
def place? : Handler → Option Place
  | .file place => some place
  | _ => none

end Handler

/-- A level is a number, or a truth value that counts as one. -/
inductive Level where
  | number (n : Int)
  | flag (b : Bool)
  deriving DecidableEq, Repr

def Level.toInt : Level → Int
  | .number n => n
  | .flag b => if b then 1 else 0

end Journal

/-- A level of zero leaves the choice to the default. -/
structure Journal where
  level : Journal.Level
  handlers : List Journal.Handler
  deriving DecidableEq, Repr

namespace Journal

def initial : Journal := ⟨.number 0, []⟩

def defaultLevel : Int := 30

def effectiveLevel (j : Journal) : Int :=
  if j.level.toInt = 0 then defaultLevel else j.level.toInt

/-- The loggers of the package are the one of its name and those below it. -/
def isPackageLogger (name : Text) : Bool :=
  name == packageName || (packageName ++ ['.']).isPrefixOf name

def withoutOwn (j : Journal) : Journal := { j with handlers := j.handlers.filter (!·.isOwn) }

/-- The files that the handlers hold open. -/
def places (j : Journal) : List Place := j.handlers.filterMap Handler.place?

def attach (j : Journal) (hs : List Handler) : Journal := { j with handlers := j.handlers ++ hs }

inductive LevelError where
  | unknownName (name : Text)
  | notLevel (shown : Text)
  deriving DecidableEq, Repr

def LevelError.message : LevelError → Text
  | .unknownName name => "Unknown level: " ++ name.quoted
  | .notLevel shown => "Level not an integer or a valid string: " ++ shown

/-- A level may also be given by its name, in any case. -/
def readLevel (v : Value) : Except LevelError Level :=
  match v with
  | .int n => .ok (.number n)
  | .bool b => .ok (.flag b)
  | .text t =>
      match levelNumber? t.upper with
      | some n => .ok (.number n)
      | none => .error (.unknownName t.upper)
  | v => .error (.notLevel v.display)

end Journal

end Hypertag
