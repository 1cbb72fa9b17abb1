import Hypertag.Config.Basic
import Hypertag.Text.Blank
import Hypertag.Text.Letters

/-!
# Log records

A record has a level, a number with a name for some values, and an importance from zero to ten, which
is given with the record or follows from the name of its level.
-/

namespace Hypertag.Journal

/-- The names of levels. Where several stand for one number, the first is shown. -/
def levelNames : List (Text × Int) :=
  [("NOTSET", 0), ("DEBUG", 10), ("INFO", 20), ("WARNING", 30), ("WARN", 30), ("ERROR", 40),
    ("CRITICAL", 50), ("FATAL", 50)]

def levelNumber? (name : Text) : Option Int := levelNames.lookup name

def levelName (level : Int) : Text :=
  match levelNames.find? fun (_, n) => n = level with
  | some (name, _) => name
  | none => "Level " ++ Text.ofInt level

/-- The importance of records whose level has none of its own. -/
def commonImportance : Nat := 4

/-- By the name of a level, whatever its case and the blanks around it. -/
def importanceOfName (name : Text) : Nat :=
  ((LogLevel.ofName? name.strip.upper).map LogLevel.importance).getD commonImportance

/-- A value that has nothing to be stripped of blanks. -/
structure NotText where
  typeName : Text
  deriving DecidableEq, Repr

/-- Bytes are never the name of a level; whatever is false counts as no name at all. -/
def importanceOfValue (v : Value) : Except NotText Nat :=
  match v with
  | .text t => .ok (importanceOfName t)
  | .bytes _ => .ok commonImportance
  | v => if v.truthy then .error ⟨v.typeName⟩ else .ok commonImportance

structure Record where
  level : Int
  levelName : Text
  message : Text
  /-- Given with the record; null when it was not. -/
  importance : Value
  /-- Seconds since the start of 1970. -/
  created : Int
  deriving Repr

namespace Record

/-- A record of a run, made at the start of 1970, so that a log depends on nothing but the run. -/
def ofLevel (level : Int) (message : Text) (importance : Value) : Record :=
  ⟨level, Journal.levelName level, message, importance, 0⟩

def ranked (r : Record) : Value :=
  match r.importance with
  | .null => .int (importanceOfName r.levelName)
  | v => v

end Record

end Hypertag.Journal
