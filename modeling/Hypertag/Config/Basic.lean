import Hypertag.Value

/-!
# Settings

What can be configured: how important a record must be to be logged, a file for the log, and the form
of the output.
-/

namespace Hypertag

inductive LogLevel where
  | debug
  | info
  | warning
  | error
  | critical
  deriving DecidableEq, Repr

namespace LogLevel

def all : List LogLevel := [debug, info, warning, error, critical]

def name : LogLevel → Text
  | .debug => "DEBUG"
  | .info => "INFO"
  | .warning => "WARNING"
  | .error => "ERROR"
  | .critical => "CRITICAL"

def severity : LogLevel → Int
  | .debug => 10
  | .info => 20
  | .warning => 30
  | .error => 40
  | .critical => 50

/-- From zero to ten. -/
def importance : LogLevel → Nat
  | .debug => 2
  | .info => 4
  | .warning => 6
  | .error => 8
  | .critical => 10

def ofName? (t : Text) : Option LogLevel := all.find? (·.name == t)

@[simp] theorem ofName?_name (l : LogLevel) : ofName? l.name = some l := by cases l <;> decide

end LogLevel

inductive OutputFormat where
  | text
  | json
  deriving DecidableEq, Repr

namespace OutputFormat

def all : List OutputFormat := [text, json]

def name : OutputFormat → Text
  | .text => "text"
  | .json => "json"

def ofName? (t : Text) : Option OutputFormat := all.find? (·.name == t)

@[simp] theorem ofName?_name (f : OutputFormat) : ofName? f.name = some f := by cases f <;> decide

end OutputFormat

structure Config where
  logLevel : LogLevel
  logFile : Option Text
  outputFormat : OutputFormat
  deriving DecidableEq, Repr

namespace Config

def default : Config := ⟨.warning, none, .text⟩

def entries (c : Config) : List (Text × Value) :=
  [("log_level", .text c.logLevel.name), ("log_file", (c.logFile.map Value.text).getD .null),
    ("output_format", .text c.outputFormat.name)]

/-- The settings as a dictionary, in the order of the fields. -/
def toValue (c : Config) : Value := .dict (c.entries.map fun (name, v) => (.text name, v))

end Config

end Hypertag
