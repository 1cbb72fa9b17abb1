import Hypertag.Config.Basic
import Hypertag.Text.Blank
import Hypertag.Text.Letters

/-!
# Checking settings

Settings come as named values of any kind. Levels and formats are known by name, whatever the case
and the blanks around. All faults are reported together: those of the fields in their order, then the
names that no field has.
-/

namespace Hypertag

namespace Config

inductive Complaint where
  | notText
  | unknownField
  | level (given : Text)
  | format (given : Text)
  deriving DecidableEq, Repr

namespace Complaint

def levelNames : Text := Text.join ", " (LogLevel.all.map LogLevel.name)

def message : Complaint → Text
  | .notText => "Input should be a valid string"
  | .unknownField => "Extra inputs are not permitted"
  | .level given =>
      "Value error, log_level must be one of " ++ levelNames ++ ", got: " ++ given
  | .format given => "Value error, output_format must be 'text' or 'json', got: " ++ given

def category : Complaint → Text
  | .notText => "string_type"
  | .unknownField => "extra_forbidden"
  | .level _ | .format _ => "value_error"

end Complaint

/-- A field, what is wrong with it, and the value it was given. -/
structure Problem where
  field : Text
  complaint : Complaint
  input : Value
  deriving Repr

/-! ## Messages -/

/-- A displayed value may have this many bytes before it is shortened. -/
def shownBytes : Nat := 50

/-- As many leading characters as fit into `n` bytes. -/
def takeBytes : Nat → Text → Text
  | _, [] => []
  | n, c :: rest =>
      let size := (Encoding.encodeChar c).length
      if size ≤ n then c :: takeBytes (n - size) rest else []

/-- As many trailing characters as fit into `n` bytes. -/
def takeLastBytes (n : Nat) (t : Text) : Text := (takeBytes n t.reverse).reverse

def shorten (t : Text) : Text :=
  if (Encoding.encode t).length ≤ shownBytes then t
  else takeBytes 25 t ++ "...".toList ++ takeLastBytes 24 t

/-- A dot separates levels in field names, so a name that holds one is set off. -/
def fieldText (t : Text) : Text := if t.contains '.' then '\x60' :: t ++ ['\x60'] else t

def Problem.message (p : Problem) : Text :=
  fieldText p.field ++ "\n  " ++ p.complaint.message ++ " [type=" ++ p.complaint.category ++
    ", input_value=" ++ shorten p.input.display ++ ", input_type=" ++ p.input.typeName ++ "]"

def problemsMessage (ps : List Problem) : Text :=
  let count := Text.ofNat ps.length
  let noun : Text := if ps.length = 1 then "error" else "errors"
  Text.join ['\n'] ((count ++ " validation " ++ noun ++ " for ToolConfig") :: ps.map Problem.message)

/-! ## Fields -/

def readLevel (v : Value) : Except Complaint LogLevel :=
  match v with
  | .text t =>
      match LogLevel.ofName? t.strip.upper with
      | some l => .ok l
      | none => .error (.level t)
  | _ => .error .notText

/-- Lower case of ASCII letters is enough: no other character has a letter of a format's name as its
lower case. -/
def readFormat (v : Value) : Except Complaint OutputFormat :=
  match v with
  | .text t =>
      match OutputFormat.ofName? t.strip.lowerAscii with
      | some f => .ok f
      | none => .error (.format t)
  | _ => .error .notText

def readLogFile (v : Value) : Except Complaint (Option Text) :=
  match v with
  | .text t => .ok (some t)
  | .null => .ok none
  | _ => .error .notText

/-- A field that is absent keeps its default. -/
def readField (data : List (Text × Value)) (name : Text) (default : α)
    (read : Value → Except Complaint α) : Except Problem α :=
  match data.lookup name with
  | none => .ok default
  | some v => (read v).mapError fun complaint => ⟨name, complaint, v⟩

def problemOf : Except Problem α → List Problem
  | .ok _ => []
  | .error p => [p]

def fieldNames : List Text := ["log_level", "log_file", "output_format"]

def unknownFields (data : List (Text × Value)) : List Problem :=
  (data.filter fun (name, _) => !fieldNames.contains name).map fun (name, v) =>
    ⟨name, .unknownField, v⟩

def ofEntries (data : List (Text × Value)) : Except (List Problem) Config :=
  let level := readField data "log_level" Config.default.logLevel readLevel
  let file := readField data "log_file" Config.default.logFile readLogFile
  let format := readField data "output_format" Config.default.outputFormat readFormat
  match level, file, format, unknownFields data with
  | .ok level, .ok file, .ok format, [] => .ok ⟨level, file, format⟩
  | level, file, format, unknown =>
      .error (problemOf level ++ problemOf file ++ problemOf format ++ unknown)

end Config

end Hypertag
