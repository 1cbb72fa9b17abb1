import Hypertag.Config.Validation
import Hypertag.Json.Reader
import Hypertag.Json.Writer
import Hypertag.Workspace.Basic

/-!
# Settings in files

Settings are kept as a JSON object. A file is read as UTF-8 text with any line ends. Saving writes the
document piece by piece, so a value without a JSON form leaves the file cut off before it.
-/

namespace Hypertag.Config

/-- Why a file holds no settings. -/
inductive Rejection where
  | notFound (path : Text)
  | notObject
  | json (e : Json.Error)
  | encoding (e : Encoding.Error)
  | invalid (problems : List Problem)
  deriving Repr

def Rejection.message : Rejection → Text
  | .notFound path => "Configuration file not found: " ++ path
  | .notObject => "Configuration root must be a JSON object"
  | .json (.malformed fault line column position) =>
      "Invalid JSON: " ++ (Json.Error.malformed fault line column position).message
  | .json e => "Validation error: " ++ e.message
  | .encoding e => "Validation error: " ++ e.message
  | .invalid problems => "Validation error: " ++ problemsMessage problems

/-- The names of a JSON object are texts. -/
def namedEntries (entries : List (Value × Value)) : List (Text × Value) :=
  entries.map fun (k, v) => (k.plain, v)

def ofDocument : Value → Except Rejection Config
  | .dict entries => (ofEntries (namedEntries entries)).mapError .invalid
  | _ => .error .notObject

def ofBytes (content : Bytes) : Except Rejection Config := do
  let t ← (Encoding.decode content).mapError .encoding
  let v ← (Json.read t.unifyNewlines).mapError .json
  ofDocument v

/-- What keeps a file from being checked at all. -/
inductive Obstacle where
  | file (e : FileError)
  | depth (container : Json.Container)
  deriving DecidableEq, Repr

def Obstacle.message : Obstacle → Text
  | .file e => e.message
  | .depth container => (Json.Error.tooDeep container).message

/-- Reads and checks a file. A fault of the file system other than absence is no rejection, nor is a
document that is nested too deep. -/
def check (w : Workspace) (p : Path) : Except Obstacle (Except Rejection Config) := do
  let there ← (w.exists? p).mapError fun fault => .file ⟨fault, p.text⟩
  if !there then return .error (.notFound p.text)
  let content ← (w.read p).mapError fun fault => .file ⟨fault, p.text⟩
  match ofBytes content with
  | .error (.json (.tooDeep container)) => .error (.depth container)
  | r => return r

/-- Whether a file holds settings: with the settings, or with a message that says why it does not. -/
structure Verdict where
  valid : Bool
  message : Option Text
  config : Option Config
  deriving DecidableEq, Repr

def Verdict.of : Except Rejection Config → Verdict
  | .ok c => ⟨true, none, some c⟩
  | .error rejection => ⟨false, some rejection.message, none⟩

def validate (w : Workspace) (p : Path) : Except Obstacle Verdict := (check w p).map .of

inductive SaveError where
  | file (e : FileError)
  | write (fault : Json.WriteFault)
  deriving DecidableEq, Repr

/-- Makes the directory, empties the file, and writes. The workspace is returned as the failure left
it. -/
def save (w : Workspace) (v : Value) (p : Path) : Except SaveError Unit × Workspace :=
  match w.makeDirectories p.parent with
  | (.error e, w) => (.error (.file e), w)
  | (.ok (), w) =>
      let emission := Json.write .unicode v
      match w.write p (Encoding.encode emission.text) with
      | .error fault => (.error (.file ⟨fault, p.text⟩), w)
      | .ok w => ((emission.result.map fun _ => ()).mapError .write, w)

end Hypertag.Config
