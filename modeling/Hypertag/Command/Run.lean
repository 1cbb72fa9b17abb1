import Hypertag.Command.Arguments
import Hypertag.Json.Writer
import Hypertag.Selector.Document

/-!
# Running the program

A run reads its arguments, takes the settings, sets up the journal, and does what the command says. It
writes to a console of its own and leaves the journal empty, with no log file open.
-/

namespace Hypertag.Command

/-- A step of a run gives a value or halts, and leaves a session in either case. -/
abbrev Step (α : Type) := Except Halt α × Session

/-! ## Output -/

def selectorDocument (q : Query) : Value :=
  .dict ((.text "type", .text q.kindName) :: (.text "formatted", .text q.format) ::
    q.entries.map fun (name, v) => (.text name, v))

def selectorOutput (format : OutputFormat) (q : Query) : Text :=
  match format with
  | .text => q.describe ++ ['\n']
  | .json => (Json.write .ascii (selectorDocument q)).text ++ ['\n']

def segmentDocument (s : Template.Segment) : Value :=
  .dict [(.text "index", .int s.index), (.text "kind", .text s.kind.name),
    (.text "text", .text s.text)]

/-- One line, whatever the segment holds. -/
def segmentLine (s : Template.Segment) : Text :=
  '[' :: Text.ofNat s.index ++ "] " ++ s.kind.name ++ ": " ++ s.text.quoted ++ "\n"

def segmentsOutput (format : OutputFormat) (segments : List Template.Segment) : Text :=
  match format with
  | .text => segments.flatMap segmentLine
  | .json => (Json.write .unicode (.list (segments.map segmentDocument))).text ++ ['\n']

/-! ## Commands -/

def runParse (format : OutputFormat) (words : List Text) (s : Session) : Step Text :=
  match s.readQuery (.list (words.map .text)) with
  | (.ok q, s) => (.ok (selectorOutput format q), s)
  | (.error e, s) =>
      (.error (.abort e.message), s.note .error ("Failed to parse selector: " ++ e.message))

def runSplit (format : OutputFormat) (content : Bytes) (s : Session) : Step Text :=
  match Encoding.decode content with
  | .error e => (.error (.crash (.encoding e)), s)
  | .ok t =>
      match s.splitTemplate (.text t.unifyNewlines) with
      | (.ok texts, s) => (.ok (segmentsOutput format (Template.segmentsOf texts)), s)
      | (.error e, s) =>
          (.error (.abort e.message), s.note .error ("Failed to split template: " ++ e.message))

/-- A format given with the command wins over the one from the settings. -/
def runCommand (root : Root) (v : Verb) (config : Config) (stdin : Bytes) (arguments : List Text)
    (s : Session) : Step Text :=
  match v with
  | .split =>
      match readSplit root s.files stdin arguments with
      | .error halt => (.error halt, s)
      | .ok (format, content) => runSplit (format.getD config.outputFormat) content s
  | _ =>
      match readParse root arguments with
      | .error halt => (.error halt, s)
      | .ok (format, words) => runParse (format.getD config.outputFormat) words s

def runGroup (root : Root) (v : Verb) (config : Config) (stdin : Bytes) (arguments : List Text)
    (s : Session) : Step Text :=
  match reached root s.files v arguments with
  | .error halt => (.error halt, s)
  | .ok (member, arguments) => runCommand root member config stdin arguments s

/-! ## Settings -/

def loadConfig (w : Workspace) : Option Text → Except Halt Config
  | none => .ok .default
  | some t =>
      let p := Path.ofText t
      match Config.check w p with
      | .error obstacle => .error (.crash (.config obstacle))
      | .ok (.ok config) => .ok config
      | .ok (.error rejection) =>
          .error (.failure ("Failed to load config '" ++ p.text ++ "': " ++ rejection.message))

/-- Sets up the journal; `verbose` lowers the level to the least. -/
def configure (config : Config) (verbose : Bool) (s : Session) : Step Unit :=
  let level : LogLevel := if verbose then .debug else config.logLevel
  match s.setupLogging (.text level.name) config.logFile with
  | (.error (.file e), s) => (.error (.crash (.file e)), s)
  | (.error (.level e), s) => (.error (.crash (.level e)), s)
  | (.ok (), s) => (.ok (), s.note .debug ("Loaded configuration: " ++ config.toValue.display))

def runProgram (stdin : Bytes) (arguments : List Text) (s : Session) : Step Text :=
  let read := do
    let p ← readGroup .program s.files .program arguments
    let (group, rest) ← resolve .program s.files .program p.operands
    let config ← loadConfig s.files (p.value? .config)
    return (p.has .verbose, group, rest, config)
  match read with
  | .error halt => (.error halt, s)
  | .ok (verbose, group, rest, config) =>
      match configure config verbose s with
      | (.error halt, s) => (.error halt, s)
      | (.ok (), s) => runGroup .program group config stdin rest s

/-! ## Runs -/

def execute (root : Root) (stdin : Bytes) (arguments : List Text) (s : Session) : Step Text :=
  match root with
  | .program => runProgram stdin arguments s
  | .selector => runGroup .selector .selector .default stdin arguments s
  | .template => runGroup .template .template .default stdin arguments s

def run (root : Root) (stdin : Bytes) (arguments : List Text) (s : Session) : Outcome × Session :=
  let (result, after) :=
    execute root stdin arguments { s with console := .command, commandConsole := [] }
  let (exitCode, stdout, complaint, crash) :=
    match result with
    | .ok output => (0, output, [], none)
    | .error halt => halt.end root
  (⟨exitCode, stdout, after.commandConsole ++ complaint, crash⟩,
    { after with journal := .initial, streams := [], console := s.console, commandConsole := [] })

end Hypertag.Command
