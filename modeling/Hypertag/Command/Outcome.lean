import Hypertag.Command.Manual
import Hypertag.Command.Options
import Hypertag.Scan.Basic
import Hypertag.Session

/-!
# How a command ends

A command prints its result, or halts before: with help, a complaint about its usage, a failure, or a
fault that nobody handles.
-/

namespace Hypertag.Command

inductive Crash where
  | file (e : FileError)
  | config (o : Config.Obstacle)
  | encoding (e : Encoding.Error)
  | level (e : Journal.LevelError)
  deriving DecidableEq, Repr

def Crash.message : Crash → Text
  | .file e => e.message
  | .config o => o.message
  | .encoding e => e.message
  | .level e => e.message

inductive Halt where
  /-- Asked for, and shown as output. -/
  | answer (t : Text)
  /-- Help instead of a complaint, when a group is called with nothing. -/
  | noArguments (v : Verb)
  | usage (v : Verb) (message : Text)
  /-- A complaint that belongs to no command. -/
  | option (message : Text)
  | failure (message : Text)
  | abort (message : Text)
  | crash (c : Crash)
  deriving DecidableEq, Repr

structure Outcome where
  exitCode : Nat
  stdout : Text
  stderr : Text
  crash : Option Crash
  deriving DecidableEq, Repr

/-- The codes that would colour or steer a terminal: an escape and a bracket, then parameters,
intermediate characters and one final character, each kind from a range of its own. -/
def terminalCode : Pattern :=
  let between (first last : Char) : CharTest := .oneOf [.range first last]
  let any (test : CharTest) : Node := .repeated (.one test) 0 none .greedy
  ⟨.sequence [.one (.exactly '\x1b'), .one (.exactly '['), any (between '0' '?'),
    any (between ' ' '/'), .one (between '@' '~')], []⟩

/-- A line for a person: messages may quote text that holds terminal codes. -/
def echo (t : Text) : Text := terminalCode.removeAll t ++ ['\n']

def errorLine (message : Text) : Text := echo ("Error: " ++ message)

def usageComplaint (root : Root) (v : Verb) (message : Text) : Text :=
  usageLine root v ++ "\nTry '" ++ v.path root ++ " --help' for help.\n\n" ++ errorLine message

/-- Exit code, output, and what is added to the console. -/
def Halt.end (root : Root) : Halt → Nat × Text × Text × Option Crash
  | .answer t => (0, t, [], none)
  | .noArguments v => (2, [], help root v, none)
  | .usage v message => (2, [], usageComplaint root v message, none)
  | .option message => (2, [], errorLine message, none)
  | .failure message => (1, [], errorLine message, none)
  | .abort message => (1, [], echo ("❌ Error: " ++ message) ++ "Aborted!\n", none)
  | .crash c => (1, [], [], some c)

def OptionFault.halt (v : Verb) : OptionFault → Halt
  | .noSuchOption name => .usage v ("No such option " ++ name.quoted ++ ".")
  | .needsValue name => .option ("Option " ++ name.quoted ++ " requires an argument.")
  | .takesNoValue name => .option ("Option " ++ name.quoted ++ " does not take a value.")

end Hypertag.Command
