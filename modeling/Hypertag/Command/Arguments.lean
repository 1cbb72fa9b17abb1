import Hypertag.Command.Outcome

/-!
# What the arguments of each command mean

Faults of the option syntax come first, then a call for help, then the values in the order in which
their options were given, then the operands.
-/

namespace Hypertag.Command

inductive Key where
  | config
  | verbose
  | version
  | help
  | format
  deriving DecidableEq, Repr

def helpSpec : OptionSpec Key := ⟨.help, "--help", none, false⟩

def Verb.specs : Verb → List (OptionSpec Key)
  | .program =>
      [⟨.config, "--config", some 'C', true⟩, ⟨.verbose, "--verbose", some 'v', false⟩,
        ⟨.version, "--version", none, false⟩, helpSpec]
  | .selector | .template => [helpSpec]
  | .parse | .split => [⟨.format, "--format", some 'f', true⟩, helpSpec]

/-- A group's options end at the name of the command. -/
def Verb.isGroup (v : Verb) : Bool := !v.members.isEmpty

/-- Help and version are given at once, whichever is asked for first. -/
def shown? (root : Root) (v : Verb) : List (Key × Text) → Option Halt
  | [] => none
  | (.help, _) :: _ => some (.answer (help root v))
  | (.version, _) :: _ => some (.answer versionLine)
  | _ :: rest => shown? root v rest

def readOptions (root : Root) (v : Verb) (arguments : List Text) : Except Halt (Parsed Key) := do
  if v.isGroup && arguments.isEmpty then .error (.noArguments v)
  let p ← (parse v.specs (!v.isGroup) arguments).mapError (OptionFault.halt v)
  match shown? root v p.options with
  | some halt => .error halt
  | none => return p

/-- A configuration file may be missing so far, but must not be a directory. A path that is too long as
it stands cannot be looked at, which is no fault yet. -/
def checkConfigPath (w : Workspace) (t : Text) : Except Halt Unit :=
  let p := Path.ofText t
  if p.hasNul then .error (.crash (.file ⟨.nulByte, t⟩))
  else if !t.isEmpty && !Workspace.isTooLong t && w.isDirectory p then
    .error (.usage .program
      ("Invalid value for '--config' / '-C': File " ++ t.quoted ++ " is a directory."))
  else .ok ()

/-- The options of a group, and the name of the command with its arguments. -/
def readGroup (root : Root) (w : Workspace) (v : Verb) (arguments : List Text) :
    Except Halt (Parsed Key) := do
  let p ← readOptions root v arguments
  match p.value? .config with
  | some t => checkConfigPath w t
  | none => pure ()
  return p

/-- The command that a group's operands name. An unknown name that looks like an option is first read
as one. -/
def resolve (root : Root) (w : Workspace) (v : Verb) (operands : List Text) :
    Except Halt (Verb × List Text) := do
  match operands with
  | [] => .error (.usage v "Missing command.")
  | name :: arguments =>
      match v.member? name with
      | some member => return (member, arguments)
      | none => do
          if isOption name then
            let _ ← readGroup root w v operands
          .error (.usage v ("No such command " ++ name.quoted ++ "."))

def readFormat (v : Verb) (p : Parsed Key) : Except Halt (Option OutputFormat) :=
  match p.value? .format with
  | none => .ok none
  | some t =>
      match OutputFormat.ofName? t with
      | some f => .ok (some f)
      | none =>
          .error (.usage v ("Invalid value for '--format' / '-f': " ++ t.quoted ++
            " is not one of 'text', 'json'."))

def readParse (root : Root) (arguments : List Text) :
    Except Halt (Option OutputFormat × List Text) := do
  let p ← readOptions root .parse arguments
  let format ← readFormat .parse p
  if p.operands.isEmpty then .error (.usage .parse "Missing argument 'SELECTOR_TEXT...'.")
  return (format, p.operands)

/-- A path written as that of a directory: through a file it leads nowhere. -/
def namesDirectory (t : Text) : Bool :=
  t.getLast? == some '/' || ['.', '/'].isPrefixOf t.reverse

/-- The bytes of a source: the standard input for `-`, else a file. -/
def readSource (w : Workspace) (stdin : Bytes) (t : Text) : Except Halt Bytes :=
  if t = ['-'] then .ok stdin
  else
    let fault (f : FileFault) : Halt :=
      if f = .nulByte then .crash (.file ⟨f, t⟩)
      else .usage .split ("Invalid value for '[SOURCE]': '" ++ t ++ "': " ++ f.reason)
    if t.isEmpty then .error (fault .notFound)
    else if !t.contains '\x00' && Workspace.isTooLong t then .error (fault .nameTooLong)
    else
      match w.read (Path.ofText t) with
      | .error f => .error (fault f)
      | .ok content => if namesDirectory t then .error (fault .notDirectory) else .ok content

def extraOperands (operands : List Text) : Text :=
  let noun : Text := if operands.length = 1 then "argument" else "arguments"
  "Got unexpected extra " ++ noun ++ " (" ++ Text.join [' '] operands ++ ")"

def readSplit (root : Root) (w : Workspace) (stdin : Bytes) (arguments : List Text) :
    Except Halt (Option OutputFormat × Bytes) := do
  let p ← readOptions root .split arguments
  let format ← readFormat .split p
  let content ← readSource w stdin (p.operands.head?.getD ['-'])
  match p.operands.drop 1 with
  | [] => return (format, content)
  | extra => .error (.usage .split (extraOperands extra))

/-! ## What a run needs from outside -/

/-- The texts among the arguments that may name files: arguments, and values attached to them. -/
def fileNames (arguments : List Text) : List Text :=
  arguments.flatMap fun a => a :: a.drop 2 :: (splitAttached a).2.toList

def reached (root : Root) (w : Workspace) (v : Verb) (arguments : List Text) :
    Except Halt (Verb × List Text) := do
  let p ← readGroup root w v arguments
  resolve root w v p.operands

/-- Whether a run comes to read the standard input. -/
def readsInput (root : Root) (w : Workspace) (arguments : List Text) : Bool :=
  let operands := do
    let (group, arguments) ←
      match root with
      | .program => reached root w .program arguments
      | .selector => .ok (.selector, arguments)
      | .template => .ok (.template, arguments)
    let (v, arguments) ← reached root w group arguments
    let p ← readOptions root v arguments
    return (v, p.operands.head?.getD ['-'])
  match operands with
  | .ok (.split, source) => source == ['-']
  | _ => false

end Hypertag.Command
