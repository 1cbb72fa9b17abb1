import Hypertag.Text.Basic

/-!
# Commands and their help

The program has two groups of commands with one command each. Either group can also be run on its own,
under the program's name.
-/

namespace Hypertag.Command

inductive Verb where
  | program
  | selector
  | template
  | parse
  | split
  deriving DecidableEq, Repr

/-- What is run: the whole program, or one of its groups. -/
inductive Root where
  | program
  | selector
  | template
  deriving DecidableEq, Repr

def programName : Text := "tag_tools"

def version : Text := "1.0.0"

/-- The names under which the library's types and functions are known, in their order. -/
def exports : List Text :=
  ["DanglingCombinatorError", "Segment", "SegmentKind", "Selector", "SelectorKind", "SelectorList",
    "SelectorParseError", "SelectorTypeError", "TagToolsError", "TemplateError", "TemplateTypeError",
    "Traversal", "UnsupportedTokenError", "UnterminatedCodeBlockError", "as_selector_list",
    "format_selector", "is_selector", "is_selector_list", "iter_segments", "parse_selector",
    "split_template"]

def versionLine : Text := programName ++ ", version " ++ version ++ "\n"

namespace Verb

def name : Verb → Text
  | .program => programName
  | .selector => "selector"
  | .template => "template"
  | .parse => "parse"
  | .split => "split"

def group? : Verb → Option Verb
  | .parse => some .selector
  | .split => some .template
  | _ => none

/-- The commands of a group, in the order of their names. -/
def members : Verb → List Verb
  | .program => [.selector, .template]
  | .selector => [.parse]
  | .template => [.split]
  | _ => []

def member? (v : Verb) (name : Text) : Option Verb := v.members.find? (·.name == name)

/-- The words that call a command. -/
def path (root : Root) (v : Verb) : Text :=
  let words : List Text :=
    match root, v with
    | _, .program => []
    | .program, .selector | .program, .template => [v.name]
    | _, .selector | _, .template => []
    | .program, v => [(v.group?.getD .program).name, v.name]
    | _, v => [v.name]
  Text.join [' '] (programName :: words)

def usage : Verb → Text
  | .parse => "[OPTIONS] SELECTOR_TEXT..."
  | .split => "[OPTIONS] [SOURCE]"
  | _ => "[OPTIONS] COMMAND [ARGS]..."

def summary : Verb → Text
  | .program => "Tag tools - parse CSS selectors and split `\x7b\x7b \x7d\x7d` templates."
  | .selector => "CSS selector commands."
  | .template => "`\x7b\x7b \x7d\x7d` template commands."
  | .parse => "Parse a CSS selector and print its canonical form."
  | .split => "Split a template file (or stdin) into literal and code segments."

def explanation : Verb → List Text
  | .parse =>
      ["", "Several arguments are joined with spaces, so shell-split selectors such as",
        "`div > span` do not need quoting."]
  | _ => []

def optionRows : Verb → List (Text × Text)
  | .program =>
      [("-C, --config FILE", "Path to config.json"), ("-v, --verbose", "Enable debug logging"),
        ("--version", "Show the version and exit."), ("--help", "Show this message and exit.")]
  | .selector | .template => [("--help", "Show this message and exit.")]
  | .parse | .split =>
      [("-f, --format [text|json]", "Output format (default: from config, else text)"),
        ("--help", "Show this message and exit.")]

end Verb

/-! ## Help texts -/

/-- Indents by two; an empty line stays empty. -/
def indented (line : Text) : Text := if line.isEmpty then [] else ' ' :: ' ' :: line

/-- Two columns, the second two places behind the longest entry of the first. -/
def rows (entries : List (Text × Text)) : List Text :=
  let width := (entries.map (·.1.length)).foldl max 0
  entries.map fun (left, right) => indented (Text.padRight (width + 2) ' ' left ++ right)

def usageLine (root : Root) (v : Verb) : Text :=
  "Usage: " ++ v.path root ++ " " ++ v.usage

def helpLines (root : Root) (v : Verb) : List Text :=
  let commands :=
    if v.members.isEmpty then []
    else [] :: "Commands:".toList :: rows (v.members.map fun m => (m.name, m.summary))
  usageLine root v :: [] :: (v.summary :: v.explanation).map indented ++
    [] :: "Options:".toList :: rows v.optionRows ++ commands

def help (root : Root) (v : Verb) : Text := (helpLines root v).flatMap (· ++ ['\n'])

end Hypertag.Command
