import Hypertag.Config.File
import Hypertag.Selector.Error
import Hypertag.Template.Segment

/-!
# Error reports

What a caller learns of an error: its category, a message, a code to branch on, details by name, and
the attributes that its category has. A report can also be put together from named arguments.
-/

namespace Hypertag

namespace Report

inductive Category where
  | general
  | selectorSyntax
  | unsupportedToken
  | danglingCombinator
  | selectorType
  | template
  | unterminatedBlock
  | templateType
  | configuration
  deriving DecidableEq, Repr

namespace Category

def isSelectorSyntax : Category → Bool
  | .selectorSyntax | .unsupportedToken | .danglingCombinator => true
  | _ => false

def isTemplate : Category → Bool
  | .template | .unterminatedBlock => true
  | _ => false

/-- Whether a value of the right type was at fault. -/
def isBadValue (c : Category) : Bool := c.isSelectorSyntax || c.isTemplate

def isBadType : Category → Bool
  | .selectorType | .templateType => true
  | _ => false

def fixedCode? : Category → Option Text
  | .general => none
  | .selectorSyntax => some "SELECTOR_PARSE_ERROR"
  | .unsupportedToken => some "UNSUPPORTED_TOKEN"
  | .danglingCombinator => some "DANGLING_COMBINATOR"
  | .selectorType => some "SELECTOR_TYPE_ERROR"
  | .template => some "TEMPLATE_ERROR"
  | .unterminatedBlock => some "UNTERMINATED_CODE_BLOCK"
  | .templateType => some "TEMPLATE_TYPE_ERROR"
  | .configuration => some "CONFIGURATION_ERROR"

/-- Whether a report may come with a code of its own. -/
def takesCode : Category → Bool
  | .general | .selectorSyntax | .template => true
  | _ => false

/-- The attributes of a category, each with whether it must be given. -/
def attributes : Category → List (Text × Bool)
  | .unsupportedToken => [("character", true)]
  | .danglingCombinator => [("position", true)]
  | .selectorType | .templateType => [("value_type", false)]
  | .unterminatedBlock => [("state", false), ("position", false)]
  | .configuration => [("config_key", false)]
  | _ => []

/-- Whether attributes are repeated among the details. -/
def detailsAttributes : Category → Bool
  | .unsupportedToken | .danglingCombinator | .unterminatedBlock => true
  | _ => false

/-- The names of the arguments in order, each with whether it must be given. -/
def parameters (c : Category) : List (Text × Bool) :=
  ("message".toList, true) :: (if c.takesCode then [("code".toList, false)] else []) ++
    c.attributes ++ [("details".toList, false)]

end Category

end Report

abbrev Arguments := List (Text × Value)

structure Report where
  category : Report.Category
  message : Value
  code : Value
  /-- A dictionary, unless a report of a category without details of its own was given something
  else. -/
  details : Value
  attributes : Arguments
  deriving Repr

namespace Report

inductive ArgumentError where
  | unexpected (name : Text)
  | missing (names : List Text)
  | details (e : Value.EntriesError)
  deriving DecidableEq, Repr

def argument (arguments : Arguments) (name : Text) : Value :=
  (arguments.lookup name).getD .null

/-- A detail given explicitly wins over an attribute of the same name. -/
def addDetail (details : List (Value × Value)) (name : Text) (v : Value) : List (Value × Value) :=
  if details.any (·.1.equals (.text name)) then details else details ++ [(.text name, v)]

def codeOf (c : Category) (given : Value) : Value :=
  match c.fixedCode? with
  | none => given
  | some code => if c.takesCode && given.truthy then given else .text code

def attributesOf (c : Category) (arguments : Arguments) : Arguments :=
  c.attributes.map fun (name, _) => (name, argument arguments name)

/-- The entries given as details, with the attributes that are repeated among them. -/
def detailsOf (c : Category) (attributes : Arguments) (given : List (Value × Value)) : Value :=
  .dict (if c.detailsAttributes then attributes.foldl (fun d (name, v) => addDetail d name v) given
    else given)

def make (c : Category) (arguments : Arguments) (details : List (Value × Value)) : Report :=
  let attributes := attributesOf c arguments
  ⟨c, argument arguments "message", codeOf c (argument arguments "code"),
    detailsOf c attributes details, attributes⟩

/-- Arguments that there are no parameters for are refused before missing ones. A parameter comes with
whether it must be given. -/
def checkNames (parameters : List (Text × Bool)) (given : List Text) : Except ArgumentError Unit :=
  match given.find? fun name => !parameters.any (·.1 == name) with
  | some name => .error (.unexpected name)
  | none =>
      let missing := (parameters.filter fun (name, required) =>
        required && !given.contains name).map (·.1)
      if missing.isEmpty then .ok () else .error (.missing missing)

/-- Details that are empty or not given count as none. A category that repeats its attributes among
them needs a dictionary. -/
def build (c : Category) (arguments : Arguments) : Except ArgumentError Report := do
  checkNames c.parameters (arguments.map (·.1))
  let details := argument arguments "details"
  if !details.truthy then return make c arguments []
  else if c.detailsAttributes then
    return make c arguments (← details.entriesOf.mapError .details)
  else return { make c arguments [] with details }

def ofSelectorError (e : SelectorError) : Report :=
  let message : Text × Value := ("message", .text e.message)
  let selector (t : Text) : List (Value × Value) := [(.text "selector", .text t)]
  match e with
  | .unsupported token t =>
      make .unsupportedToken [message, ("character", .text [token.character])] (selector t)
  | .dangling place t =>
      make .danglingCombinator [message, ("position", .text place.name)] (selector t)
  | .chain _ t => make .selectorSyntax [message] (selector t)
  | .notText typeName | .notMember typeName | .notList typeName | .notFormattable typeName =>
      make .selectorType [message, ("value_type", .text typeName)] []
  | .emptyList | .everythingWithParts => make .selectorType [message] []

def ofTemplateError (e : Template.TemplateError) : Report :=
  let message : Text × Value := ("message", .text e.message)
  match e with
  | .notText typeName => make .templateType [message, ("value_type", .text typeName)] []
  | .unterminated state openedAt =>
      let position : Value := (openedAt.map fun n => Value.int n).getD .null
      make .unterminatedBlock [message, ("state", .text state.name), ("position", position)] []

/-- Settings that could not be loaded, with the file that should have held them. -/
def ofSettings (message : Text) (p : Path) : Report :=
  make .configuration [("message", .text message)] [(.text "path", .text p.text)]

end Report

/-! ## Loading settings -/

namespace Config

inductive LoadError where
  | obstacle (o : Obstacle)
  | report (r : Report)
  deriving Repr

/-- A verdict without a message, or with an empty one, has a standing one. -/
def load (w : Workspace) (p : Path) : Except LoadError Config := do
  let verdict ← (validate w p).mapError .obstacle
  match verdict.valid, verdict.config with
  | true, some c => return c
  | _, _ =>
      let message : Text :=
        match verdict.message with
        | none | some [] => "Invalid configuration"
        | some message => message
      .error (.report (.ofSettings message p))

end Config

end Hypertag
