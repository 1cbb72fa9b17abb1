import Hypertag.Text.Basic

/-!
# Command-line options

Arguments that begin with `-` are options, with a value attached or following when they take one;
short options may be joined. After `--` every argument is an operand. Where operands end the options,
the first operand does as well.
-/

namespace Hypertag.Command

structure OptionSpec (κ : Type) where
  key : κ
  long : Text
  short : Option Char
  takesValue : Bool

inductive OptionFault where
  | noSuchOption (name : Text)
  | needsValue (name : Text)
  | takesNoValue (name : Text)
  deriving DecidableEq, Repr

/-- The options in the order in which they were given, and the operands. -/
structure Parsed (κ : Type) where
  options : List (κ × Text)
  operands : List Text

namespace Parsed

def addOption (p : Parsed κ) (key : κ) (value : Text) : Parsed κ :=
  { p with options := (key, value) :: p.options }

def addOperand (p : Parsed κ) (operand : Text) : Parsed κ :=
  { p with operands := operand :: p.operands }

def values [BEq κ] (p : Parsed κ) (key : κ) : List Text :=
  (p.options.filter (·.1 == key)).map (·.2)

/-- The last value counts. -/
def value? [BEq κ] (p : Parsed κ) (key : κ) : Option Text := (p.values key).getLast?

def has [BEq κ] (p : Parsed κ) (key : κ) : Bool := p.options.any (·.1 == key)

end Parsed

/-- Joined short options, without the dash: those that are complete, and the last one when its value
is still to come. -/
def readCluster (specs : List (OptionSpec κ)) :
    Text → Except OptionFault (List (κ × Text) × Option (κ × Text))
  | [] => .ok ([], none)
  | c :: rest =>
      match specs.find? (·.short == some c) with
      | none => .error (.noSuchOption ['-', c])
      | some spec =>
          if spec.takesValue then
            if rest.isEmpty then .ok ([], some (spec.key, ['-', c]))
            else .ok ([(spec.key, rest)], none)
          else (readCluster specs rest).map fun (done, pending) => ((spec.key, []) :: done, pending)

/-- The name of a long option and the value attached to it. -/
def splitAttached (argument : Text) : Text × Option Text :=
  let name := argument.takeWhile (· != '=')
  match argument.drop name.length with
  | [] => (name, none)
  | _ :: value => (name, some value)

def isOption (argument : Text) : Bool :=
  match argument with
  | '-' :: _ :: _ => true
  | _ => false

def parse (specs : List (OptionSpec κ)) (interspersed : Bool) :
    List Text → Except OptionFault (Parsed κ)
  | [] => .ok ⟨[], []⟩
  | argument :: rest =>
      if argument = ['-', '-'] then .ok ⟨[], rest⟩
      else if isOption argument then
        let (name, attached) := splitAttached argument
        match specs.find? (·.long == name), attached, rest with
        | some spec, attached, rest =>
            match spec.takesValue, attached, rest with
            | true, some value, rest => (parse specs interspersed rest).map (·.addOption spec.key value)
            | true, none, [] => .error (.needsValue name)
            | true, none, value :: rest =>
                (parse specs interspersed rest).map (·.addOption spec.key value)
            | false, some _, _ => .error (.takesNoValue name)
            | false, none, rest => (parse specs interspersed rest).map (·.addOption spec.key [])
        | none, _, rest =>
            if ['-', '-'].isPrefixOf argument then .error (.noSuchOption name)
            else
              match readCluster specs (argument.drop 1), rest with
              | .error e, _ => .error e
              | .ok (done, none), rest =>
                  (parse specs interspersed rest).map fun p => { p with options := done ++ p.options }
              | .ok (_, some (_, name)), [] => .error (.needsValue name)
              | .ok (done, some (key, _)), value :: rest =>
                  (parse specs interspersed rest).map fun p =>
                    { p with options := done ++ (key, value) :: p.options }
      else if interspersed then (parse specs interspersed rest).map (·.addOperand argument)
      else .ok ⟨[], argument :: rest⟩

end Hypertag.Command
