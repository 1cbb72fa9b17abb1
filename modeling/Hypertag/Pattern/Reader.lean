import Hypertag.Pattern.Basic
import Hypertag.Text.Numeral
import Hypertag.Text.Quoted

/-!
# Reading patterns

Patterns are written in the usual notation: `.`, `\s`, `[a-z]`, `(…)`, `(?:…)`, `(?P<name>…)`, `|`,
`^`, `$`, and the quantifiers `*`, `+`, `?`, `{m,n}` with a following `?` for as few as possible, or
`+` for as many as there are. A brace that begins no quantifier stands for itself. Notation that looks
around a place, refers back to a group or sets a flag is refused. An error names what is wrong and
where, counted from zero, and in a notation of several lines the line and column as well.
-/

namespace Hypertag.Pattern

inductive Fault where
  | trailingBackslash
  | unterminatedSet
  | unterminatedGroup
  | unbalancedParenthesis
  | nothingToRepeat
  | multipleRepeat
  | badRange (first last : Text)
  | leastAboveMost
  | tooManyRepeats
  /-- A number of repetitions with too many digits to be read. -/
  | tooManyDigits (count : Nat)
  | badEscape (escape : Text)
  | unexpectedEnd
  | missingGroupName
  | unterminatedName
  | unknownExtension (text : Text)
  | missingAngle
  | badGroupName (name : Text)
  | groupRedefined (name : Text) (number former : Nat)
  | invalidReference (number : Nat)
  | octalRange (escape : Text)
  deriving DecidableEq, Repr

def Fault.message : Fault → Text
  | .trailingBackslash => "bad escape (end of pattern)"
  | .unterminatedSet => "unterminated character set"
  | .unterminatedGroup => "missing ), unterminated subpattern"
  | .unbalancedParenthesis => "unbalanced parenthesis"
  | .nothingToRepeat => "nothing to repeat"
  | .multipleRepeat => "multiple repeat"
  | .badRange first last => "bad character range " ++ first ++ "-" ++ last
  | .leastAboveMost => "min repeat greater than max repeat"
  | .tooManyRepeats => "the repetition number is too large"
  | .tooManyDigits count => Text.tooManyDigits count
  | .badEscape escape => "bad escape " ++ escape
  | .unexpectedEnd => "unexpected end of pattern"
  | .missingGroupName => "missing group name"
  | .unterminatedName => "missing >, unterminated name"
  | .unknownExtension text => "unknown extension " ++ text
  | .missingAngle => "missing <"
  | .badGroupName name => "bad character in group name " ++ name.quoted
  | .groupRedefined name number former =>
      "redefinition of group name " ++ name.quoted ++ " as group " ++ Text.ofNat number ++
        "; was group " ++ Text.ofNat former
  | .invalidReference number => "invalid group reference " ++ Text.ofNat number
  | .octalRange escape => "octal escape value " ++ escape ++ " outside of range 0-0o377"

/-- Whether a message says where the fault is; numbers that cannot be counted with have no place. -/
def Fault.hasPlace : Fault → Bool
  | .tooManyRepeats | .tooManyDigits _ => false
  | _ => true

structure Error where
  fault : Fault
  position : Nat
  deriving DecidableEq, Repr

/-- What is wrong with a text in the notation of patterns or templates. -/
def Error.message (e : Error) (written : Text) : Text :=
  if !e.fault.hasPlace then e.fault.message
  else
    let place := e.fault.message ++ " at position " ++ Text.ofNat e.position
    if written.contains '\n' then
      let (line, column) := written.lineColumn e.position
      place ++ " (line " ++ Text.ofNat line ++ ", column " ++ Text.ofNat column ++ ")"
    else place

/-! ## Lexemes -/

/-- One character, or a backslash with the character after it. -/
inductive Lexeme where
  | plain (c : Char)
  | escaped (c : Char)
  | lone
  deriving DecidableEq, Repr

def Lexeme.text : Lexeme → Text
  | .plain c => [c]
  | .escaped c => ['\\', c]
  | .lone => ['\\']

abbrev Lexemes := List (Nat × Lexeme)

/-- Each lexeme with the position of its first character. -/
def lexemes (position : Nat) : Text → Lexemes
  | [] => []
  | ['\\'] => [(position, .lone)]
  | '\\' :: c :: rest => (position, .escaped c) :: lexemes (position + 2) rest
  | c :: rest => (position, .plain c) :: lexemes (position + 1) rest

/-- A lone backslash is an error as soon as the lexeme before it is taken. -/
def ready : Lexemes → Except Error Unit
  | (position, .lone) :: _ => .error ⟨.trailingBackslash, position⟩
  | _ => .ok ()

/-! ## Characters -/

def controlEscape? : Char → Option Char
  | 'a' => some '\x07'
  | 'f' => some '\x0c'
  | 'n' => some '\n'
  | 'r' => some '\r'
  | 't' => some '\t'
  | 'v' => some '\x0b'
  | _ => none

def namedClass? : Char → Option CharClass
  | 's' => some .blank
  | 'S' => some .notBlank
  | 'd' => some .digit
  | 'D' => some .notDigit
  | 'w' => some .word
  | 'W' => some .notWord
  | _ => none

/-- A letter or digit after a backslash must have a meaning; any other character is itself. -/
def escapedChar (position : Nat) (c : Char) : Except Error Char :=
  match controlEscape? c with
  | some control => .ok control
  | none => if c.isAlphanum then .error ⟨.badEscape ['\\', c], position⟩ else .ok c

/-- Inside a set `\b` is the backspace character. -/
def setMember (position : Nat) : Lexeme → Except Error SetMember
  | .plain c => .ok (.single c)
  | .escaped 'b' => .ok (.single '\x08')
  | .escaped c =>
      match namedClass? c with
      | some cls => .ok (.named cls)
      | none => (escapedChar position c).map .single
  | .lone => .error ⟨.trailingBackslash, position⟩

/-- The members after the opening bracket; a bracket that closes nothing yet is a member. -/
def readSet (opened : Nat) (members : List SetMember) :
    Lexemes → Except Error (List SetMember × Lexemes)
  | [] => .error ⟨.unterminatedSet, opened⟩
  | (position, lexeme) :: rest => do
      ready rest
      if lexeme = .plain ']' ∧ members ≠ [] then return (members.reverse, rest)
      let first ← setMember position lexeme
      match rest with
      | [(_, .plain '-')] => .error ⟨.unterminatedSet, opened⟩
      | (_, .plain '-') :: (next, last) :: after => do
          ready ((next, last) :: after)
          ready after
          if last = .plain ']' then return ((.single '-' :: first :: members).reverse, after)
          let second ← setMember next last
          match first, second with
          | .single a, .single b =>
              if b < a then .error ⟨.badRange lexeme.text last.text, position⟩
              else readSet opened (.range a b :: members) after
          | _, _ => .error ⟨.badRange lexeme.text last.text, position⟩
      | rest => readSet opened (first :: members) rest

def readDigits : Lexemes → Except Error (Text × Lexemes)
  | (position, .plain c) :: rest => do
      if c.isDigit then
        ready rest
        let (digits, after) ← readDigits rest
        return (c :: digits, after)
      else return ([], (position, .plain c) :: rest)
  | rest => .ok ([], rest)

/-- A number of repetitions must be below this. -/
def repeatLimit : Nat := Nat.pow 2 32 - 1

def readCount (position : Nat) (digits : Text) : Except Error Nat :=
  if Text.longestNumeral < digits.length then .error ⟨.tooManyDigits digits.length, position⟩
  else
    let n := Text.digitsValue digits
    if repeatLimit ≤ n then .error ⟨.tooManyRepeats, position⟩ else .ok n

/-- The bounds after an opening brace that stands before `start`, when they are well formed up to the
closing one. -/
def readBounds? (start : Nat) (rest : Lexemes) :
    Except Error (Option (Nat × Option Nat × Lexemes)) := do
  if let (_, .plain '\x7d') :: _ := rest then return none
  let (low, after) ← readDigits rest
  let (high, after) ←
    match after with
    | (_, .plain ',') :: after => do
        ready after
        readDigits after
    | after => pure (low, after)
  match after with
  | (_, .plain '\x7d') :: after => do
      ready after
      let least ← readCount start low
      if high.isEmpty then return some (least, none, after)
      else
        let most ← readCount start high
        if most < least then .error ⟨.leastAboveMost, start⟩
        else return some (least, some most, after)
  | _ => return none

/-! ## Names -/

/-- What stands before a closing angle bracket, and the lexemes after it if there is one. -/
def untilAngle : Lexemes → Except Error (Text × Option Lexemes)
  | [] => .ok ([], none)
  | (_, .plain '>') :: rest => do
      ready rest
      return ([], some rest)
  | (_, lexeme) :: rest => do
      ready rest
      let (name, after) ← untilAngle rest
      return (lexeme.text ++ name, after)

/-- What an opening angle bracket before `start` encloses, which is never nothing. -/
def readName (start : Nat) (rest : Lexemes) : Except Error (Text × Lexemes) := do
  match ← untilAngle rest with
  | ([], _) => .error ⟨.missingGroupName, start⟩
  | (_, none) => .error ⟨.unterminatedName, start⟩
  | (name, some after) => return (name, after)

/-! ## Structure -/

/-- An open group, or the whole pattern: finished alternatives and the items of the current one,
both latest first. -/
structure Frame where
  opened : Nat
  number : Option Nat
  alternatives : List Node
  items : List Node
  deriving DecidableEq, Repr

namespace Frame

def outermost : Frame := ⟨0, none, [], []⟩

def add (f : Frame) (n : Node) : Frame := { f with items := n :: f.items }

def bar (f : Frame) : Frame :=
  { f with alternatives := .sequence f.items.reverse :: f.alternatives, items := [] }

def close (f : Frame) : Node :=
  .alternatives (Node.sequence f.items.reverse :: f.alternatives).reverse

end Frame

/-- Applies a quantifier at `position` to the latest item. -/
def quantify (f : Frame) (position least : Nat) (most : Option Nat) (rest : Lexemes) :
    Except Error (Frame × Lexemes) :=
  match f.items with
  | [] => .error ⟨.nothingToRepeat, position⟩
  | item :: items =>
      if item.isAnchor then .error ⟨.nothingToRepeat, position⟩
      else if item.isRepeated then .error ⟨.multipleRepeat, position⟩
      else
        match rest with
        | (_, .plain '?') :: after => do
            ready after
            return ({ f with items := .repeated item least most .lazy :: items }, after)
        | (_, .plain '+') :: after => do
            ready after
            return ({ f with items := .repeated item least most .possessive :: items }, after)
        | rest => .ok ({ f with items := .repeated item least most .greedy :: items }, rest)

/-- What stands after an opening parenthesis: the groups that there are with this one, if it captures,
and the rest. `stop` is the length of the pattern. -/
def readGroupHead (stop : Nat) (groups : List (Option Text)) :
    Lexemes → Except Error (Option (List (Option Text)) × Lexemes)
  | (_, .plain '?') :: rest => do
      ready rest
      match rest with
      | [] => .error ⟨.unexpectedEnd, stop⟩
      | (_, .plain ':') :: after => do
          ready after
          return (none, after)
      | (_, .plain 'P') :: (place, .plain '<') :: after => do
          ready after
          let (name, after) ← readName (place + 1) after
          if !name.isName then .error ⟨.badGroupName name, place + 1⟩
          else
            match groups.idxOf? (some name) with
            | some former =>
                .error ⟨.groupRedefined name (groups.length + 1) (former + 1), place + 1⟩
            | none => return (some (groups ++ [some name]), after)
      | (position, .plain 'P') :: after => do
          ready after
          match after with
          | [] => .error ⟨.unexpectedEnd, stop⟩
          | (_, lexeme) :: after => do
              ready after
              .error ⟨.unknownExtension ('?' :: 'P' :: lexeme.text), position - 1⟩
      | (position, lexeme) :: after => do
          ready after
          .error ⟨.unknownExtension ('?' :: lexeme.text), position - 1⟩
  | rest => .ok (some (groups ++ [none]), rest)

/-- Reads item by item. Every step takes at least one lexeme, which is what the fuel counts. -/
def readFrom (stop : Nat) :
    Nat → List Frame → Frame → List (Option Text) → Lexemes → Except Error Pattern
  | 0, _, f, groups, _ => .ok ⟨f.close, groups⟩
  | _ + 1, [], f, groups, [] => .ok ⟨f.close, groups⟩
  | _ + 1, _ :: _, f, _, [] => .error ⟨.unterminatedGroup, f.opened⟩
  | fuel + 1, outer, f, groups, (position, lexeme) :: rest =>
      match lexeme with
      | .lone => .error ⟨.trailingBackslash, position⟩
      | .plain ')' =>
          match outer with
          | [] => .error ⟨.unbalancedParenthesis, position⟩
          | parent :: outer => do
              ready rest
              readFrom stop fuel outer (parent.add (.group f.number f.close)) groups rest
      | .escaped c => do
          ready rest
          match namedClass? c with
          | some cls => readFrom stop fuel outer (f.add (.one (.named cls))) groups rest
          | none =>
              let c ← escapedChar position c
              readFrom stop fuel outer (f.add (.one (.exactly c))) groups rest
      | .plain '|' => do
          ready rest
          readFrom stop fuel outer f.bar groups rest
      | .plain '.' => do
          ready rest
          readFrom stop fuel outer (f.add (.one .anyButNewline)) groups rest
      | .plain '^' => do
          ready rest
          readFrom stop fuel outer (f.add .atStart) groups rest
      | .plain '$' => do
          ready rest
          readFrom stop fuel outer (f.add .atEnd) groups rest
      | .plain '[' => do
          ready rest
          match rest with
          | (_, .plain '^') :: rest => do
              ready rest
              let (members, rest) ← readSet position [] rest
              readFrom stop fuel outer (f.add (.one (.noneOf members))) groups rest
          | rest => do
              let (members, rest) ← readSet position [] rest
              readFrom stop fuel outer (f.add (.one (.oneOf members))) groups rest
      | .plain '(' => do
          ready rest
          let (captured?, rest) ← readGroupHead stop groups rest
          readFrom stop fuel (f :: outer) ⟨position, captured?.map (·.length), [], []⟩
            (captured?.getD groups) rest
      | .plain '*' => do
          ready rest
          let (f, rest) ← quantify f position 0 none rest
          readFrom stop fuel outer f groups rest
      | .plain '+' => do
          ready rest
          let (f, rest) ← quantify f position 1 none rest
          readFrom stop fuel outer f groups rest
      | .plain '?' => do
          ready rest
          let (f, rest) ← quantify f position 0 (some 1) rest
          readFrom stop fuel outer f groups rest
      | .plain '\x7b' => do
          ready rest
          match ← readBounds? (position + 1) rest with
          | none => readFrom stop fuel outer (f.add (.one (.exactly '\x7b'))) groups rest
          | some (least, most, rest) =>
              let (f, rest) ← quantify f position least most rest
              readFrom stop fuel outer f groups rest
      | .plain c => do
          ready rest
          readFrom stop fuel outer (f.add (.one (.exactly c))) groups rest

def read (t : Text) : Except Error Pattern := do
  let all := lexemes 0 t
  ready all
  readFrom t.length (all.length + 1) [] .outermost [] all

end Hypertag.Pattern
