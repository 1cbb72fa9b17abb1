import Hypertag.Text.Blank
import Hypertag.Text.Word

/-!
# Patterns

The syntax tree of a search pattern: tests on single characters, anchors, sequences, ordered
alternatives, groups and counted repetition.
-/

namespace Hypertag

/-- A named class of characters. -/
inductive CharClass where
  | blank
  | notBlank
  | digit
  | notDigit
  | word
  | notWord
  deriving DecidableEq, Repr

def CharClass.holds : CharClass → Char → Bool
  | .blank, c => isBlank c
  | .notBlank, c => !isBlank c
  | .digit, c => isDecimal c
  | .notDigit, c => !isDecimal c
  | .word, c => isWordChar c
  | .notWord, c => !isWordChar c

/-- One member of a bracketed set. -/
inductive SetMember where
  | single (c : Char)
  | range (first last : Char)
  | named (cls : CharClass)
  deriving DecidableEq, Repr

def SetMember.holds : SetMember → Char → Bool
  | .single a, c => c == a
  | .range a b, c => a ≤ c && c ≤ b
  | .named cls, c => cls.holds c

/-- What a pattern can ask of one character. -/
inductive CharTest where
  | exactly (c : Char)
  | anyButNewline
  | named (cls : CharClass)
  | oneOf (members : List SetMember)
  | noneOf (members : List SetMember)
  deriving DecidableEq, Repr

def CharTest.holds : CharTest → Char → Bool
  | .exactly a, c => c == a
  | .anyButNewline, c => c != '\n'
  | .named cls, c => cls.holds c
  | .oneOf members, c => members.any (·.holds c)
  | .noneOf members, c => !members.any (·.holds c)

/-- How many repetitions are tried first, and whether others are tried after them. -/
inductive RepeatMode where
  | greedy
  | lazy
  /-- As many as there are, each in its preferred way, and no others. -/
  | possessive
  deriving DecidableEq, Repr

inductive Node where
  /-- Matches nothing, everywhere. -/
  | empty
  | one (test : CharTest)
  /-- Only before the first character of the text. -/
  | atStart
  /-- After the last character, or before a newline that is the last character. -/
  | atEnd
  | both (first second : Node)
  /-- The second alternative is tried where the first one leads to no match. -/
  | either (first second : Node)
  /-- A group with a number captures what it matched. -/
  | group (number : Option Nat) (body : Node)
  | repeated (body : Node) (least : Nat) (most : Option Nat) (mode : RepeatMode)
  deriving DecidableEq, Repr

namespace Node

def sequence : List Node → Node
  | [] => .empty
  | [n] => n
  | n :: m :: rest => .both n (sequence (m :: rest))

def alternatives : List Node → Node
  | [] => .empty
  | [n] => n
  | n :: m :: rest => .either n (alternatives (m :: rest))

def isAnchor : Node → Bool
  | .atStart | .atEnd => true
  | _ => false

def isRepeated : Node → Bool
  | .repeated .. => true
  | _ => false

/-- One or more characters that pass the test, as many as possible. -/
def run (test : CharTest) : Node := .repeated (.one test) 1 none .greedy

end Node

structure Pattern where
  root : Node
  /-- The groups that capture, in the order of their opening, which numbers them from one; some have
  a name. -/
  groups : List (Option Text)
  deriving DecidableEq, Repr

end Hypertag
