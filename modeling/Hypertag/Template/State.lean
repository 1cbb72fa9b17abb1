import Hypertag.Text.Basic

/-!
# The states of template reading

A template is literal text with code between double braces. Inside code the reading follows quoted
strings, backtick names, `%…%` operators and `#` comments just far enough not to take braces inside
them for the end of the code.
-/

namespace Hypertag.Template

inductive State where
  | literal
  | literalSawBrace
  | code
  | codeSawBrace
  | singleQuoted
  | singleQuotedEscape
  | doubleQuoted
  | doubleQuotedEscape
  | backtick
  | backtickEscape
  | percentOperator
  | comment
  | commentSawBrace
  deriving DecidableEq, Repr

namespace State

def all : List State :=
  [literal, literalSawBrace, code, codeSawBrace, singleQuoted, singleQuotedEscape, doubleQuoted,
    doubleQuotedEscape, backtick, backtickEscape, percentOperator, comment, commentSawBrace]

def name : State → Text
  | .literal => "literal"
  | .literalSawBrace => "literal_saw_brace"
  | .code => "code"
  | .codeSawBrace => "code_saw_brace"
  | .singleQuoted => "code_string_single"
  | .singleQuotedEscape => "code_string_single_escape"
  | .doubleQuoted => "code_string_double"
  | .doubleQuotedEscape => "code_string_double_escape"
  | .backtick => "code_backtick"
  | .backtickEscape => "code_backtick_escape"
  | .percentOperator => "code_percent_operator"
  | .comment => "code_comment"
  | .commentSawBrace => "code_comment_saw_brace"

def ofName? (t : Text) : Option State := all.find? (·.name == t)

/-- The state after a character that has no meaning of its own. -/
def otherwise : State → State
  | .literal | .literalSawBrace => .literal
  | .code | .codeSawBrace => .code
  | .singleQuoted | .singleQuotedEscape => .singleQuoted
  | .doubleQuoted | .doubleQuotedEscape => .doubleQuoted
  | .backtick | .backtickEscape => .backtick
  | .percentOperator => .percentOperator
  | .comment | .commentSawBrace => .comment

/-- The characters with a meaning. A brace that is not doubled gives its follower no meaning: after
it every other character leads back. -/
def special? : State → Char → Option State
  | .literal, '\x7b' => some .literalSawBrace
  | .literalSawBrace, '\x7b' => some .code
  | .code, '\x7d' => some .codeSawBrace
  | .code, '\'' => some .singleQuoted
  | .code, '"' => some .doubleQuoted
  | .code, '\x60' => some .backtick
  | .code, '%' => some .percentOperator
  | .code, '#' => some .comment
  | .codeSawBrace, '\x7d' => some .literal
  | .singleQuoted, '\\' => some .singleQuotedEscape
  | .singleQuoted, '\'' => some .code
  | .doubleQuoted, '\\' => some .doubleQuotedEscape
  | .doubleQuoted, '"' => some .code
  | .backtick, '\\' => some .backtickEscape
  | .backtick, '\x60' => some .code
  | .percentOperator, '%' => some .code
  | .comment, '\x7d' => some .commentSawBrace
  | .comment, '\n' => some .code
  | .commentSawBrace, '\x7d' => some .literal
  | _, _ => none

def next (s : State) (c : Char) : State := (s.special? c).getD s.otherwise

/-- Whether the character completes a delimiter and with it a segment. -/
def cuts : State → Char → Bool
  | .literalSawBrace, '\x7b' => true
  | .codeSawBrace, '\x7d' => true
  | .commentSawBrace, '\x7d' => true
  | _, _ => false

/-- A template may end in literal text, also after one opening brace. -/
def isFinal : State → Bool
  | .literal | .literalSawBrace => true
  | _ => false

/-- The state after each character of a text, and whether it cut. -/
def trace : State → Text → List (State × Bool)
  | _, [] => []
  | s, c :: rest => (s.next c, s.cuts c) :: trace (s.next c) rest

end State

end Hypertag.Template
