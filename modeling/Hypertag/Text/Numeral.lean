import Hypertag.Text.Blank
import Hypertag.Text.Word

/-!
# Numerals

Whole numbers as people write them: with blanks around, a sign, digits of any script, and single
underscores between digits.
-/

namespace Hypertag.Text

/-- A numeral with more digits than this is not read. -/
def longestNumeral : Nat := 4300

def tooManyDigits (count : Nat) : Text :=
  "Exceeds the limit (" ++ ofNat longestNumeral ++
    " digits) for integer string conversion: value has " ++ ofNat count ++
    " digits; use sys.set_int_max_str_digits() to increase the limit"

/-- The values of a run of digits, between any two of which one underscore may stand. -/
def digitRun? : Text → Option (List Nat)
  | [] => none
  | [c] => (digitValue? c).map ([·])
  | c :: '_' :: rest => do return (← digitValue? c) :: (← digitRun? rest)
  | c :: rest => do return (← digitValue? c) :: (← digitRun? rest)

def valueOfDigits (digits : List Nat) : Nat := digits.foldl (fun n d => 10 * n + d) 0

/-- Whether a minus sign stands before a numeral, and the numeral without its sign. -/
def splitSign : Text → Bool × Text
  | '-' :: rest => (true, rest)
  | '+' :: rest => (false, rest)
  | t => (false, t)

def readInt? (t : Text) : Option Int := do
  let (negative, t) := splitSign t.strip
  let digits ← digitRun? t
  if longestNumeral < digits.length then none
  else
    let n : Int := valueOfDigits digits
    return if negative then -n else n

end Hypertag.Text
