import Hypertag.Real.Binary64
import Hypertag.Text.Numeral

/-!
# Numerals of real numbers

A real number as people write it: whole digits, a fraction and an exponent, of which whole digits or
the fraction may be missing, or the name of an infinity or a nan.
-/

namespace Hypertag.Binary64

/-- What stands before the first mark of a kind, and what follows it if there is one. -/
def splitMark (isMark : Char → Bool) (t : Text) : Text × Option Text :=
  let head := t.takeWhile fun c => !isMark c
  match t.drop head.length with
  | [] => (head, none)
  | _ :: rest => (head, some rest)

/-- Digits that may be missing altogether. -/
def digitsOrNone? (t : Text) : Option (List Nat) :=
  if t.isEmpty then some [] else Text.digitRun? t

/-- An unsigned number in digits. -/
def readDigits? (negative : Bool) (t : Text) : Option Binary64 := do
  let (mantissa, power?) := splitMark (fun c => c == 'e' || c == 'E') t
  let (whole, fraction?) := splitMark (· == '.') mantissa
  let whole ← digitsOrNone? whole
  let fraction ← digitsOrNone? (fraction?.getD [])
  if whole.isEmpty && fraction.isEmpty then none
  else
    let power : Int ←
      match power? with
      | none => some 0
      | some t => do
          let (down, t) := Text.splitSign t
          let n : Int := Text.valueOfDigits (← Text.digitRun? t)
          pure (if down then -n else n)
    return .ofDecimal negative (Text.valueOfDigits (whole ++ fraction)) (power - fraction.length)

def read? (t : Text) : Option Binary64 :=
  let (negative, t) := Text.splitSign t.strip
  let name := t.lowerAscii
  if name = "nan".toList then some .nan
  else if name = "inf".toList ∨ name = "infinity".toList then some (.infinite negative)
  else readDigits? negative t

end Hypertag.Binary64
