import Hypertag.Text.Basic

/-!
# Binary floating point

A real number as data holds it: sign, mantissa and exponent of IEEE binary64, kept apart from the
machine's own floating point so that every step is exact arithmetic on natural numbers. Reading a
decimal rounds to nearest, a tie to the even mantissa.
-/

namespace Hypertag

/-- A finite value is `mantissa * 2 ^ exponent`. Either `2 ^ 52 ≤ mantissa < 2 ^ 53`, or the
exponent is the least one, `-1074`. -/
inductive Binary64 where
  | nan
  | infinite (negative : Bool)
  | finite (negative : Bool) (mantissa : Nat) (exponent : Int)
  deriving DecidableEq, Repr

namespace Binary64

def zero (negative : Bool) : Binary64 := .finite negative 0 (-1074)

def leastExponent : Int := -1074

def greatestExponent : Int := 971

/-- `num / den` to the nearest natural number, a tie to the even one. -/
def roundDiv (num den : Nat) : Nat :=
  let q := num / den
  let twice := 2 * (num % den)
  if twice < den then q
  else if den < twice then q + 1
  else q + q % 2

/-- `num * 2 ^ (-exponent)` over `den`, as a quotient of natural numbers. -/
def scaleDown (num den : Nat) (exponent : Int) : Nat × Nat :=
  if 0 ≤ exponent then (num, den * Nat.pow 2 exponent.toNat)
  else (num * Nat.pow 2 (-exponent).toNat, den)

/-- The nearest value to the positive quotient `num / den`. -/
def ofRatio (negative : Bool) (num den : Nat) : Binary64 :=
  let guess : Int := (Nat.log2 num : Int) - (Nat.log2 den : Int) - 52
  let (n, d) := scaleDown num den guess
  let guess := if n / d < Nat.pow 2 52 then guess - 1 else guess
  let exponent := max guess leastExponent
  let (n, d) := scaleDown num den exponent
  let mantissa := roundDiv n d
  let (mantissa, exponent) :=
    if mantissa = Nat.pow 2 53 then (Nat.pow 2 52, exponent + 1) else (mantissa, exponent)
  if greatestExponent < exponent then .infinite negative else .finite negative mantissa exponent

/-- The nearest value to `digits * 10 ^ power`. Powers far outside the range are settled by the
number of digits, before any large power of ten is formed. -/
def ofDecimal (negative : Bool) (digits : Nat) (power : Int) : Binary64 :=
  if digits = 0 then zero negative
  else
    let magnitude := power + (Text.ofNat digits).length
    if 310 < magnitude then .infinite negative
    else if magnitude < -330 then zero negative
    else if 0 ≤ power then ofRatio negative (digits * Nat.pow 10 power.toNat) 1
    else ofRatio negative digits (Nat.pow 10 (-power).toNat)

def ofInt (n : Int) : Binary64 := ofDecimal (n < 0) n.natAbs 0

/-! ## Comparison -/

/-- Mantissa and exponent with the sign in the mantissa; only finite values have one. -/
def signed? : Binary64 → Option (Int × Int)
  | .finite negative mantissa exponent =>
      some (if negative then -(mantissa : Int) else mantissa, exponent)
  | _ => none

/-- Whether `m * 2 ^ e` and `n * 2 ^ f` are the same number. -/
def sameNumber (m e n f : Int) : Bool :=
  let base := min e f
  m * Int.pow 2 (e - base).toNat == n * Int.pow 2 (f - base).toNat

/-- Equality of numbers: zero equals negative zero, and a nan equals nothing. -/
def equals : Binary64 → Binary64 → Bool
  | .infinite a, .infinite b => a == b
  | x, y =>
      match x.signed?, y.signed? with
      | some (m, e), some (n, f) => sameNumber m e n f
      | _, _ => false

def equalsInt (x : Binary64) (n : Int) : Bool :=
  match x.signed? with
  | some (m, e) => sameNumber m e n 0
  | none => false

def isNegative : Binary64 → Bool
  | .nan => false
  | .infinite negative | .finite negative _ _ => negative

/-- The same distance from zero, on the positive side. -/
def magnitude : Binary64 → Binary64
  | .nan => .nan
  | .infinite _ => .infinite false
  | .finite _ mantissa exponent => .finite false mantissa exponent

/-- The whole number next to a finite value in the direction of zero. -/
def truncate? : Binary64 → Option Int
  | .finite negative mantissa exponent =>
      let (num, den) := scaleDown mantissa 1 (-exponent)
      let whole : Int := (num / den : Nat)
      some (if negative then -whole else whole)
  | _ => none

def isZero : Binary64 → Bool
  | .finite _ mantissa _ => mantissa == 0
  | _ => false

end Binary64

end Hypertag
