import Hypertag.Real.Shortest

/-!
# Rounded decimal text of a real number

A number with a given count of digits, rounded to nearest with a tie to the even digit: with a fixed
number of places after the point, with an exponent, or in the form of the two that suits its size.
Signs are left to the caller.
-/

namespace Hypertag.Binary64

inductive RealStyle where
  | fixed
  | scientific
  /-- Positional or with an exponent, by the size of the number. -/
  | general
  deriving DecidableEq, Repr

structure RealForm where
  style : RealStyle
  /-- Digits after the point, or significant digits in the general style. -/
  digits : Nat
  /-- Whether zeros that end a general number, and a point without digits behind it, are written. -/
  full : Bool
  deriving DecidableEq, Repr

/-- Every value ends before this place after the point. -/
def mostPlaces : Nat := 1074

/-- No value has more significant digits. -/
def mostSignificant : Nat := 767

def joinPoint (full : Bool) (whole fraction : Text) : Text :=
  if fraction.isEmpty && !full then whole else whole ++ '.' :: fraction

def fixedText (places : Nat) (full : Bool) (mantissa : Nat) (exponent : Int) : Text :=
  let kept := min places mostPlaces
  let (num, den) := scaleDown (mantissa * Nat.pow 10 kept) 1 (-exponent)
  let digits := Text.padLeft (kept + 1) '0' (Text.ofNat (roundDiv num den))
  let whole := digits.length - kept
  joinPoint full (digits.take whole) (Text.padRight places '0' (digits.drop whole))

/-- The first significant digits and the place of the point before which they stand; zero has its
point after the first digit. -/
def significant (count mantissa : Nat) (exponent : Int) : Text × Int :=
  if mantissa = 0 then (List.replicate count '0', 1)
  else
    let i := interval mantissa exponent
    let p := point i
    let kept := min count mostSignificant
    let (num, den) := downBy i.value i.scale (p - kept)
    let digits := Text.ofNat (roundDiv num den)
    (Text.padRight count '0' (digits.take kept), if kept < digits.length then p + 1 else p)
where
  /-- `num / den / 10 ^ power` as a quotient of natural numbers. -/
  downBy (num den : Nat) (power : Int) : Nat × Nat :=
    if 0 ≤ power then (num, den * Nat.pow 10 power.toNat)
    else (num * Nat.pow 10 (-power).toNat, den)

def scientificText (places : Nat) (full : Bool) (mantissa : Nat) (exponent : Int) : Text :=
  let (digits, p) := significant (places + 1) mantissa exponent
  joinPoint full (digits.take 1) (digits.drop 1) ++ 'e' :: powerText (p - 1)

/-- Positional while the point stands at most four places before the digits and not behind them. -/
def generalText (count : Nat) (full : Bool) (mantissa : Nat) (exponent : Int) : Text :=
  let count := max count 1
  let (digits, p) := significant count mantissa exponent
  let shown := if full then digits else (digits.reverse.dropWhile (· == '0')).reverse
  if p ≤ positionalLeast ∨ count < p then
    joinPoint full (shown.take 1) (shown.drop 1) ++ 'e' :: powerText (p - 1)
  else if p ≤ 0 then joinPoint full ['0'] (List.replicate (-p).toNat '0' ++ shown)
  else joinPoint full (digits.take p.toNat) (shown.drop p.toNat)

/-- The text of a value without its sign. -/
def RealForm.write (f : RealForm) : Binary64 → Text
  | .nan => "nan"
  | .infinite _ => "inf"
  | .finite _ mantissa exponent =>
      match f.style with
      | .fixed => fixedText f.digits f.full mantissa exponent
      | .scientific => scientificText f.digits f.full mantissa exponent
      | .general => generalText f.digits f.full mantissa exponent

end Hypertag.Binary64
