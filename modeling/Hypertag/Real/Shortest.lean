import Hypertag.Real.Binary64

/-!
# Shortest decimal text of a real number

The digits are the fewest that read back as the same value, and of those the nearest to it. A number
is written positionally while its point lies between four zeros before the digits and the sixteenth
place, otherwise with an exponent of at least two digits.
-/

namespace Hypertag.Binary64

/-- The reals that round to a positive finite value, times `scale`. The ends count when the mantissa
is even. -/
structure Interval where
  low : Nat
  value : Nat
  high : Nat
  scale : Nat
  closed : Bool
  deriving DecidableEq, Repr

/-- The next lower value is only half as far away below a power of two. -/
def interval (mantissa : Nat) (exponent : Int) : Interval :=
  let below := if mantissa = Nat.pow 2 52 ∧ leastExponent < exponent then 1 else 2
  let (factor, scale) :=
    if 2 ≤ exponent then (Nat.pow 2 (exponent - 2).toNat, 1)
    else (1, Nat.pow 2 (2 - exponent).toNat)
  ⟨(4 * mantissa - below) * factor, 4 * mantissa * factor, (4 * mantissa + 2) * factor, scale,
    mantissa % 2 == 0⟩

def Interval.holds (i : Interval) (num den : Nat) : Bool :=
  if i.closed then i.low * den ≤ num * i.scale && num * i.scale ≤ i.high * den
  else i.low * den < num * i.scale && num * i.scale < i.high * den

/-- The least `p` with `value < 10 ^ p`, found upward from a start that is not above it. -/
def pointFrom (num den : Nat) : Nat → Int → Int
  | 0, p => p
  | fuel + 1, p =>
      let above :=
        if 0 ≤ p then num < den * Nat.pow 10 p.toNat else num * Nat.pow 10 (-p).toNat < den
      if above then p else pointFrom num den fuel (p + 1)

/-- Where the point stands: the value is `0.d₁d₂… * 10 ^ point`. -/
def point (i : Interval) : Int :=
  let digits : Int := (Text.ofNat i.value).length - (Text.ofNat i.scale).length
  pointFrom i.value i.scale 3 (digits - 1)

/-- Of the two neighbours of the value on the grid of `count` digits, the nearer one that reads
back. -/
def onGrid? (i : Interval) (p : Int) (count : Nat) : Option Nat :=
  let power := p - count
  let (num, den) :=
    if 0 ≤ power then (i.value, i.scale * Nat.pow 10 power.toNat)
    else (i.value * Nat.pow 10 (-power).toNat, i.scale)
  let reads (n : Nat) : Bool :=
    if 0 ≤ power then i.holds (n * Nat.pow 10 power.toNat) 1
    else i.holds n (Nat.pow 10 (-power).toNat)
  let down := num / den
  let nearer := roundDiv num den
  let farther := if nearer = down then down + 1 else down
  if reads nearer then some nearer else if reads farther then some farther else none

/-- Digits without trailing zeros and the place of the point. -/
def shortest (mantissa : Nat) (exponent : Int) : Text × Int :=
  let i := interval mantissa exponent
  let p := point i
  let digits := (List.range 17).findSome? fun k => (onGrid? i p (k + 1)).map (·, k + 1)
  match digits with
  | none => ([], p)
  | some (n, count) =>
      let written := Text.ofNat n
      let p := if count < written.length then p + 1 else p
      ((written.reverse.dropWhile (· == '0')).reverse, p)

/-- A point up to this many places after the first digit is written positionally. -/
def positionalMost : Int := 16

/-- A point at this many zeros before the first digit, or more, needs an exponent. -/
def positionalLeast : Int := -4

/-- An exponent of ten has at least two digits and always a sign. -/
def powerText (power : Int) : Text :=
  (if power < 0 then '-' else '+') :: Text.padLeft 2 '0' (Text.ofNat power.natAbs)

/-- A whole number keeps `.0`. -/
def layOut (digits : Text) (p : Int) : Text :=
  if p ≤ positionalLeast ∨ positionalMost < p then
    let fraction : Text := if 1 < digits.length then '.' :: digits.drop 1 else []
    digits.take 1 ++ fraction ++ 'e' :: powerText (p - 1)
  else if p ≤ 0 then
    '0' :: '.' :: List.replicate (-p).toNat '0' ++ digits
  else if digits.length ≤ p.toNat then
    digits ++ List.replicate (p.toNat - digits.length) '0' ++ ['.', '0']
  else
    digits.take p.toNat ++ '.' :: digits.drop p.toNat

/-- The unsigned text of a finite value. -/
def magnitudeText (mantissa : Nat) (exponent : Int) : Text :=
  if mantissa = 0 then "0.0"
  else
    let (digits, p) := shortest mantissa exponent
    layOut digits p

def text : Binary64 → Text
  | .nan => "nan"
  | .infinite negative => if negative then "-inf" else "inf"
  | .finite negative mantissa exponent =>
      if negative then '-' :: magnitudeText mantissa exponent else magnitudeText mantissa exponent

end Hypertag.Binary64
