import Hypertag.Journal.Dates
import Hypertag.Real.Rounded
import Hypertag.Value

/-!
# Conversions

How a field shows a value: a letter says as what kind of text or number, flags, a width and a
precision say in which form. A size given by a star is the value that the field has looked up, which
is then gone.
-/

namespace Hypertag.Journal

inductive Size where
  | given (n : Nat)
  | star
  deriving DecidableEq, Repr

structure Conversion where
  flags : Text
  width : Option Size
  precision : Option Size
  /-- Missing where the layout ends before it. -/
  letter : Option Char
  deriving DecidableEq, Repr

inductive LayoutError where
  /-- No field is found in the layout. -/
  | noField (layout : Text)
  | unknownField (name : Text)
  | notNumber (letter : Char) (typeName : Text)
  | notInteger (letter : Char) (typeName : Text)
  | notReal (typeName : Text)
  | notCharacter
  | notCodePoint
  /-- A field without a name has nothing to show. -/
  | nothingLeft
  /-- A nan or an infinity where a whole number is asked for. -/
  | notFinite (x : Binary64)
  /-- A whole number beyond every real one. -/
  | beyondReals
  | widthTooBig
  | precisionTooBig
  | tooManyDigits
  /-- A field that memory cannot hold. -/
  | noMemory
  | starNotInteger
  | starTooWide
  | starTooPrecise
  | incompleteName
  | incomplete
  | badLetter (letter : Char) (position : Nat)
  | date (e : DateError)
  deriving DecidableEq, Repr

/-- A letter is shown when it is ASCII and printable, or the last control character. -/
def shownLetter (c : Char) : Char := if 0x1F ≤ c.toNat && c.toNat < 0x7F then c else '?'

def LayoutError.message : LayoutError → Text
  | .noField layout => "Invalid format '" ++ layout ++ "' for '%' style"
  | .unknownField name => "Formatting field not found in record: " ++ name.quoted
  | .notNumber letter typeName =>
      "%" ++ [letter] ++ " format: a real number is required, not " ++ typeName
  | .notInteger letter typeName =>
      "%" ++ [letter] ++ " format: an integer is required, not " ++ typeName
  | .notReal typeName => "must be real number, not " ++ typeName
  | .notCharacter => "%c requires int or char"
  | .notCodePoint => "%c arg not in range(0x110000)"
  | .nothingLeft => "not enough arguments for format string"
  | .notFinite .nan => "cannot convert float NaN to integer"
  | .notFinite _ => "cannot convert float infinity to integer"
  | .beyondReals => "int too large to convert to float"
  | .widthTooBig => "width too big"
  | .precisionTooBig => "precision too big"
  | .tooManyDigits => "precision too large"
  | .noMemory => []
  | .starNotInteger => "* wants int"
  | .starTooWide => "Python int too large to convert to C ssize_t"
  | .starTooPrecise => "Python int too large to convert to C int"
  | .incompleteName => "incomplete format key"
  | .incomplete => "incomplete format"
  | .badLetter letter position =>
      "unsupported format character '" ++ [shownLetter letter] ++ "' (0x" ++ Text.hex 1 letter.toNat ++
        ") at index " ++ Text.ofNat position
  | .date e => e.message

/-! ## Sizes -/

/-- A greatest size, and what is wrong with a greater one that is given or comes from a star. -/
structure SizeLimit where
  greatest : Nat
  exceeded : LayoutError
  starExceeded : LayoutError
  deriving Repr

def widthLimit : SizeLimit := ⟨Nat.pow 2 63 - 1, .widthTooBig, .starTooWide⟩

def precisionLimit : SizeLimit := ⟨Nat.pow 2 31 - 1, .precisionTooBig, .starTooPrecise⟩

/-- Checks a size, and says what is left to show: a star takes it. -/
def SizeLimit.check (l : SizeLimit) (pending : Option Value) :
    Option Size → Except LayoutError (Option Value)
  | none => .ok pending
  | some (.given n) => if l.greatest < n then .error l.exceeded else .ok pending
  | some .star =>
      match pending with
      | none => .error .nothingLeft
      | some v =>
          match v.int? with
          | none => .error .starNotInteger
          | some n =>
              if n < -(l.greatest : Int) - 1 ∨ (l.greatest : Int) < n then .error l.starExceeded
              else .ok none

def Size.nat : Size → Nat
  | .given n => n
  | .star => 0

/-- More characters than this do not fit. -/
def mostCharacters : Nat := Nat.pow 2 27

/-- More digits than this are never asked of a whole number. -/
def mostDigits : Nat := Nat.pow 2 31 - 4

namespace Conversion

def has (c : Conversion) (flag : Char) : Bool := c.flags.contains flag

def widthNat (c : Conversion) : Nat := (c.width.map Size.nat).getD 0

def precisionNat? (c : Conversion) : Option Nat := c.precision.map Size.nat

/-! ## Padding -/

/-- Padding is on the left unless the flags ask for the right. -/
def pad (c : Conversion) (t : Text) : Text :=
  if c.has '-' then Text.padRight c.widthNat ' ' t else Text.padLeft c.widthNat ' ' t

/-- Zeros that fill a number stand between its sign and its digits. -/
def padNumber (c : Conversion) (sign digits : Text) : Text :=
  if c.has '0' && !c.has '-' then sign ++ Text.padLeft (c.widthNat - sign.length) '0' digits
  else c.pad (sign ++ digits)

def sign (c : Conversion) (negative : Bool) : Text :=
  if negative then ['-']
  else if c.has '+' then ['+']
  else if c.has ' ' then [' ']
  else []

/-! ## Numbers -/

/-- The base that a letter asks for, and its mark. -/
def base : Char → Nat × Text
  | 'x' => (16, "0x")
  | 'X' => (16, "0X")
  | 'o' => (8, "0o")
  | _ => (10, [])

/-- A whole number: its digits in the base of the letter, at least as many as the precision asks. -/
def whole (c : Conversion) (letter : Char) (n : Int) : Except LayoutError Text :=
  let least := c.precisionNat?.getD 0
  if mostDigits < least then .error .tooManyDigits
  else if mostCharacters < least then .error .noMemory
  else
    let (base, mark) := base letter
    let digits := Nat.toDigits base n.natAbs
    let digits := if letter == 'X' then Text.upperAscii digits else digits
    let sign := c.sign (n < 0) ++ if c.has '#' then mark else []
    .ok (c.padNumber sign (Text.padLeft least '0' digits))

/-- How many digits a real number has after its point, or altogether in the general style. -/
def commonDigits : Nat := 6

def realStyle : Char → Binary64.RealStyle
  | 'e' | 'E' => .scientific
  | 'f' | 'F' => .fixed
  | _ => .general

def real (c : Conversion) (letter : Char) (x : Binary64) : Except LayoutError Text :=
  let digits := c.precisionNat?.getD commonDigits
  if mostCharacters < digits then .error .noMemory
  else
    let form : Binary64.RealForm := ⟨realStyle letter, digits, c.has '#'⟩
    let t := form.write x
    .ok (c.padNumber (c.sign x.isNegative) (if letter.isUpper then t.upperAscii else t))

/-- The real number next to a whole one. -/
def realOf (n : Int) : Except LayoutError Binary64 :=
  match Binary64.ofInt n with
  | .infinite _ => .error .beyondReals
  | x => .ok x

/-! ## Characters -/

/-- The character of a code point, or of a text that has one. -/
def character : Value → Except LayoutError Char
  | .text [c] => .ok c
  | v =>
      match v.int? with
      | none => .error .notCharacter
      | some n => if n < 0 ∨ 0x110000 ≤ n then .error .notCodePoint else .ok (Char.ofNat n.toNat)

/-- Every character outside ASCII as an escape. -/
def escaped (t : Text) : Text :=
  t.flatMap fun c => if c.toNat < 0x80 then [c] else Text.codeEscape c

/-! ## Fields -/

def cut (c : Conversion) (t : Text) : Text := (c.precisionNat?.map t.take).getD t

/-- What a field shows of a value; `place` is that of the letter in the layout. -/
def apply (c : Conversion) (letter : Char) (place : Nat) (v : Value) : Except LayoutError Text :=
  match letter with
  | 's' => .ok (c.pad (c.cut v.plain))
  | 'r' => .ok (c.pad (c.cut v.display))
  | 'a' => .ok (c.pad (c.cut (escaped v.display)))
  | 'c' => (character v).map fun x => c.pad [x]
  | 'e' | 'E' | 'f' | 'F' | 'g' | 'G' =>
      match v.int?, v with
      | some n, _ => (realOf n).bind (c.real letter)
      | none, .real x => c.real letter x
      | none, v => .error (.notReal v.typeName)
  | 'x' | 'X' | 'o' =>
      match v.int? with
      | some n => c.whole letter n
      | none => .error (.notInteger letter v.typeName)
  | 'd' | 'i' | 'u' =>
      match v.int?, v with
      | some n, _ => c.whole letter n
      | none, .real x =>
          match x.truncate? with
          | some n => c.whole letter n
          | none => .error (.notFinite x)
      | none, v => .error (.notNumber letter v.typeName)
  | letter => .error (.badLetter letter place)

/-- Shows what is pending, which nothing is afterwards. -/
def present (c : Conversion) (place : Nat) (pending : Option Value) : Except LayoutError Text := do
  let pending ← widthLimit.check pending c.width
  let pending ← precisionLimit.check pending c.precision
  match c.letter, pending with
  | none, _ => .error .incomplete
  | some _, none => .error .nothingLeft
  | some letter, some v =>
      if c.widthNat ≤ mostCharacters then c.apply letter place v
      else ({ c with width := none }.apply letter place v).bind fun _ => .error .noMemory

end Conversion

end Hypertag.Journal
