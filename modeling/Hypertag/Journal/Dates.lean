import Hypertag.Journal.Calendar
import Hypertag.Text.Letters

/-!
# Date patterns

A pattern is text with codes, each a `%`, flags, a width, a modifier and a letter that names a part of
a moment. The flags `_`, `-` and `0` choose what numbers are filled with, `^` and `#` the case of words.
A code that names nothing stands for itself.
-/

namespace Hypertag

/-- What a code shows. -/
inductive DatePart where
  /-- A word that both case flags put into capitals. -/
  | word (t : Text)
  /-- Capitals, which the flag for the other case makes small. -/
  | capitals (t : Text)
  /-- Text whose case is not changed. -/
  | fixed (t : Text)
  /-- A number of at least so many digits. -/
  | number (least : Nat) (n : Int)
  /-- A number that is filled with blanks unless a flag says otherwise. -/
  | aligned (least : Nat) (n : Int)
  /-- The text of another pattern. -/
  | composed (pattern : Text)
  deriving DecidableEq, Repr

structure DateCode where
  /-- The latest of the flags `_`, `-` and `0`. -/
  fill : Option Char
  capitals : Bool
  otherCase : Bool
  width : Nat
  modifier : Option Char
  /-- Missing where the pattern ends before it. -/
  letter : Option Char
  /-- The code as it stands in the pattern. -/
  written : Text
  deriving DecidableEq, Repr

namespace Moment

/-- The parts that a letter stands for. -/
def parts? (m : Moment) : Char → Option (List DatePart)
  | 'Y' => some [.number 1 m.year]
  | 'C' => some [.number 1 (m.year / 100)]
  | 'y' => some [.number 2 (m.year % 100)]
  | 'G' => some [.number 1 m.isoWeek.1]
  | 'g' => some [.number 2 (m.isoWeek.1 % 100)]
  | 'm' => some [.number 2 m.month]
  | 'd' => some [.number 2 m.day]
  | 'e' => some [.aligned 2 m.day]
  | 'j' => some [.number 3 m.yearDay]
  | 'H' => some [.number 2 m.hour]
  | 'I' => some [.number 2 m.hour12]
  | 'k' => some [.aligned 2 m.hour]
  | 'l' => some [.aligned 2 m.hour12]
  | 'M' => some [.number 2 m.minute]
  | 'S' => some [.number 2 m.second]
  | 's' => some [.fixed (Text.ofInt m.seconds)]
  | 'w' => some [.number 1 m.weekday]
  | 'u' => some [.number 1 m.isoWeekday]
  | 'U' => some [.number 2 (m.weekFrom 0)]
  | 'W' => some [.number 2 (m.weekFrom 1)]
  | 'V' => some [.number 2 m.isoWeek.2]
  | 'a' => some [.word (m.weekdayName.take 3)]
  | 'A' => some [.word m.weekdayName]
  | 'b' | 'h' => some [.word (m.monthName.take 3)]
  | 'B' => some [.word m.monthName]
  | 'p' => some [.capitals m.halfDay]
  | 'P' => some [.fixed m.halfDay.lowerAscii]
  | 'Z' => some [.capitals "UTC"]
  | 'z' => some [.fixed ['+'], .number 4 0]
  | 'c' => some [.composed "%a %b %e %H:%M:%S %Y"]
  | 'D' | 'x' => some [.composed "%m/%d/%y"]
  | 'F' => some [.composed "%Y-%m-%d"]
  | 'R' => some [.composed "%H:%M"]
  | 'r' => some [.composed "%I:%M:%S %p"]
  | 'T' | 'X' => some [.composed "%H:%M:%S"]
  | 'n' => some [.fixed ['\n']]
  | 't' => some [.fixed ['\t']]
  | '%' => some [.fixed ['%']]
  | _ => none

end Moment

namespace DateCode

/-- A letter alone. -/
def plain (letter : Char) : DateCode := ⟨none, false, false, 0, none, some letter, ['%', letter]⟩

/-- The letters that the modifiers `E` and `O` cannot stand before. -/
def refuses (modifier letter : Char) : Bool :=
  if modifier == 'E' then Text.contains "%aAbBdDeFgGhHIjklmMSUVwW" letter
  else Text.contains "%aAcDFxXY" letter

def pad (c : DateCode) (t : Text) : Text :=
  Text.padLeft c.width (if c.fill = some '0' then '0' else ' ') t

/-- A letter that is one character in capitals too. -/
def capital (c : Char) : Char :=
  match upperOf c with
  | [u] => u
  | _ => c

def inCase (c : DateCode) (t : Text) : Text := if c.capitals then t.map capital else t

/-- A number by a fill of its own; zeros stand between sign and digits. -/
def number (c : DateCode) (fill : Option Char) (least : Nat) (n : Int) : Text :=
  let size := max least c.width
  match fill with
  | some '-' => c.pad (Text.ofInt n)
  | some '_' => Text.padLeft size ' ' (Text.ofInt n)
  | _ =>
      if n < 0 then '-' :: Text.padLeft (size - 1) '0' (Text.ofNat n.natAbs)
      else Text.padLeft size '0' (Text.ofNat n.natAbs)

def part (c : DateCode) (inner : Text → Text) : DatePart → Text
  | .word t => c.pad (if c.capitals || c.otherCase then t.map capital else t)
  | .capitals t => c.pad (if c.otherCase then t.lowerAscii else t)
  | .fixed t => c.pad t
  | .number least n => c.number c.fill least n
  | .aligned least n =>
      c.number (if c.fill = some '0' ∨ c.fill = some '-' then c.fill else some '_') least n
  | .composed pattern => c.pad (c.inCase (inner pattern))

/-- A code that names nothing is shown as it is written; before a `%` only that is left of it. -/
def unknown (c : DateCode) : Text :=
  c.pad (c.inCase (if c.letter = some '%' then ['%'] else c.written))

/-- A code with a modifier that its letter refuses. The short names of months have taken their case
before that is found. -/
def refused (c : DateCode) (letter : Char) : Text :=
  { c with capitals := c.capitals || c.otherCase && (letter == 'b' || letter == 'h') }.unknown

def write (c : DateCode) (m : Moment) (inner : Text → Text) : Text :=
  match c.letter with
  | none => c.unknown
  | some letter =>
      if c.modifier.any (refuses · letter) then c.refused letter
      else
        match m.parts? letter with
        | some parts => parts.flatMap (c.part inner)
        | none => c.unknown

def isFlag (c : Char) : Bool := Text.contains "_-0^#" c

def isFill (c : Char) : Bool := Text.contains "_-0" c

/-- The code after a `%`, and what follows it. -/
def read (t : Text) : DateCode × Text :=
  let flags := t.takeWhile isFlag
  let rest := t.drop flags.length
  let width := rest.takeWhile Char.isDigit
  let rest := rest.drop width.length
  let (modifier, rest) :=
    match rest with
    | 'E' :: rest => (some 'E', rest)
    | 'O' :: rest => (some 'O', rest)
    | rest => (none, rest)
  let (letter, rest) :=
    match rest with
    | [] => (none, [])
    | c :: rest => (some c, rest)
  (⟨(flags.filter isFill).getLast?, flags.contains '^', flags.contains '#', Text.digitsValue width,
    modifier, letter, '%' :: t.take (t.length - rest.length)⟩, rest)

end DateCode

namespace Moment

/-- By a pattern whose codes are letters alone. -/
def formatPlain (m : Moment) : Text → Text
  | '%' :: letter :: rest => (DateCode.plain letter).write m (fun _ => []) ++ formatPlain m rest
  | c :: rest => c :: formatPlain m rest
  | [] => []

/-- By a pattern, in less room than given. Every step takes a character, which is what the fuel
counts. -/
def formatWithin (m : Moment) : Nat → Nat → Text → Option Text
  | 0, _, _ => none
  | _ + 1, room, [] => if room = 0 then none else some []
  | fuel + 1, room, '%' :: rest =>
      let (code, rest) := DateCode.read rest
      if room ≤ code.width then none
      else
        let t := code.write m m.formatPlain
        if room ≤ t.length then none
        else (formatWithin m fuel (room - t.length) rest).map (t ++ ·)
  | fuel + 1, room, c :: rest =>
      if room ≤ 1 then none else (formatWithin m fuel (room - 1) rest).map (c :: ·)

/-- The room that a pattern's text may fill: a power of two that grows with the pattern. -/
def roomFor (pattern : Text) : Nat := 1024 * Nat.nextPowerOfTwo ((pattern.length + 3) / 4)

/-- A text that finds no room is left out altogether. -/
def format (m : Moment) (pattern : Text) : Text :=
  (m.formatWithin (pattern.length + 1) (roomFor pattern) pattern).getD []

end Moment

/-! ## Limits -/

inductive DateError where
  /-- The clock does not count so many seconds. -/
  | beyondClock
  /-- The calendar does not count so many years. -/
  | beyondCalendar
  /-- Nor can they be handed on to be written. -/
  | yearTooLarge
  | nulInPattern
  deriving DecidableEq, Repr

def DateError.message : DateError → Text
  | .beyondClock => "timestamp out of range for platform time_t"
  | .beyondCalendar => "[Errno 75] Value too large for defined data type"
  | .yearTooLarge => "signed integer is greater than maximum"
  | .nulInPattern => "embedded null character"

namespace Moment

/-- Years are counted from here, in 32 bits with a sign. -/
def firstCounted : Int := 1900

def ofClock (seconds : Int) : Except DateError Moment :=
  if seconds < -Int.pow 2 63 ∨ Int.pow 2 63 ≤ seconds then .error .beyondClock
  else
    let m := ofSeconds seconds
    let counted := m.year - firstCounted
    if counted < -Int.pow 2 31 ∨ Int.pow 2 31 ≤ counted then .error .beyondCalendar
    else if Int.pow 2 31 ≤ m.year then .error .yearTooLarge
    else .ok m

def formatChecked (seconds : Int) (pattern : Text) : Except DateError Text := do
  let m ← ofClock seconds
  if pattern.contains '\x00' then .error .nulInPattern
  return m.format pattern

end Moment

end Hypertag
