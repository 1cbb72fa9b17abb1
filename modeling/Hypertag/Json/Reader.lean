import Hypertag.Text.Numeral
import Hypertag.Value

/-!
# Reading JSON

Reads a document into a value. Beyond the standard, `NaN` and `Infinity` are numbers, and a repeated
name keeps its first place with the last value. The first fault met from the left is reported, with
its line, column and position.
-/

namespace Hypertag.Json

inductive Fault where
  | byteOrderMark
  | expectingValue
  | expectingName
  | expectingColon
  | expectingComma
  | extraData
  | unterminatedString
  | controlCharacter
  | badEscape
  | badUnicodeEscape
  deriving DecidableEq, Repr

def Fault.message : Fault → Text
  | .byteOrderMark => "Unexpected UTF-8 BOM (decode using utf-8-sig)"
  | .expectingValue => "Expecting value"
  | .expectingName => "Expecting property name enclosed in double quotes"
  | .expectingColon => "Expecting ':' delimiter"
  | .expectingComma => "Expecting ',' delimiter"
  | .extraData => "Extra data"
  | .unterminatedString => "Unterminated string starting at"
  | .controlCharacter => "Invalid control character at"
  | .badEscape => "Invalid \\escape"
  | .badUnicodeEscape => "Invalid \\uXXXX escape"

inductive Container where
  | array
  | object
  deriving DecidableEq, Repr

def Container.name : Container → Text
  | .array => "array"
  | .object => "object"

inductive Failure where
  | malformed (fault : Fault) (position : Nat)
  | tooManyDigits (count : Nat)
  /-- A container inside too many others. -/
  | tooDeep (container : Container)
  deriving DecidableEq, Repr

/-- A place in a document. -/
structure Place where
  position : Nat
  rest : Text
  deriving DecidableEq, Repr

namespace Place

def drop (p : Place) (n : Nat) : Place := ⟨p.position + n, p.rest.drop n⟩

def isJsonBlank (c : Char) : Bool := c == ' ' || c == '\t' || c == '\n' || c == '\r'

def skipBlanks (p : Place) : Place := p.drop (p.rest.takeWhile isJsonBlank).length

def fail (p : Place) (fault : Fault) : Except Failure α := .error (.malformed fault p.position)

end Place

/-! ## Strings -/

def hexValue? (c : Char) : Option Nat :=
  if '0' ≤ c ∧ c ≤ '9' then some (c.toNat - '0'.toNat)
  else if 'a' ≤ c ∧ c ≤ 'f' then some (c.toNat - 'a'.toNat + 10)
  else if 'A' ≤ c ∧ c ≤ 'F' then some (c.toNat - 'A'.toNat + 10)
  else none

def hexCode? (a b c d : Char) : Option Nat := do
  return ((← hexValue? a) * 16 + (← hexValue? b)) * 256 + (← hexValue? c) * 16 + (← hexValue? d)

def isHighSurrogate (n : Nat) : Bool := 0xD800 ≤ n && n ≤ 0xDBFF

def isLowSurrogate (n : Nat) : Bool := 0xDC00 ≤ n && n ≤ 0xDFFF

def joinSurrogates (high low : Nat) : Char :=
  Char.ofNat (0x10000 + (high - 0xD800) * 0x400 + (low - 0xDC00))

/-- A surrogate on its own is no character; it is read as the replacement character. -/
def codeChar (n : Nat) : Char :=
  if 0xD800 ≤ n && n ≤ 0xDFFF then '\ufffd' else Char.ofNat n

def simpleEscape? : Char → Option Char
  | '"' => some '"'
  | '\\' => some '\\'
  | '/' => some '/'
  | 'b' => some '\x08'
  | 'f' => some '\x0c'
  | 'n' => some '\n'
  | 'r' => some '\r'
  | 't' => some '\t'
  | _ => none

def prepend (c : Char) (r : Except Failure (Text × Place)) : Except Failure (Text × Place) :=
  r.map fun (t, p) => (c :: t, p)

/-- Reads the characters after the opening quote, which stands at `opened`. A code escape needs a
character after its four digits. -/
def readStringFrom (opened position : Nat) : Text → Except Failure (Text × Place)
  | [] => .error (.malformed .unterminatedString opened)
  | '"' :: rest => .ok ([], ⟨position + 1, rest⟩)
  | ['\\'] => .error (.malformed .unterminatedString opened)
  | '\\' :: 'u' :: a :: b :: c :: d :: next :: rest =>
      match hexCode? a b c d with
      | none => .error (.malformed .badUnicodeEscape (position + 1))
      | some high =>
          match isHighSurrogate high, next, rest with
          | true, '\\', 'u' :: e :: f :: g :: h :: last :: after =>
              match hexCode? e f g h with
              | none => .error (.malformed .badUnicodeEscape (position + 7))
              | some low =>
                  if isLowSurrogate low then
                    prepend (joinSurrogates high low)
                      (readStringFrom opened (position + 12) (last :: after))
                  else
                    prepend (codeChar high)
                      (readStringFrom opened (position + 6)
                        ('\\' :: 'u' :: e :: f :: g :: h :: last :: after))
          | _, next, rest =>
              prepend (codeChar high) (readStringFrom opened (position + 6) (next :: rest))
  | '\\' :: 'u' :: _ => .error (.malformed .badUnicodeEscape (position + 1))
  | '\\' :: c :: rest =>
      match simpleEscape? c with
      | some e => prepend e (readStringFrom opened (position + 2) rest)
      | none => .error (.malformed .badEscape position)
  | c :: rest =>
      if c.toNat < 0x20 then .error (.malformed .controlCharacter position)
      else prepend c (readStringFrom opened (position + 1) rest)
termination_by t => t.length

/-! ## Numbers -/

/-- The sign and digits of an exponent, when there are digits. -/
def exponent? : Text → Option (Bool × Text × Nat)
  | e :: rest =>
      if e == 'e' || e == 'E' then
        let (negative, marks, digits) :=
          match rest with
          | '-' :: rest => (true, 2, rest)
          | '+' :: rest => (false, 2, rest)
          | rest => (false, 1, rest)
        let digits := digits.takeWhile Char.isDigit
        if digits.isEmpty then none else some (negative, digits, marks + digits.length)
      else none
  | [] => none

/-- A number is an integer unless it has a fraction or an exponent. A leading zero ends the integer
digits. -/
def readNumber (p : Place) : Except Failure (Value × Place) :=
  let negative := p.rest.head? == some '-'
  let start := if negative then p.drop 1 else p
  let whole :=
    if start.rest.head? == some '0' then ['0'] else start.rest.takeWhile Char.isDigit
  if whole.isEmpty then p.fail .expectingValue
  else
    let afterWhole := start.drop whole.length
    let fraction :=
      match afterWhole.rest with
      | '.' :: rest => rest.takeWhile Char.isDigit
      | _ => []
    let afterFraction :=
      if fraction.isEmpty then afterWhole else afterWhole.drop (fraction.length + 1)
    match exponent? afterFraction.rest with
    | some (down, digits, taken) =>
        let power : Int := Text.digitsValue digits
        let power := (if down then -power else power) - fraction.length
        .ok (.real (.ofDecimal negative (Text.digitsValue (whole ++ fraction)) power),
          afterFraction.drop taken)
    | none =>
        if fraction.isEmpty then
          if Text.longestNumeral < whole.length then .error (.tooManyDigits whole.length)
          else
            let n : Int := Text.digitsValue whole
            .ok (.int (if negative then -n else n), afterFraction)
        else
          .ok (.real (.ofDecimal negative (Text.digitsValue (whole ++ fraction)) (-fraction.length)),
            afterFraction)

/-! ## Documents -/

def words : List (Text × Value) :=
  [("null", .null), ("true", .bool true), ("false", .bool false), ("NaN", .real .nan),
    ("Infinity", .real (.infinite false)), ("-Infinity", .real (.infinite true))]

def readWord? (p : Place) : Option (Value × Place) :=
  (words.find? fun (word, _) => word.isPrefixOf p.rest).map fun (word, v) => (v, p.drop word.length)

/-- So many containers may be open at once. -/
def deepest : Nat := 985

mutual

/-- Reads a value inside so many containers. Fuel bounds the nesting and the items together; a
document's length allows for both. -/
def readValue (depth : Nat) : Nat → Place → Except Failure (Value × Place)
  | 0, p => p.fail .expectingValue
  | fuel + 1, p =>
      match p.rest with
      | '"' :: rest => (readStringFrom p.position (p.position + 1) rest).map fun (t, p) => (.text t, p)
      | '[' :: _ =>
          let inside := (p.drop 1).skipBlanks
          if deepest ≤ depth then .error (.tooDeep .array)
          else if inside.rest.head? == some ']' then .ok (.list [], inside.drop 1)
          else (readItems (depth + 1) fuel inside).map fun (items, p) => (.list items, p)
      | '\x7b' :: _ =>
          let inside := (p.drop 1).skipBlanks
          if deepest ≤ depth then .error (.tooDeep .object)
          else if inside.rest.head? == some '\x7d' then .ok (.dict [], inside.drop 1)
          else
            (readEntries (depth + 1) fuel inside).map fun (entries, p) => (Value.dictOf entries, p)
      | _ =>
          match readWord? p with
          | some r => .ok r
          | none => readNumber p

def readItems (depth : Nat) : Nat → Place → Except Failure (List Value × Place)
  | 0, p => p.fail .expectingValue
  | fuel + 1, p => do
      let (v, after) ← readValue depth fuel p
      let after := after.skipBlanks
      match after.rest with
      | ']' :: _ => return ([v], after.drop 1)
      | ',' :: _ =>
          let (items, last) ← readItems depth fuel (after.drop 1).skipBlanks
          return (v :: items, last)
      | _ => after.fail .expectingComma

def readEntries (depth : Nat) : Nat → Place → Except Failure (List (Value × Value) × Place)
  | 0, p => p.fail .expectingName
  | fuel + 1, p =>
      match p.rest with
      | '"' :: rest => do
          let (name, after) ← readStringFrom p.position (p.position + 1) rest
          let colon := after.skipBlanks
          if colon.rest.head? != some ':' then colon.fail .expectingColon
          let (v, after) ← readValue depth fuel (colon.drop 1).skipBlanks
          let after := after.skipBlanks
          match after.rest with
          | '\x7d' :: _ => return ([(.text name, v)], after.drop 1)
          | ',' :: _ =>
              let (entries, last) ← readEntries depth fuel (after.drop 1).skipBlanks
              return ((.text name, v) :: entries, last)
          | _ => after.fail .expectingComma
      | _ => p.fail .expectingName

end

def readDocument (t : Text) : Except Failure Value := do
  if t.head? == some '\ufeff' then .error (.malformed .byteOrderMark 0)
  let start : Place := ⟨0, t⟩
  let (v, after) ← readValue 0 (2 * t.length + 2) start.skipBlanks
  let after := after.skipBlanks
  if after.rest.isEmpty then return v else after.fail .extraData

/-- A failure with the place in the document worked out. -/
inductive Error where
  | malformed (fault : Fault) (line column position : Nat)
  | tooManyDigits (count : Nat)
  | tooDeep (container : Container)
  deriving DecidableEq, Repr

def Failure.locate (t : Text) : Failure → Error
  | .malformed fault position =>
      let (line, column) := t.lineColumn position
      .malformed fault line column position
  | .tooManyDigits count => .tooManyDigits count
  | .tooDeep container => .tooDeep container

def Error.message : Error → Text
  | .malformed fault line column position =>
      fault.message ++ ": line " ++ Text.ofNat line ++ " column " ++ Text.ofNat column ++
        " (char " ++ Text.ofNat position ++ ")"
  | .tooManyDigits count => Text.tooManyDigits count
  | .tooDeep container =>
      "maximum recursion depth exceeded while decoding a JSON " ++ container.name ++
        " from a unicode string"

def read (t : Text) : Except Error Value := (readDocument t).mapError (·.locate t)

end Hypertag.Json
