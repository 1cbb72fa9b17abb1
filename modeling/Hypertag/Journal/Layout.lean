import Hypertag.Journal.Conversion
import Hypertag.Journal.Record
import Hypertag.Text.Word

/-!
# Layouts of log lines

A layout is text with fields `%(name)s`, between the name and the conversion letter optional flags, a
width and a precision. A field without a name shows what was looked up last and not yet shown, at
first the whole record. The unified layout shows time, level, importance and message.
-/

namespace Hypertag.Journal

/-- `%(asctime)s | %(levelname)-8s | %(importance)s | %(message)s` -/
def unifiedLayout : Text :=
  "%(asctime)s | %(levelname)-8s | %(importance)s | %(message)s"

def unifiedDates : Text := "%Y-%m-%d %H:%M:%S"

/-- The line of a record in the unified layout. -/
def Record.line (r : Record) : Text :=
  (Moment.ofSeconds r.created).format unifiedDates ++ " | " ++
    Text.padRight 8 ' ' r.levelName ++ " | " ++ r.ranked.plain ++ " | " ++ r.message

/-! ## What counts as a layout

A layout has a field with a name, in a somewhat wider notation than is then read. -/

def isFlag (c : Char) : Bool := c == '#' || c == '0' || c == '+' || c == ' ' || c == '-'

/-- The letters of either case, with the dotted, dotless and long ones that fall together with them. -/
def conversionLetters : Text := "diouxefgcrsaDIOUXEFGCRSA%\u0130\u0131\u017f"

/-- A width or precision: digits of any script, or a star. -/
def skipSize (t : Text) : Text :=
  match t with
  | '*' :: rest => rest
  | t => t.dropWhile isDecimal

/-- Whether a field of any name starts here, after the `%`. -/
def fieldStarts (t : Text) : Bool :=
  match t with
  | '(' :: rest =>
      let name := rest.takeWhile isWordChar
      match rest.drop name.length with
      | ')' :: rest =>
          let rest := skipSize (rest.dropWhile isFlag)
          let rest :=
            match rest with
            | '.' :: '*' :: rest => rest
            | '.' :: c :: more => if isDecimal c then more.dropWhile isDecimal else rest
            | rest => rest
          !name.isEmpty && rest.head?.any conversionLetters.contains
      | _ => false
  | _ => false

def hasField : Text → Bool
  | [] => false
  | c :: rest => c == '%' && fieldStarts rest || hasField rest

def isInfix (part : Text) : Text → Bool
  | [] => part.isEmpty
  | c :: rest => part.isPrefixOf (c :: rest) || isInfix part rest

def showsTime (layout : Text) : Bool := isInfix "%(asctime)" layout

/-! ## Items -/

/-- Faults are found when the items before them have been written. -/
inductive Item where
  | plain (c : Char)
  /-- A field, with the place of its letter. -/
  | field (name : Option Text) (conversion : Conversion) (place : Nat)
  /-- The layout ends inside the name of a field. -/
  | cutName
  deriving DecidableEq, Repr

def isSizeLetter (c : Char) : Bool := c == 'h' || c == 'l' || c == 'L'

/-- A star or digits, when there is one of them. -/
def readSize (t : Text) : Option Size × Text :=
  match t with
  | '*' :: rest => (some .star, rest)
  | t =>
      let digits := t.takeWhile Char.isDigit
      (if digits.isEmpty then none else some (.given (Text.digitsValue digits)),
        t.drop digits.length)

/-- A precision without digits is zero. -/
def readPrecision (t : Text) : Option Size × Text :=
  match t with
  | '.' :: rest =>
      let (size, rest) := readSize rest
      (some (size.getD (.given 0)), rest)
  | t => (none, t)

/-- The conversion after a field's name, and what stands from its letter on. -/
def readConversion (t : Text) : Conversion × Text :=
  let flags := t.takeWhile isFlag
  let (width, rest) := readSize (t.drop flags.length)
  let (precision, rest) := readPrecision rest
  let rest := if rest.head?.any isSizeLetter then rest.drop 1 else rest
  (⟨flags, width, precision, rest.head?⟩, rest)

/-- The name of a field up to its closing parenthesis, of which one is owed for each that was opened,
and what follows. -/
def readName? : Nat → Text → Option (Text × Text)
  | _, [] => none
  | owed, ')' :: rest =>
      match owed with
      | 0 => some ([], rest)
      | owed + 1 => (readName? owed rest).map fun (name, after) => (')' :: name, after)
  | owed, '(' :: rest => (readName? (owed + 1) rest).map fun (name, after) => ('(' :: name, after)
  | owed, c :: rest => (readName? owed rest).map fun (name, after) => (c :: name, after)

/-- The items of a layout. Every step takes a character, which is what the fuel counts; `stop` is the
length of the layout. -/
def readItems (stop : Nat) : Nat → Text → List Item
  | 0, _ => []
  | _ + 1, [] => []
  | fuel + 1, '%' :: '%' :: rest => .plain '%' :: readItems stop fuel rest
  | fuel + 1, '%' :: rest =>
      let named? : Option (Option Text × Text) :=
        match rest with
        | '(' :: rest => (readName? 0 rest).map fun (name, after) => (some name, after)
        | rest => some (none, rest)
      match named? with
      | none => [.cutName]
      | some (name?, afterName) =>
          let (conversion, rest) := readConversion afterName
          .field name? conversion (stop - rest.length) :: readItems stop fuel (rest.drop 1)
  | fuel + 1, c :: rest => .plain c :: readItems stop fuel rest

/-! ## Lines -/

/-- The name under which records are logged. -/
def packageName : Text := "tag_tools"

/-- What the fields stand for. Records made apart from any program text stand in line one, and come
without an exception or a stack. There is a time only where the layout shows one. -/
def Record.fields (r : Record) (time : Option Text) : List (Text × Value) :=
  let always : List (Text × Value) :=
    [("name", .text packageName), ("msg", .text r.message), ("args", .null),
      ("levelname", .text r.levelName), ("levelno", .int r.level), ("exc_info", .null),
      ("exc_text", .null), ("stack_info", .null), ("lineno", .int 1), ("funcName", .null),
      ("created", .real (.ofInt r.created)), ("msecs", .real (.zero false)),
      ("threadName", .text "MainThread"), ("processName", .text "MainProcess"),
      ("importance", r.ranked), ("message", .text r.message)]
  match time with
  | none => always
  | some t => ("asctime", .text t) :: always

/-- What the latest named field has found and no field has shown, given what was before it. -/
def found (fields : List (Text × Value)) (pending : Option Value) :
    Option Text → Except LayoutError (Option Value)
  | none => .ok pending
  | some name =>
      match fields.lookup name with
      | none => .error (.unknownField name)
      | some v => .ok (some v)

def renderItems (fields : List (Text × Value)) : Option Value → List Item → Except LayoutError Text
  | _, [] => .ok []
  | pending, .plain c :: rest => (renderItems fields pending rest).map (c :: ·)
  | _, .cutName :: _ => .error .incompleteName
  | pending, .field name? conversion place :: rest => do
      let pending ← found fields pending name?
      let t ← conversion.present place pending
      let more ← renderItems fields none rest
      return t ++ more

/-- Without a date pattern the time ends in milliseconds. -/
def timeText (r : Record) (dates : Text) : Except DateError Text :=
  if dates.isEmpty then (Moment.formatChecked r.created unifiedDates).map (· ++ ",000".toList)
  else Moment.formatChecked r.created dates

/-- The line of a record in a given layout; an empty layout shows the message alone. -/
def Record.render (r : Record) (layout dates : Text) : Except LayoutError Text := do
  let layout : Text := if layout.isEmpty then "%(message)s" else layout
  if !hasField layout then .error (.noField layout)
  let time ←
    if showsTime layout then ((timeText r dates).mapError .date).map some else .ok none
  let fields := r.fields time
  let whole : Value := .dict (fields.map fun (name, v) => (.text name, v))
  renderItems fields (some whole) (readItems layout.length (layout.length + 1) layout)

/-- A time in whole seconds as a clock that counts in real numbers has it. -/
def clockTime (seconds : Int) : Except LayoutError Int :=
  match (Binary64.ofInt seconds).truncate? with
  | some n => .ok n
  | none => .error .beyondReals

end Hypertag.Journal
