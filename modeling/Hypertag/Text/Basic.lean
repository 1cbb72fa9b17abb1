/-!
# Text

A text is the list of its code points, so every length, position and cut counts code points.
String literals coerce, which keeps wording readable where it is put together.
-/

namespace Hypertag

abbrev Text := List Char

instance : Coe String Text := ⟨String.toList⟩

namespace Text

/-- The parts in order, with `gap` between each two of them. -/
def join (gap : Text) : List Text → Text
  | [] => []
  | [part] => part
  | part :: next :: rest => part ++ gap ++ join gap (next :: rest)

@[simp] theorem join_nil (gap : Text) : join gap [] = [] := rfl

@[simp] theorem join_singleton (gap part : Text) : join gap [part] = part := rfl

@[simp] theorem join_cons_cons (gap part next : Text) (rest : List Text) :
    join gap (part :: next :: rest) = part ++ gap ++ join gap (next :: rest) := rfl

def contains (t : Text) (c : Char) : Bool := t.any (· == c)

/-! ## Numbers as text -/

def ofNat (n : Nat) : Text := Nat.toDigits 10 n

def ofInt (n : Int) : Text :=
  if n < 0 then '-' :: ofNat n.natAbs else ofNat n.natAbs

/-- Lower-case hexadecimal with leading zeros up to `width`; a longer number keeps its digits. -/
def hex (width n : Nat) : Text :=
  let digits := Nat.toDigits 16 n
  List.replicate (width - digits.length) '0' ++ digits

/-- The value of a run of ASCII digits read in base ten; other characters count as zero. -/
def digitsValue (t : Text) : Nat :=
  t.foldl (fun n c => 10 * n + (if c.isDigit then c.toNat - '0'.toNat else 0)) 0

/-- Only ASCII letters change. -/
def lowerAscii (t : Text) : Text := t.map Char.toLower

/-- Only ASCII letters change. -/
def upperAscii (t : Text) : Text := t.map Char.toUpper

/-! ## Padding -/

def padLeft (width : Nat) (fill : Char) (t : Text) : Text :=
  List.replicate (width - t.length) fill ++ t

def padRight (width : Nat) (fill : Char) (t : Text) : Text :=
  t ++ List.replicate (width - t.length) fill

/-! ## Lines -/

/-- Every line end, `\r\n`, `\r` or `\n`, read as `\n`. -/
def unifyNewlines : Text → Text
  | [] => []
  | '\r' :: '\n' :: rest => '\n' :: unifyNewlines rest
  | c :: rest => (if c == '\r' then '\n' else c) :: unifyNewlines rest

/-- Line and column of a position, both from one; only `\n` ends a line. -/
def lineColumn (t : Text) (position : Nat) : Nat × Nat :=
  (t.take position).foldl
    (fun (line, column) c => if c == '\n' then (line + 1, 1) else (line, column + 1)) (1, 1)

end Text

end Hypertag
