import Hypertag.Text.Printable

/-!
# Quoted text

A text on one line between quotes. The quote is `'`, or `"` when the text holds `'` and no `"`. The
backslash, the chosen quote and every unprintable character are escaped, so no quoted text holds a
line end.
-/

namespace Hypertag.Text

/-- The quote that needs the fewest escapes, `'` when both do. -/
def quoteMark (t : Text) : Char :=
  if t.contains '\'' && !t.contains '"' then '"' else '\''

/-- A code point by its shortest escape: two, four or eight hexadecimal digits. -/
def codeEscape (c : Char) : Text :=
  if c.toNat < 0x100 then '\\' :: 'x' :: hex 2 c.toNat
  else if c.toNat < 0x10000 then '\\' :: 'u' :: hex 4 c.toNat
  else '\\' :: 'U' :: hex 8 c.toNat

def quoteChar (mark c : Char) : Text :=
  if c == mark || c == '\\' then ['\\', c]
  else if c == '\n' then ['\\', 'n']
  else if c == '\r' then ['\\', 'r']
  else if c == '\t' then ['\\', 't']
  else if isPrintable c then [c]
  else codeEscape c

def quoted (t : Text) : Text :=
  quoteMark t :: t.flatMap (quoteChar (quoteMark t)) ++ [quoteMark t]

/-! ## Bytes

Bytes are quoted like text after the letter `b`; only printable ASCII is shown as itself. -/

def quoteByte (mark : Char) (b : UInt8) : Text :=
  let c := Char.ofNat b.toNat
  if c == mark || c == '\\' then ['\\', c]
  else if c == '\n' then ['\\', 'n']
  else if c == '\r' then ['\\', 'r']
  else if c == '\t' then ['\\', 't']
  else if 0x20 ≤ b.toNat && b.toNat < 0x7F then [c]
  else '\\' :: 'x' :: hex 2 b.toNat

def quotedBytes (bytes : List UInt8) : Text :=
  let mark := quoteMark (bytes.map fun b => Char.ofNat b.toNat)
  'b' :: mark :: bytes.flatMap (quoteByte mark) ++ [mark]

end Hypertag.Text
