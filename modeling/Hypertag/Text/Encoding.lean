import Hypertag.Text.Basic

/-!
# UTF-8

Files hold bytes. Reading refuses the first byte that no well-formed sequence allows, and names the
bytes of the longest well-formed beginning before it.
-/

namespace Hypertag

abbrev Bytes := List UInt8

namespace Encoding

def encodeChar (c : Char) : Bytes :=
  let n := c.toNat
  if n < 0x80 then [n.toUInt8]
  else if n < 0x800 then [(0xC0 + n / 0x40).toUInt8, (0x80 + n % 0x40).toUInt8]
  else if n < 0x10000 then
    [(0xE0 + n / 0x1000).toUInt8, (0x80 + n / 0x40 % 0x40).toUInt8, (0x80 + n % 0x40).toUInt8]
  else
    [(0xF0 + n / 0x40000).toUInt8, (0x80 + n / 0x1000 % 0x40).toUInt8,
      (0x80 + n / 0x40 % 0x40).toUInt8, (0x80 + n % 0x40).toUInt8]

def encode (t : Text) : Bytes := t.flatMap encodeChar

inductive Fault where
  | invalidStart
  | invalidContinuation
  | unexpectedEnd
  deriving DecidableEq, Repr

def Fault.message : Fault → Text
  | .invalidStart => "invalid start byte"
  | .invalidContinuation => "invalid continuation byte"
  | .unexpectedEnd => "unexpected end of data"

/-- `count` bytes from `position` on, the first of them `byte`, begin no character. -/
structure Error where
  fault : Fault
  position : Nat
  count : Nat
  byte : UInt8
  deriving DecidableEq, Repr

def Error.message (e : Error) : Text :=
  let place : Text :=
    if e.count = 1 then
      "byte 0x" ++ Text.hex 2 e.byte.toNat ++ " in position " ++ Text.ofNat e.position
    else
      "bytes in position " ++ Text.ofNat e.position ++ "-" ++
        Text.ofNat (e.position + e.count - 1)
  "'utf-8' codec can't decode " ++ place ++ ": " ++ e.fault.message

/-- A character whose first bytes are read: the bits so far, the continuation bytes still owed, and
the range of the next one. -/
structure Pending where
  position : Nat
  first : UInt8
  count : Nat
  code : Nat
  owed : Nat
  low : Nat
  high : Nat
  deriving DecidableEq, Repr

/-- What a first byte starts. The second byte's range excludes overlong forms, surrogates and code
points above `0x10FFFF`. -/
def lead? (position : Nat) (b : UInt8) : Option Pending :=
  let n := b.toNat
  if 0xC2 ≤ n && n ≤ 0xDF then some ⟨position, b, 1, n - 0xC0, 1, 0x80, 0xBF⟩
  else if n == 0xE0 then some ⟨position, b, 1, n - 0xE0, 2, 0xA0, 0xBF⟩
  else if n == 0xED then some ⟨position, b, 1, n - 0xE0, 2, 0x80, 0x9F⟩
  else if 0xE1 ≤ n && n ≤ 0xEF then some ⟨position, b, 1, n - 0xE0, 2, 0x80, 0xBF⟩
  else if n == 0xF0 then some ⟨position, b, 1, n - 0xF0, 3, 0x90, 0xBF⟩
  else if 0xF1 ≤ n && n ≤ 0xF3 then some ⟨position, b, 1, n - 0xF0, 3, 0x80, 0xBF⟩
  else if n == 0xF4 then some ⟨position, b, 1, n - 0xF0, 3, 0x80, 0x8F⟩
  else none

def decodeFrom (position : Nat) : Option Pending → Bytes → Except Error Text
  | none, [] => .ok []
  | some p, [] => .error ⟨.unexpectedEnd, p.position, p.count, p.first⟩
  | none, b :: rest =>
      if b.toNat < 0x80 then
        (decodeFrom (position + 1) none rest).map (Char.ofNat b.toNat :: ·)
      else
        match lead? position b with
        | none => .error ⟨.invalidStart, position, 1, b⟩
        | some p => decodeFrom (position + 1) (some p) rest
  | some p, b :: rest =>
      if p.low ≤ b.toNat && b.toNat ≤ p.high then
        let code := p.code * 0x40 + (b.toNat - 0x80)
        if p.owed ≤ 1 then
          (decodeFrom (position + 1) none rest).map (Char.ofNat code :: ·)
        else
          decodeFrom (position + 1)
            (some ⟨p.position, p.first, p.count + 1, code, p.owed - 1, 0x80, 0xBF⟩) rest
      else .error ⟨.invalidContinuation, p.position, p.count, p.first⟩

def decode (bytes : Bytes) : Except Error Text := decodeFrom 0 none bytes

end Encoding

end Hypertag
