import Hypertag.Value

/-!
# Writing JSON

Documents are laid out over lines with two spaces for each level. A value that JSON has no form for
stops the writing; what was written before it stands.
-/

namespace Hypertag.Json

inductive WriteFault where
  | noForm (typeName : Text)
  | badKey (typeName : Text)
  deriving DecidableEq, Repr

def WriteFault.message : WriteFault → Text
  | .noForm typeName => "Object of type " ++ typeName ++ " is not JSON serializable"
  | .badKey typeName => "keys must be str, int, float, bool or None, not " ++ typeName

/-- What was written, and the fault that stopped it, if one did. -/
structure Emission where
  text : Text
  fault : Option WriteFault
  deriving DecidableEq, Repr

namespace Emission

def ofText (t : Text) : Emission := ⟨t, none⟩

/-- Nothing is written after a fault. -/
def append (a b : Emission) : Emission :=
  match a.fault with
  | none => ⟨a.text ++ b.text, b.fault⟩
  | some _ => a

instance : Append Emission := ⟨append⟩

def result (e : Emission) : Except WriteFault Text :=
  match e.fault with
  | none => .ok e.text
  | some fault => .error fault

end Emission

/-- Which characters are written as themselves. -/
inductive Alphabet where
  | unicode
  | ascii
  deriving DecidableEq, Repr

def escapeCode (n : Nat) : Text := '\\' :: 'u' :: Text.hex 4 n

/-- A code point above `0xFFFF` is written as two surrogates. -/
def escapeChar (c : Char) : Text :=
  if c.toNat < 0x10000 then escapeCode c.toNat
  else
    let n := c.toNat - 0x10000
    escapeCode (0xD800 + n / 0x400) ++ escapeCode (0xDC00 + n % 0x400)

def writeChar (alphabet : Alphabet) (c : Char) : Text :=
  if c == '"' then ['\\', '"']
  else if c == '\\' then ['\\', '\\']
  else if c == '\n' then ['\\', 'n']
  else if c == '\r' then ['\\', 'r']
  else if c == '\t' then ['\\', 't']
  else if c == '\x08' then ['\\', 'b']
  else if c == '\x0c' then ['\\', 'f']
  else if c.toNat < 0x20 then escapeCode c.toNat
  else if alphabet = .ascii ∧ 0x7F ≤ c.toNat then escapeChar c
  else [c]

def writeString (alphabet : Alphabet) (t : Text) : Text :=
  '"' :: t.flatMap (writeChar alphabet) ++ ['"']

def realText : Binary64 → Text
  | .nan => "NaN"
  | .infinite negative => if negative then "-Infinity" else "Infinity"
  | x => x.text

def boolText : Bool → Text
  | true => "true"
  | false => "false"

/-- The name that a key is written as. -/
def keyText? : Value → Option Text
  | .null => some "null"
  | .bool b => some (boolText b)
  | .int n => some (Text.ofInt n)
  | .real x => some (realText x)
  | .text t => some t
  | _ => none

/-- A line end and the indentation of a level. -/
def newLine (level : Nat) : Emission := .ofText ('\n' :: List.replicate (2 * level) ' ')

/-- The name of an entry and the mark after it. -/
def emitKey (alphabet : Alphabet) (k : Value) : Emission :=
  match keyText? k with
  | some t => .ofText (writeString alphabet t ++ ": ".toList)
  | none => ⟨[], some (.badKey k.typeName)⟩

mutual

def emit (alphabet : Alphabet) (level : Nat) : Value → Emission
  | .null => .ofText "null"
  | .bool b => .ofText (boolText b)
  | .int n => .ofText (Text.ofInt n)
  | .real x => .ofText (realText x)
  | .text t => .ofText (writeString alphabet t)
  | .list [] | .tuple [] => .ofText "[]"
  | .list (v :: rest) | .tuple (v :: rest) =>
      .ofText ['['] ++ newLine (level + 1) ++ emit alphabet (level + 1) v ++
        emitItems alphabet (level + 1) rest ++ newLine level ++ .ofText [']']
  | .dict [] => .ofText "\x7b\x7d"
  | .dict ((k, v) :: rest) =>
      .ofText ['\x7b'] ++ newLine (level + 1) ++ emitKey alphabet k ++
        emit alphabet (level + 1) v ++ emitEntries alphabet (level + 1) rest ++ newLine level ++
        .ofText ['\x7d']
  | v => ⟨[], some (.noForm v.typeName)⟩

def emitItems (alphabet : Alphabet) (level : Nat) : List Value → Emission
  | [] => .ofText []
  | v :: rest =>
      .ofText [','] ++ newLine level ++ emit alphabet level v ++ emitItems alphabet level rest

/-- A key without a form is found before the comma in front of it is written. -/
def emitEntries (alphabet : Alphabet) (level : Nat) : List (Value × Value) → Emission
  | [] => .ofText []
  | (k, v) :: rest =>
      let comma : Emission := if (keyText? k).isSome then .ofText [','] ++ newLine level else .ofText []
      comma ++ emitKey alphabet k ++ emit alphabet level v ++ emitEntries alphabet level rest

end

def write (alphabet : Alphabet) (v : Value) : Emission := emit alphabet 0 v

end Hypertag.Json
