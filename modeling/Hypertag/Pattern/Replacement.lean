import Hypertag.Pattern.Matcher
import Hypertag.Pattern.Reader

/-!
# Replacement templates

A template is text with references to groups, `\1`, `\g<1>` or `\g<name>`. A backslash before a letter or a
digit must have a meaning; before any other character it is kept, except that two make one.
-/

namespace Hypertag.Pattern

inductive Fill where
  | text (t : Text)
  | group (number : Nat)
  deriving DecidableEq, Repr

abbrev Replacement := List Fill

namespace Replacement

/-- A name between angle brackets that no group of the pattern has. -/
inductive Problem where
  | malformed (e : Error)
  | unknownName (name : Text)
  deriving DecidableEq, Repr

def isOctal (c : Char) : Bool := '0' ≤ c && c ≤ '7'

def octalValue (t : Text) : Nat := t.foldl (fun n c => 8 * n + (c.toNat - '0'.toNat)) 0

def reference (groups : List (Option Text)) (number position : Nat) : Except Problem Fill :=
  if number ≤ groups.length then .ok (.group number)
  else .error (.malformed ⟨.invalidReference number, position⟩)

def settled (rest : Lexemes) : Except Problem Unit := (ready rest).mapError .malformed

/-- The reference after `\g`. `stop` is the length of the template. -/
def readNamed (groups : List (Option Text)) (stop : Nat) : Lexemes → Except Problem (Fill × Lexemes)
  | (place, .plain '<') :: rest => do
      settled rest
      let (name, after) ← (readName (place + 1) rest).mapError .malformed
      if name.isName then
        match groups.idxOf? (some name) with
        | some index => return (.group (index + 1), after)
        | none => .error (.unknownName name)
      else
        match name.readInt? with
        | some (.ofNat number) => do
            let fill ← reference groups number (place + 1)
            return (fill, after)
        | _ => .error (.malformed ⟨.badGroupName name, place + 1⟩)
  | (place, _) :: _ => .error (.malformed ⟨.missingAngle, place⟩)
  | [] => .error (.malformed ⟨.missingAngle, stop⟩)

/-- A digit after a backslash begins a reference, or a character by its octal code when it is zero
or the first of three octal digits. -/
def readNumbered (groups : List (Option Text)) (position : Nat) (c : Char) (rest : Lexemes) :
    Except Problem (Fill × Lexemes) :=
  match c, rest with
  | '0', (_, .plain a) :: (_, .plain b) :: after =>
      if isOctal a && isOctal b then
        .ok (.text [Char.ofNat (octalValue [a, b] % 0x100)], after)
      else if isOctal a then
        .ok (.text [Char.ofNat (octalValue [a])], (position + 3, .plain b) :: after)
      else .ok (.text ['\x00'], rest)
  | '0', [(_, .plain a)] =>
      if isOctal a then .ok (.text [Char.ofNat (octalValue [a])], []) else .ok (.text ['\x00'], rest)
  | '0', rest => .ok (.text ['\x00'], rest)
  | c, (_, .plain a) :: (_, .plain b) :: after =>
      if isOctal c && isOctal a && isOctal b then
        let code := octalValue [c, a, b]
        if code < 0x100 then .ok (.text [Char.ofNat code], after)
        else .error (.malformed ⟨.octalRange ['\\', c, a, b], position⟩)
      else if a.isDigit then
        (reference groups (Text.digitsValue [c, a]) (position + 1)).map
          (·, (position + 3, .plain b) :: after)
      else (reference groups (Text.digitsValue [c]) (position + 1)).map (·, rest)
  | c, (_, .plain a) :: after =>
      if a.isDigit then
        (reference groups (Text.digitsValue [c, a]) (position + 1)).map (·, after)
      else (reference groups (Text.digitsValue [c]) (position + 1)).map (·, rest)
  | c, rest => (reference groups (Text.digitsValue [c]) (position + 1)).map (·, rest)

/-- In a template `\b` is the backspace character. -/
def templateEscape? (c : Char) : Option Char :=
  if c == 'b' then some '\x08' else controlEscape? c

def readFrom (groups : List (Option Text)) (stop : Nat) : Nat → Lexemes → Except Problem Replacement
  | 0, _ => .ok []
  | _ + 1, [] => .ok []
  | fuel + 1, (position, lexeme) :: rest => do
      settled rest
      match lexeme with
      | .lone => .error (.malformed ⟨.trailingBackslash, position⟩)
      | .plain c =>
          let more ← readFrom groups stop fuel rest
          return .text [c] :: more
      | .escaped c =>
          if c == 'g' then
            let (fill, rest) ← readNamed groups stop rest
            let more ← readFrom groups stop fuel rest
            return fill :: more
          else if c.isDigit then
            let (fill, rest) ← readNumbered groups position c rest
            settled rest
            let more ← readFrom groups stop fuel rest
            return fill :: more
          else
            let kept ←
              match templateEscape? c with
              | some control => pure [control]
              | none =>
                  if c.isAlpha then
                    .error (.malformed ⟨.badEscape ['\\', c], position⟩)
                  else pure (if c == '\\' then ['\\'] else ['\\', c])
            let more ← readFrom groups stop fuel rest
            return .text kept :: more

/-- Reads a template for a pattern with these groups. -/
def read (groups : List (Option Text)) (t : Text) : Except Problem Replacement := do
  let all := lexemes 0 t
  settled all
  readFrom groups t.length (all.length + 1) all

/-- The text put in place of a match; a group that took no part gives nothing. -/
def expand (r : Replacement) (h : Hit) : Text :=
  r.flatMap fun
    | .text t => t
    | .group n => (h.group? n).getD []

end Replacement

end Hypertag.Pattern
