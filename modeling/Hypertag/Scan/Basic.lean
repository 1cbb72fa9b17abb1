import Hypertag.Scan.Engine
import Hypertag.Scan.Literal
import Hypertag.Text.Quoted

/-!
# Scanning

Search, replacement, splitting and trimming of text by a pattern. A needle that is plain text takes a
path of its own, without the pattern notation.
-/

namespace Hypertag

inductive Needle where
  | literal (t : Text)
  | pattern (e : Engine)

inductive ScanError where
  /-- A fault in a pattern or a template, which is written so. -/
  | malformed (written : Text) (e : Pattern.Error)
  | unknownGroup (name : Text)
  | emptySeparator
  | side (given : Text)
  deriving DecidableEq, Repr

def ScanError.message : ScanError → Text
  | .malformed written e => e.message written
  | .unknownGroup name => "unknown group name " ++ name.quoted
  | .emptySeparator => "empty separator"
  | .side given => "side must be 'both', 'left' or 'right', got: " ++ given.quoted

namespace Pattern

def detect (p : Pattern) (t : Text) : Bool := p.engine.detect t

def matchFirst? (p : Pattern) (t : Text) : Option Text := p.engine.matchFirst? t

def matchAll (p : Pattern) (t : Text) : List Text := p.engine.matchAll t

def replaceFirst (p : Pattern) (r : Replacement) (t : Text) : Text :=
  p.engine.replace t r (some 1)

def replaceAll (p : Pattern) (r : Replacement) (t : Text) : Text := p.engine.replace t r none

def removeFirst (p : Pattern) (t : Text) : Text := p.replaceFirst [] t

def removeAll (p : Pattern) (t : Text) : Text := p.replaceAll [] t

/-- The texts of a split; only a group that took no part has none. -/
def split (p : Pattern) (t : Text) : List Text := (p.engine.split t).filterMap id

end Pattern

namespace Needle

/-- A needle as it is written: plain text, or the notation of a pattern. -/
def read (text : Text) (fixed : Bool) : Except ScanError Needle :=
  if fixed then .ok (.literal text)
  else ((Pattern.read text).mapError (.malformed text)).map fun p => .pattern p.engine

def detect : Needle → Text → Bool
  | .literal p, t => Literal.detect p t
  | .pattern e, t => e.detect t

def matchFirst? : Needle → Text → Option Text
  | .literal p, t => Literal.matchFirst? p t
  | .pattern e, t => e.matchFirst? t

def matchAll : Needle → Text → List Text
  | .literal p, t => Literal.matchAll p t
  | .pattern e, t => e.matchAll t

/-- The template is read, and refused, whether or not anything matches. -/
def readTemplate (e : Engine) (template : Text) : Except ScanError Pattern.Replacement :=
  (Pattern.Replacement.read e.groups template).mapError fun
    | .malformed e => .malformed template e
    | .unknownName name => .unknownGroup name

def replaceFirst : Needle → Text → Text → Except ScanError Text
  | .literal p, r, t => .ok (Literal.replaceFirst p r t)
  | .pattern e, template, t => (readTemplate e template).map (e.replace t · (some 1))

def replaceAll : Needle → Text → Text → Except ScanError Text
  | .literal p, r, t => .ok (Literal.replaceAll p r t)
  | .pattern e, template, t => (readTemplate e template).map (e.replace t · none)

def removeFirst (n : Needle) (t : Text) : Except ScanError Text := n.replaceFirst [] t

def removeAll (n : Needle) (t : Text) : Except ScanError Text := n.replaceAll [] t

def split : Needle → Text → Except ScanError (List (Option Text))
  | .literal p, t =>
      match Literal.split? p t with
      | none => .error .emptySeparator
      | some parts => .ok (parts.map some)
  | .pattern e, t => .ok (e.split t)

end Needle

/-! ## Trimming -/

inductive Side where
  | both
  | left
  | right
  deriving DecidableEq, Repr

def Side.read (t : Text) : Except ScanError Side :=
  if t = "both".toList then .ok .both
  else if t = "left".toList then .ok .left
  else if t = "right".toList then .ok .right
  else .error (.side t)

namespace Pattern

/-- `\s+` -/
def blanks : Pattern := ⟨.run (.named .blank), []⟩

/-- `^\s+` -/
def leadingBlanks : Pattern := ⟨.sequence [.atStart, .run (.named .blank)], []⟩

/-- `\s+$` -/
def trailingBlanks : Pattern := ⟨.sequence [.run (.named .blank), .atEnd], []⟩

end Pattern

namespace Text

def trimLeft (t : Text) : Text := Pattern.leadingBlanks.removeAll t

def trimRight (t : Text) : Text := Pattern.trailingBlanks.removeAll t

def trim (t : Text) (side : Side) : Text :=
  match side with
  | .both => (t.trimLeft).trimRight
  | .left => t.trimLeft
  | .right => t.trimRight

end Text

end Hypertag
