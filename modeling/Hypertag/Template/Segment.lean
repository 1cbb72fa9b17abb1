import Hypertag.Template.State
import Hypertag.Value

/-!
# Splitting templates

The segments of a template alternate between literal text and code, beginning and ending with a
literal, possibly empty. The double braces belong to no segment.
-/

namespace Hypertag.Template

inductive TemplateError where
  | notText (typeName : Text)
  /-- The state at the end, and where the last code was opened. -/
  | unterminated (state : State) (openedAt : Option Nat)
  deriving DecidableEq, Repr

def TemplateError.message : TemplateError → Text
  | .notText typeName => "Template text must be a single string, got " ++ typeName
  | .unterminated .. =>
      "Template did not end in literal state (missing closing \"\x7d\x7d\")."

/-- What is known after a part of a template: finished segments and the characters of the current
one, both latest first. -/
structure Progress where
  state : State
  finished : List Text
  current : Text
  position : Nat
  openedAt : Option Nat
  deriving DecidableEq, Repr

namespace Progress

def start : Progress := ⟨.literal, [], [], 0, none⟩

/-- The first brace of a delimiter was taken for a character of the segment and leaves it again. -/
def feed (p : Progress) (c : Char) : Progress :=
  let next := p.state.next c
  if p.state.cuts c then
    ⟨next, (p.current.drop 1).reverse :: p.finished, [], p.position + 1,
      if next = .code then some (p.position - 1) else p.openedAt⟩
  else ⟨next, p.finished, c :: p.current, p.position + 1, p.openedAt⟩

def run (p : Progress) (t : Text) : Progress := t.foldl feed p

@[simp] theorem run_nil (p : Progress) : p.run [] = p := rfl

@[simp] theorem run_cons (p : Progress) (c : Char) (t : Text) :
    p.run (c :: t) = (p.feed c).run t := rfl

theorem run_append (p : Progress) (a b : Text) : p.run (a ++ b) = (p.run a).run b := by
  simp [run]

def finish (p : Progress) : Except TemplateError (List Text) :=
  if p.state.isFinal then .ok (p.current.reverse :: p.finished).reverse
  else .error (.unterminated p.state p.openedAt)

end Progress

def split (t : Text) : Except TemplateError (List Text) := (Progress.start.run t).finish

inductive SegmentKind where
  | literal
  | code
  deriving DecidableEq, Repr

def SegmentKind.name : SegmentKind → Text
  | .literal => "literal"
  | .code => "code"

/-- Even places hold literal text. -/
def SegmentKind.ofIndex (index : Nat) : SegmentKind := if index % 2 = 0 then .literal else .code

structure Segment where
  kind : SegmentKind
  text : Text
  index : Nat
  deriving DecidableEq, Repr

def segmentsOf (texts : List Text) : List Segment :=
  texts.zipIdx.map fun (text, index) => ⟨.ofIndex index, text, index⟩

def segments (t : Text) : Except TemplateError (List Segment) := (split t).map segmentsOf

def splitValue : Value → Except TemplateError (List Text)
  | .text t => split t
  | v => .error (.notText v.typeName)

/-- What is worth noting when a text has been split. -/
def note (t : Text) (texts : List Text) : Text :=
  "Split template of " ++ Text.ofNat t.length ++ " chars into " ++ Text.ofNat texts.length ++
    " segments"

end Hypertag.Template
