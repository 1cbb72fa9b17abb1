import Hypertag.Pattern.Basic

/-!
# Matching a pattern at a place

A match is searched by trying choices in order and going back to the latest one when the rest of the
pattern does not fit. What follows a node is passed as a function, so the first success found is the
one that the order of choices prefers.
-/

namespace Hypertag

/-- A place in a text, with the texts captured on the way, the latest first. -/
structure Cursor where
  position : Nat
  rest : Text
  captured : List (Nat × Text)
  deriving DecidableEq, Repr

namespace Cursor

def step (c : Cursor) (rest : Text) : Cursor := ⟨c.position + 1, rest, c.captured⟩

/-- The text from `start` up to this place. -/
def since (c start : Cursor) : Text := start.rest.take (c.position - start.position)

def capture (c start : Cursor) : Option Nat → Cursor
  | none => c
  | some n => { c with captured := (n, c.since start) :: c.captured }

end Cursor

abbrev Continuation := Cursor → Option Cursor

/-- A way to match something from a place on, then what follows it. -/
abbrev Step := Cursor → Continuation → Option Cursor

namespace Step

/-- Only the preferred way counts: if what follows does not fit it, no other is tried. -/
def once (body : Step) : Step := fun c next => (body c some).bind next

/-- Exactly so many repetitions. -/
def times (body : Step) : Nat → Step
  | 0, c, next => next c
  | n + 1, c, next => body c fun d => times body n d next

/-- Further repetitions, of which at most `most` may come. One is tried only if the previous one did not
start here, so one that matched nothing ends the loop. The characters of the fuel are counted, one for
each repetition. -/
def further (body : Step) (lazy : Bool) (next : Continuation) :
    Text → Option Nat → Option Nat → Continuation
  | [], _, _, _ => none
  | _ :: fuel, most, last, c =>
      let more : Unit → Option Cursor := fun _ =>
        if most != some 0 && last != some c.position then
          body c (further body lazy next fuel (most.map (· - 1)) (some c.position))
        else none
      if lazy then (next c).orElse more else (more ()).orElse fun _ => next c

/-- A repetition that matches something takes a character of the rest; one more may match nothing. -/
def repeated (body : Step) (least : Nat) (most : Option Nat) (lazy : Bool) : Step :=
  fun c next =>
    times body least c fun d =>
      further body lazy next (' ' :: ' ' :: d.rest) (most.map (· - least)) none d

end Step

namespace Node

/-- Matches the node from a place on, then what follows it. -/
def matchThen : Node → Step
  | .empty, c, next => next c
  | .one test, c, next =>
      match c.rest with
      | [] => none
      | x :: rest => if test.holds x then next (c.step rest) else none
  | .atStart, c, next => if c.position == 0 then next c else none
  | .atEnd, c, next => if c.rest.isEmpty || c.rest == ['\n'] then next c else none
  | .both first second, c, next => first.matchThen c fun d => second.matchThen d next
  | .either first second, c, next =>
      (first.matchThen c next).orElse fun _ => second.matchThen c next
  | .group number body, c, next => body.matchThen c fun d => next (d.capture c number)
  | .repeated body least most mode, c, next =>
      match mode with
      | .greedy => Step.repeated body.matchThen least most false c next
      | .lazy => Step.repeated body.matchThen least most true c next
      | .possessive => Step.once (Step.repeated (Step.once body.matchThen) least most false) c next

end Node

/-- A text that matched, with the texts of the groups that took part. -/
structure Hit where
  text : Text
  captured : List (Nat × Text)
  deriving DecidableEq, Repr

/-- The text of a group, or of the whole match for group zero. -/
def Hit.group? (h : Hit) (n : Nat) : Option Text :=
  if n = 0 then some h.text else h.captured.lookup n

/-- The texts of so many groups in order. -/
def Hit.groupTexts (h : Hit) (groups : Nat) : List (Option Text) :=
  (List.range groups).map fun n => h.group? (n + 1)

namespace Pattern

/-- The preferred match that starts exactly here; with `nonempty`, of those with a character. -/
def matchAt? (p : Pattern) (position : Nat) (rest : Text) (nonempty : Bool) : Option Hit :=
  let start : Cursor := ⟨position, rest, []⟩
  let accept : Continuation := fun d =>
    if nonempty && d.position == position then none else some d
  (p.root.matchThen start accept).map fun d => ⟨d.since start, d.captured⟩

end Pattern

end Hypertag
