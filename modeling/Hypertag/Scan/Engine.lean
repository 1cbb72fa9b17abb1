import Hypertag.Pattern.Extent
import Hypertag.Pattern.Replacement

/-!
# Scanning with an engine

An engine says which match it prefers at a place of a text. Every scan asks it for one match after the
other in a loop of its own. After a match the next one is searched for from where the latest one ends;
when that one was empty, a match that starts at the same place must have a character.
-/

namespace Hypertag

/-- What finds matches in whole texts, so that a match may depend on the text around it. -/
structure Engine where
  /-- The groups that capture, some of which have a name. -/
  groups : List (Option Text)
  /-- The preferred match that starts exactly at a place; with `nonempty`, of those with a character. -/
  matchAt? : Text → Nat → Bool → Option Hit
  /-- A match is the text that stands at its place. -/
  stands : ∀ t n nonempty h, n ≤ t.length → matchAt? t n nonempty = some h → h.text <+: t.drop n
  moves : ∀ t n h, matchAt? t n true = some h → h.text ≠ []

/-- A match and where it starts. -/
structure Occurrence where
  start : Nat
  hit : Hit
  deriving DecidableEq, Repr

namespace Occurrence

def stop (o : Occurrence) : Nat := o.start + o.hit.text.length

def isEmpty (o : Occurrence) : Bool := o.hit.text.isEmpty

end Occurrence

/-- The characters from one place up to another. -/
def Text.slice (t : Text) (start stop : Nat) : Text := (t.take stop).drop start

namespace Engine

open Pattern (Replacement)

variable (e : Engine) (t : Text)

/-! ## The search -/

/-- Tries so many places one after the other. Only at the first one a character may be asked for. -/
def tryPlaces : Nat → Nat → Bool → Option Occurrence
  | 0, _, _ => none
  | places + 1, n, nonempty =>
      match e.matchAt? t n nonempty with
      | some h => some ⟨n, h⟩
      | none => tryPlaces places (n + 1) false

/-- The first match from a place on, which may also stand behind the last character. -/
def search (n : Nat) (nonempty : Bool) : Option Occurrence :=
  e.tryPlaces t (t.length + 1 - n) n nonempty

/-! ## Loops over all matches -/

/-- No loop that goes on from a place turns more often: at each place that is left, once for an empty
match and once for another one. -/
def turnsLeft (n : Nat) (nonempty : Bool) : Nat :=
  2 * (t.length - n) + if nonempty then 1 else 2

def occurrencesFrom : Nat → Nat → Bool → List Occurrence
  | 0, _, _ => []
  | turns + 1, n, nonempty =>
      match e.search t n nonempty with
      | none => []
      | some o => o :: occurrencesFrom turns o.stop o.isEmpty

def occurrences : List Occurrence := e.occurrencesFrom t (turnsLeft t 0 false) 0 false

/-- Replaces at most so many matches, or all. -/
def replaceFrom (r : Replacement) : Nat → Option Nat → Nat → Bool → Text
  | 0, _, n, _ => t.drop n
  | turns + 1, most, n, nonempty =>
      if most = some 0 then t.drop n
      else
        match e.search t n nonempty with
        | none => t.drop n
        | some o =>
            t.slice n o.start ++ r.expand o.hit ++
              replaceFrom r turns (most.map (· - 1)) o.stop o.isEmpty

def replace (r : Replacement) (most : Option Nat) : Text :=
  e.replaceFrom t r (turnsLeft t 0 false) most 0 false

/-- The texts between the matches, each followed by the groups of the match after it. -/
def splitFrom : Nat → Nat → Bool → List (Option Text)
  | 0, n, _ => [some (t.drop n)]
  | turns + 1, n, nonempty =>
      match e.search t n nonempty with
      | none => [some (t.drop n)]
      | some o =>
          some (t.slice n o.start) :: o.hit.groupTexts e.groups.length ++
            splitFrom turns o.stop o.isEmpty

def split : List (Option Text) := e.splitFrom t (turnsLeft t 0 false) 0 false

/-! ## The other scans -/

def detect : Bool := (e.search t 0 false).isSome

def matchFirst? : Option Text := (e.search t 0 false).map (·.hit.text)

def matchAll : List Text := (e.occurrences t).map (·.hit.text)

end Engine

namespace Pattern

/-- The engine of a pattern looks at the place and at the text from there on only. -/
def engine (p : Pattern) : Engine where
  groups := p.groups
  matchAt? t n nonempty := p.matchAt? n (t.drop n) nonempty
  stands _ _ _ _ _ hmatch := text_begins hmatch
  moves _ _ _ hmatch := text_ne_nil hmatch

end Pattern

end Hypertag
