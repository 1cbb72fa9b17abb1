import Hypertag.Text.Basic

/-!
# Scanning for a literal

Plain text is searched for by comparing it with the text at each place, and the next search goes on with
what stands after the place found.
-/

namespace Hypertag.Literal

/-- The text before the first place where the literal stands, and the text after it. -/
def cut? (p : Text) : Text → Option (Text × Text)
  | [] => if p.isEmpty then some ([], []) else none
  | c :: rest =>
      if p.isPrefixOf (c :: rest) then some ([], (c :: rest).drop p.length)
      else (cut? p rest).map fun (before, after) => (c :: before, after)

/-- Every text holds the empty text. -/
def detect (p t : Text) : Bool := (cut? p t).isSome

def matchFirst? (p t : Text) : Option Text := if detect p t then some p else none

/-! ## Loops

Every turn takes a literal with a character off the text, so there are no more turns than characters. -/

def countFrom (p : Text) : Nat → Text → Nat
  | 0, _ => 0
  | turns + 1, t =>
      match cut? p t with
      | none => 0
      | some (_, after) => countFrom p turns after + 1

def matchAll (p t : Text) : List Text :=
  if p.isEmpty then [] else List.replicate (countFrom p t.length t) p

/-- Replaces at most so many places, or all. -/
def replaceFrom (p r : Text) : Nat → Option Nat → Text → Text
  | 0, _, t => t
  | turns + 1, most, t =>
      if most = some 0 then t
      else
        match cut? p t with
        | none => t
        | some (before, after) => before ++ r ++ replaceFrom p r turns (most.map (· - 1)) after

/-- The empty text is found before every character and at the end. -/
def interleave (r : Text) : Option Nat → Text → Text
  | most, [] => if most = some 0 then [] else r
  | most, c :: rest =>
      if most = some 0 then c :: rest else r ++ c :: interleave r (most.map (· - 1)) rest

def replace (p r : Text) (most : Option Nat) (t : Text) : Text :=
  if p.isEmpty then interleave r most t else replaceFrom p r t.length most t

def replaceFirst (p r t : Text) : Text := replace p r (some 1) t

def replaceAll (p r t : Text) : Text := replace p r none t

def splitFrom (p : Text) : Nat → Text → List Text
  | 0, t => [t]
  | turns + 1, t =>
      match cut? p t with
      | none => [t]
      | some (before, after) => before :: splitFrom p turns after

/-- The empty text separates nothing. -/
def split? (p t : Text) : Option (List Text) :=
  if p.isEmpty then none else some (splitFrom p t.length t)

end Hypertag.Literal
