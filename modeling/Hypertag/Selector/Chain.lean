import Hypertag.Selector.Compound
import Hypertag.Selector.Error

/-!
# Reading a chain of selectors

A chain is compounds in a row, with or without a `>` between each two. Two `>` in a row are read with
`*` between them, which is first written into the text.
-/

namespace Hypertag

namespace Pattern

/-- `^>` -/
def childFirst : Pattern := ⟨.sequence [.atStart, .one (.exactly '>')], []⟩

/-- `>$` -/
def childLast : Pattern := ⟨.sequence [.one (.exactly '>'), .atEnd], []⟩

/-- `>\s*>` -/
def repeatedChild : Pattern :=
  ⟨.sequence [.one (.exactly '>'), .repeated (.one (.named .blank)) 0 none .greedy,
    .one (.exactly '>')], []⟩

end Pattern

namespace Chain

/-- One pass that writes `*` between neighbouring `>`. A match takes two of them, so of three in a
row it leaves a pair. -/
def spreadOnce (t : Text) : Text := Pattern.repeatedChild.replaceAll [.text "> * >"] t

def spreadFrom : Nat → Text → Text
  | 0, t => t
  | fuel + 1, t => if Pattern.repeatedChild.detect t then spreadFrom fuel (spreadOnce t) else t

/-- Passes until no two `>` are neighbours. Each pass parts at least one pair, so there are at most
as many passes as characters. -/
def spread (t : Text) : Text := spreadFrom t.length t

/-! ## Tokens -/

inductive Token where
  | child
  | compound (t : Text)
  deriving DecidableEq, Repr

/-- A character of a compound: neither blank nor `>`. -/
def isCompoundChar (c : Char) : Bool := !isBlank c && c != '>'

/-- Each `>` and each maximal run of compound characters, with its position. -/
def tokensFrom (position : Nat) : Text → List (Nat × Token)
  | [] => []
  | c :: rest =>
      let more := tokensFrom (position + 1) rest
      if c == '>' then (position, .child) :: more
      else if isBlank c then more
      else if rest.head?.any isCompoundChar then
        match more with
        | (_, .compound t) :: more => (position, .compound (c :: t)) :: more
        | more => (position, .compound [c]) :: more
      else (position, .compound [c]) :: more

def positionedTokens (t : Text) : List (Nat × Token) := tokensFrom 0 t

def tokens (t : Text) : List Token := (positionedTokens t).map (·.2)

/-! ## Grammar -/

inductive Failure where
  | unexpectedChild (position : Nat)
  /-- The last token's position, if there is a token. -/
  | missingCompound (position : Option Nat)
  deriving DecidableEq, Repr

mutual

/-- After a compound: another one, or a `>` and a compound, or the end. -/
def afterCompound : List (Nat × Token) → Except Failure (List Selector)
  | [] => .ok []
  | (position, .child) :: rest => (beforeCompound .child (some position) rest).map fun l => l.members
  | (_, .compound t) :: rest => (afterCompound rest).map (⟨Compound.read t, .descendant⟩ :: ·)

def beforeCompound (traversal : Traversal) (last : Option Nat) :
    List (Nat × Token) → Except Failure SelectorList
  | [] => .error (.missingCompound last)
  | (position, .child) :: _ => .error (.unexpectedChild position)
  | (_, .compound t) :: rest => (afterCompound rest).map (⟨⟨Compound.read t, traversal⟩, ·⟩)

end

def ofTokens (ts : List (Nat × Token)) : Except Failure SelectorList :=
  beforeCompound .descendant none ts

def Failure.locate (t : Text) : Failure → ChainFault
  | .unexpectedChild position =>
      let (line, column) := t.lineColumn position
      .unexpectedChild line column
  | .missingCompound position =>
      let (line, column) := t.lineColumn (position.getD 0)
      .missingCompound line column

/-- Reads a chain from text as it is. An error shows the text that was given when its end is at
fault, and the text with `*` written in when the grammar is. -/
def read (t : Text) : Except SelectorError SelectorList :=
  if Pattern.childFirst.detect t then .error (.dangling .first t)
  else if Pattern.childLast.detect t then .error (.dangling .last t)
  else
    let text := spread t
    (ofTokens (positionedTokens text)).mapError fun failure => .chain (failure.locate text) text

end Chain

end Hypertag
