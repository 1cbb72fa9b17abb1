import Hypertag.Text.Basic

/-!
# Paths

A path is read once into its root and its parts: empty parts and `.` are dropped, `..` is kept. A
path without parts is shown as `.`.
-/

namespace Hypertag

structure Path where
  root : Text
  parts : List Text
  deriving DecidableEq, Repr

namespace Path

def splitSlash : Text → List Text
  | [] => [[]]
  | c :: rest =>
      if c == '/' then [] :: splitSlash rest
      else
        match splitSlash rest with
        | [] => [[c]]
        | t :: ts => (c :: t) :: ts

/-- Exactly two leading slashes are a root of their own. -/
def rootOf (t : Text) : Text :=
  match (t.takeWhile (· == '/')).length with
  | 0 => []
  | 2 => "//"
  | _ => "/"

def ofText (t : Text) : Path :=
  ⟨rootOf t, (splitSlash t).filter fun part => !part.isEmpty && part != ['.']⟩

def text (p : Path) : Text :=
  if p.root.isEmpty && p.parts.isEmpty then ['.'] else p.root ++ Text.join ['/'] p.parts

def parent (p : Path) : Path := ⟨p.root, p.parts.dropLast⟩

def hasNul (p : Path) : Bool := p.parts.any fun part => part.contains '\x00'

/-- The way to a path's end when every part is taken to be there: `..` takes away the part before
it. -/
def collapse (home : List Text) (p : Path) : List Text :=
  let start := if p.root.isEmpty then home else []
  p.parts.foldl (fun done part => if part = "..".toList then done.dropLast else done ++ [part]) start

end Path

end Hypertag
