import Hypertag.Text.Encoding
import Hypertag.Text.Quoted
import Hypertag.Workspace.Path

/-!
# The files of a run

A workspace is a tree of files and directories with a home directory in it, from which relative paths
start. Operations fail as a file system does.
-/

namespace Hypertag

inductive FileFault where
  | notFound
  | exists
  | notDirectory
  | isDirectory
  | nameTooLong
  | nulByte
  deriving DecidableEq, Repr

namespace FileFault

def number : FileFault → Nat
  | .notFound => 2
  | .exists => 17
  | .notDirectory => 20
  | .isDirectory => 21
  | .nameTooLong => 36
  | .nulByte => 22

def reason : FileFault → Text
  | .notFound => "No such file or directory"
  | .exists => "File exists"
  | .notDirectory => "Not a directory"
  | .isDirectory => "Is a directory"
  | .nameTooLong => "File name too long"
  | .nulByte => "embedded null byte"

end FileFault

/-- A fault with the path as the caller wrote it. -/
structure FileError where
  fault : FileFault
  path : Text
  deriving DecidableEq, Repr

/-- A zero byte is refused before any file is looked at, so the message names no path. -/
def FileError.message (e : FileError) : Text :=
  match e.fault with
  | .nulByte => e.fault.reason
  | fault =>
      "[Errno " ++ Text.ofNat fault.number ++ "] " ++ fault.reason ++ ": " ++ e.path.quoted

/-- The parts of the way down from the top of the tree. -/
abbrev Place := List Text

inductive Entry where
  | directory
  | file (content : Bytes)
  deriving DecidableEq, Repr

structure Workspace where
  home : Place
  entries : List (Place × Entry)
  deriving DecidableEq, Repr

namespace Workspace

/-- Nothing but the way to the home directory. -/
def empty (home : Place) : Workspace := ⟨home, []⟩

/-- The home directory and those above it are always there. -/
def entry? (w : Workspace) (place : Place) : Option Entry :=
  if place.isPrefixOf w.home then some .directory else w.entries.lookup place

def set (w : Workspace) (place : Place) (e : Entry) : Workspace :=
  let entries :=
    if (w.entries.lookup place).isSome then
      w.entries.map fun (p, old) => if p = place then (p, e) else (p, old)
    else w.entries ++ [(place, e)]
  { w with entries }

def content (w : Workspace) (place : Place) : Bytes :=
  match w.entry? place with
  | some (.file content) => content
  | _ => []

/-- A name may have this many bytes. -/
def longestName : Nat := 255

/-- A path must have fewer bytes than this. -/
def pathLimit : Nat := 4096

def isTooLong (path : Text) : Bool := pathLimit ≤ (Encoding.encode path).length

/-- Follows the parts. Every part but the last must lead to a directory; the last one need not exist.
The top of the tree is the directory above itself. -/
def follow (w : Workspace) (place : Place) : List Text → Except FileFault Place
  | [] => .ok place
  | part :: rest =>
      match w.entry? place with
      | none => .error .notFound
      | some (.file _) => .error .notDirectory
      | some .directory =>
          if part = "..".toList then follow w place.dropLast rest
          else if longestName < (Encoding.encode part).length then .error .nameTooLong
          else follow w (place ++ [part]) rest

def locate (w : Workspace) (p : Path) : Except FileFault Place :=
  if p.hasNul then .error .nulByte
  else if isTooLong p.text then .error .nameTooLong
  else w.follow (if p.root.isEmpty then w.home else []) p.parts

/-- What is found at the end of a path. -/
def status (w : Workspace) (p : Path) : Except FileFault Entry := do
  match w.entry? (← w.locate p) with
  | some e => return e
  | none => .error .notFound

def isDirectory (w : Workspace) (p : Path) : Bool :=
  match w.status p with
  | .ok .directory => true
  | _ => false

/-- A path through a file leads nowhere, which is no error; an impossible name is one. -/
def exists? (w : Workspace) (p : Path) : Except FileFault Bool :=
  match w.status p with
  | .ok _ => .ok true
  | .error .nameTooLong => .error .nameTooLong
  | .error _ => .ok false

def read (w : Workspace) (p : Path) : Except FileFault Bytes := do
  match ← w.status p with
  | .directory => .error .isDirectory
  | .file content => return content

/-- The place of a file that may be written: it need not exist, but its directory must. -/
def writable (w : Workspace) (p : Path) : Except FileFault Place := do
  let place ← w.locate p
  if w.entry? place = some .directory then .error .isDirectory else return place

def write (w : Workspace) (p : Path) (content : Bytes) : Except FileFault Workspace :=
  (w.writable p).map fun place => w.set place (.file content)

/-- Opens a file to write behind its content, creating it when there is none. -/
def openAppend (w : Workspace) (p : Path) : Except FileFault (Place × Workspace) :=
  (w.writable p).map fun place => (place, w.set place (.file (w.content place)))

def append (w : Workspace) (place : Place) (content : Bytes) : Workspace :=
  w.set place (.file (w.content place ++ content))

def makeDirectory (w : Workspace) (p : Path) : Except FileFault Workspace := do
  let place ← w.locate p
  if (w.entry? place).isSome then .error .exists else return w.set place .directory

/-- Makes a directory, and the directories above it that are missing. One that is there already is
no error. What was made before a fault stays. Fuel counts the parts. -/
def makeDirectoriesFrom : Nat → Workspace → Path → Except FileError Unit × Workspace
  | fuel, w, p =>
      match w.makeDirectory p, fuel with
      | .ok w, _ => (.ok (), w)
      | .error .notFound, 0 => (.error ⟨.notFound, p.text⟩, w)
      | .error .notFound, fuel + 1 =>
          match makeDirectoriesFrom fuel w p.parent with
          | (.error e, w) => (.error e, w)
          | (.ok (), w) =>
              match w.makeDirectory p with
              | .ok w => (.ok (), w)
              | .error fault =>
                  if w.isDirectory p then (.ok (), w) else (.error ⟨fault, p.text⟩, w)
      | .error fault, _ => if w.isDirectory p then (.ok (), w) else (.error ⟨fault, p.text⟩, w)

def makeDirectories (w : Workspace) (p : Path) : Except FileError Unit × Workspace :=
  makeDirectoriesFrom p.parts.length w p

end Workspace

end Hypertag
