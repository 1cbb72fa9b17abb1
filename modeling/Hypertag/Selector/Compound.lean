import Hypertag.Selector.Basic
import Hypertag.Scan.Basic

/-!
# Reading one compound selector

A compound selector is text without combinators. The element is the run of ASCII letters and digits
at its start. The first `#` with a name gives the id and is cut out; what then stands after each `.`
gives the classes. Characters that belong to none of these are passed over.
-/

namespace Hypertag

namespace Pattern

def asciiWord : CharTest := .oneOf [.range 'a' 'z', .range 'A' 'Z', .range '0' '9']

/-- What a name of an id or a class is made of. -/
def nameChar : CharTest := .noneOf [.single '.', .single ':', .single '[']

/-- `^[a-zA-Z0-9]+` -/
def element : Pattern := ⟨.sequence [.atStart, .run asciiWord], []⟩

/-- `#[^.:\[]+` -/
def idPart : Pattern := ⟨.sequence [.one (.exactly '#'), .run nameChar], []⟩

/-- `\.[^.:\[]+` -/
def classPart : Pattern := ⟨.sequence [.one (.exactly '.'), .run nameChar], []⟩

/-- `^#` -/
def leadingHash : Pattern := ⟨.sequence [.atStart, .one (.exactly '#')], []⟩

/-- `^\.` -/
def leadingDot : Pattern := ⟨.sequence [.atStart, .one (.exactly '.')], []⟩

end Pattern

namespace Compound

def readParts (t : Text) : Parts :=
  let element := Pattern.element.matchFirst? t
  let afterElement := if element.isSome then Pattern.element.removeFirst t else t
  let idPart := Pattern.idPart.matchFirst? afterElement
  let afterId :=
    match idPart with
    | none => afterElement
    | some part => Literal.replaceFirst part [] afterElement
  ⟨element, idPart.map Pattern.leadingHash.removeFirst,
    (Pattern.classPart.matchAll afterId).map Pattern.leadingDot.removeFirst⟩

def read (t : Text) : Compound := if t = ['*'] then .everything else .regular (readParts t)

end Compound

end Hypertag
