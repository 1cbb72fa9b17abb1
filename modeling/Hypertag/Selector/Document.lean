import Hypertag.Value

/-!
# Queries as data

A selector as a dictionary of its parts, and a list as its members. Nothing can be assigned to a query
that exists.
-/

namespace Hypertag

def optionalValue (t : Option Text) : Value := (t.map Value.text).getD .null

namespace Selector

def entries (s : Selector) : List (Text × Value) :=
  [("kind", .text s.kind.name), ("element", optionalValue s.parts.element),
    ("id", optionalValue s.parts.id), ("classes", .list (s.parts.classes.map .text)),
    ("traversal", .text s.traversal.name)]

def toValue (s : Selector) : Value := .dict (s.entries.map fun (name, v) => (.text name, v))

end Selector

namespace Query

/-- The word for what a query is. -/
def kindName : Query → Text
  | .single _ => "selector"
  | .list _ => "selector_list"

def entries : Query → List (Text × Value)
  | .single s => s.entries
  | .list l => [("selectors", .list (l.members.map Selector.toValue))]

/-- A field that was to take another value. -/
structure Frozen where
  field : Text
  deriving DecidableEq, Repr

def Frozen.message (e : Frozen) : Text := "cannot assign to field " ++ e.field.quoted

def assign (_ : Query) (field : Text) : Except Frozen Query := .error ⟨field⟩

end Query

end Hypertag
