import Hypertag.Text.Basic

/-!
# Selectors

A selector describes tags by element, id and classes; a list of them describes a path of tags, in
which each selector says whether it applies to any tag below the one before or to its children only.
A query is one selector or a list.
-/

namespace Hypertag

/-- How a selector relates to the one before it in a list. -/
inductive Traversal where
  | descendant
  | child
  deriving DecidableEq, Repr

namespace Traversal

def name : Traversal → Text
  | .descendant => "descendant"
  | .child => "child"

def ofName? (t : Text) : Option Traversal := [descendant, child].find? (·.name == t)

@[simp] theorem ofName?_name (r : Traversal) : ofName? r.name = some r := by cases r <;> decide

end Traversal

inductive SelectorKind where
  | everything
  | regular
  deriving DecidableEq, Repr

namespace SelectorKind

def name : SelectorKind → Text
  | .everything => "everything"
  | .regular => "regular"

def ofName? (t : Text) : Option SelectorKind := [everything, regular].find? (·.name == t)

@[simp] theorem ofName?_name (k : SelectorKind) : ofName? k.name = some k := by cases k <;> decide

end SelectorKind

/-- What a regular selector asks for. A part that is absent differs from one that is empty. -/
structure Parts where
  element : Option Text
  id : Option Text
  classes : List Text
  deriving DecidableEq, Repr

def Parts.none : Parts := ⟨.none, .none, []⟩

inductive Compound where
  | everything
  | regular (parts : Parts)
  deriving DecidableEq, Repr

structure Selector where
  compound : Compound
  traversal : Traversal
  deriving DecidableEq, Repr

namespace Selector

def everything : Selector := ⟨.everything, .descendant⟩

def isEverything (s : Selector) : Bool := s.compound == .everything

def isChild (s : Selector) : Bool := s.traversal == .child

def kind (s : Selector) : SelectorKind :=
  match s.compound with
  | .everything => .everything
  | .regular _ => .regular

def parts (s : Selector) : Parts :=
  match s.compound with
  | .everything => .none
  | .regular parts => parts

/-- A selector that matches everything has no parts. -/
def build? (kind : SelectorKind) (parts : Parts) (traversal : Traversal) : Option Selector :=
  match kind with
  | .regular => some ⟨.regular parts, traversal⟩
  | .everything => if parts = .none then some ⟨.everything, traversal⟩ else none

theorem build?_kind_parts (s : Selector) : build? s.kind s.parts s.traversal = some s := by
  rcases s with ⟨compound, traversal⟩
  cases compound <;> rfl

end Selector

/-- A list has at least one selector. -/
structure SelectorList where
  first : Selector
  rest : List Selector
  deriving DecidableEq, Repr

namespace SelectorList

def members (l : SelectorList) : List Selector := l.first :: l.rest

def ofMembers? : List Selector → Option SelectorList
  | [] => none
  | s :: rest => some ⟨s, rest⟩

def length (l : SelectorList) : Nat := l.members.length

/-- A negative index counts from the end. -/
def get? (l : SelectorList) (index : Int) : Option Selector :=
  let place := if index < 0 then index + l.length else index
  if place < 0 then none else l.members[place.toNat]?

@[simp] theorem ofMembers?_members (l : SelectorList) : ofMembers? l.members = some l := rfl

@[simp] theorem members_ne_nil (l : SelectorList) : l.members ≠ [] := by simp [members]

end SelectorList

inductive Query where
  | single (s : Selector)
  | list (l : SelectorList)
  deriving DecidableEq, Repr

def Query.members : Query → List Selector
  | .single s => [s]
  | .list l => l.members

end Hypertag
