import Hypertag.Selector.Chain
import Hypertag.Selector.Printer
import Hypertag.Value

/-!
# Reading queries

Text without `>` and without blanks is one selector; any other text is a list. Values that are
queries already are taken as they are, and a sequence of texts is read as its members one space
apart.
-/

namespace Hypertag

namespace Query

def firstUnsupported? (t : Text) : Option Unsupported :=
  Unsupported.all.find? fun token => Literal.detect [token.character] t

/-- Reads text whose ends are not blank. -/
def ofTrimmed (t : Text) : Except SelectorError Query :=
  match firstUnsupported? t with
  | some token => .error (.unsupported token t)
  | none =>
      if Literal.detect ['>'] t then (Chain.read t).map .list
      else if Pattern.blanks.detect t then
        let members := (Pattern.blanks.split t).map fun part => ⟨Compound.read part, .descendant⟩
        match SelectorList.ofMembers? members with
        | some l => .ok (.list l)
        | none => .error .emptyList
      else .ok (.single ⟨Compound.read t, .descendant⟩)

def ofText (t : Text) : Except SelectorError Query := ofTrimmed (t.trim .both)

/-- The text of a value that stands for selector text. -/
def textOf? : Value → Option Text
  | .text t => some t
  | .list items | .tuple items => (texts? items).map (Text.join [' '])
  | _ => none
where
  texts? : List Value → Option (List Text)
    | [] => some []
    | .text t :: rest => (texts? rest).map (t :: ·)
    | _ :: _ => none

def ofValue : Value → Except SelectorError Query
  | .query q => .ok q
  | v =>
      match textOf? v with
      | some t => ofText t
      | none => .error (.notText v.typeName)

/-- What is worth noting when a value has been read: nothing for one that was a query already. -/
def note? (v : Value) (q : Query) : Option Text :=
  (textOf? v).map fun t =>
    "Parsed selector " ++ (t.trim .both).quoted ++ " into " ++ (Value.query q).typeName

def formatValue : Value → Except SelectorError Text
  | .query q => .ok q.format
  | v => .error (.notFormattable v.typeName)

def describeValue : Value → Except SelectorError Text
  | .query q => .ok q.describe
  | v => .error (.notFormattable v.typeName)

end Query

namespace SelectorList

/-- The members of all items in order; a list among the items counts as its members. -/
def flatten : List Value → Except SelectorError (List Selector)
  | [] => .ok []
  | .query q :: rest => (flatten rest).map (q.members ++ ·)
  | v :: _ => .error (.notMember v.typeName)

def ofValues (items : List Value) : Except SelectorError SelectorList := do
  match ofMembers? (← flatten items) with
  | some l => return l
  | none => .error .emptyList

def ofQuery : Query → SelectorList
  | .single s => ⟨s, []⟩
  | .list l => l

def ofValue : Value → Except SelectorError SelectorList
  | .query q => .ok (ofQuery q)
  | .text t => (Query.ofText t).map ofQuery
  | .list items | .tuple items => ofValues items
  | v => .error (.notList v.typeName)

end SelectorList

/-! ## Building and revising single selectors -/

namespace Selector

inductive Change where
  | kind (kind : SelectorKind)
  | element (name : Option Text)
  | id (name : Option Text)
  | classes (names : List Text)
  | traversal (traversal : Traversal)
  deriving DecidableEq, Repr

def build (kind : SelectorKind) (parts : Parts) (traversal : Traversal) :
    Except SelectorError Selector :=
  match build? kind parts traversal with
  | some s => .ok s
  | none => .error .everythingWithParts

structure Draft where
  kind : SelectorKind
  parts : Parts
  traversal : Traversal
  deriving DecidableEq, Repr

def Draft.change (d : Draft) : Change → Draft
  | .kind kind => { d with kind }
  | .element element => { d with parts := { d.parts with element } }
  | .id id => { d with parts := { d.parts with id } }
  | .classes classes => { d with parts := { d.parts with classes } }
  | .traversal traversal => { d with traversal }

/-- The changes are made together and the result is checked once. -/
def revise (s : Selector) (changes : List Change) : Except SelectorError Selector :=
  let d := changes.foldl Draft.change ⟨s.kind, s.parts, s.traversal⟩
  build d.kind d.parts d.traversal

/-- A new selector starts as regular, without parts, for any tag below. -/
def create (changes : List Change) : Except SelectorError Selector :=
  revise ⟨.regular .none, .descendant⟩ changes

end Selector

end Hypertag
