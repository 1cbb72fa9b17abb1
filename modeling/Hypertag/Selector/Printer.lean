import Hypertag.Selector.Basic

/-!
# The canonical text of selectors

Element, then id, then classes; a child selector after `> `; the members of a list one space apart.
-/

namespace Hypertag

def Parts.format (p : Parts) : Text :=
  p.element.getD [] ++ (p.id.map ('#' :: ·)).getD [] ++ p.classes.flatMap ('.' :: ·)

def Compound.format : Compound → Text
  | .everything => "*"
  | .regular parts => parts.format

def Selector.format (s : Selector) : Text :=
  match s.traversal with
  | .descendant => s.compound.format
  | .child => '>' :: ' ' :: s.compound.format

def SelectorList.format (l : SelectorList) : Text := Text.join [' '] (l.members.map Selector.format)

namespace Query

def format : Query → Text
  | .single s => s.format
  | .list l => l.format

/-- Two lines: what kind of query it is, and its canonical text. -/
def describe (q : Query) : Text :=
  let header : Text :=
    match q with
    | .single _ => "// css selector"
    | .list _ => "// css selector list"
  header ++ '\n' :: q.format

end Query

end Hypertag
