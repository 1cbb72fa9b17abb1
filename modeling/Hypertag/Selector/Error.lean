import Hypertag.Text.Basic

/-!
# What can be wrong with a selector
-/

namespace Hypertag

/-- Selector syntax that is recognised and refused. -/
inductive Unsupported where
  | group
  | attributeTest
  | sibling
  | adjacent
  | pseudo
  deriving DecidableEq, Repr

namespace Unsupported

def character : Unsupported → Char
  | .group => ','
  | .attributeTest => '['
  | .sibling => '~'
  | .adjacent => '+'
  | .pseudo => ':'

/-- In the order in which they are looked for. -/
def all : List Unsupported := [group, attributeTest, sibling, adjacent, pseudo]

def message : Unsupported → Text
  | .pseudo =>
      "Pseudo CSS selectors (e.g., `:first-child`, `:not()`, etc) aren't (yet) implemented."
  | token =>
      "CSS selectors that contain `" ++ [token.character] ++ "` aren't (yet) implemented."

end Unsupported

/-- The end of a selector at which a `>` has nothing to join. -/
inductive ChainEnd where
  | first
  | last
  deriving DecidableEq, Repr

def ChainEnd.name : ChainEnd → Text
  | .first => "first"
  | .last => "last"

/-- Where the grammar of chains fails; lines and columns count from one. -/
inductive ChainFault where
  | unexpectedChild (line column : Nat)
  | missingCompound (line column : Nat)
  deriving DecidableEq, Repr

def ChainFault.message : ChainFault → Text
  | .unexpectedChild line column =>
      "Invalid selector: Unexpected token Token('CHILD', '>') at line " ++ Text.ofNat line ++
        ", column " ++ Text.ofNat column ++
        ".\nExpected one of: \n\t* COMPOUND\nPrevious tokens: [None]\n"
  | .missingCompound line column =>
      "Invalid selector: Unexpected token Token('$END', '') at line " ++ Text.ofNat line ++
        ", column " ++ Text.ofNat column ++ ".\nExpected one of: \n\t* COMPOUND\n"

inductive SelectorError where
  | unsupported (token : Unsupported) (selector : Text)
  | dangling (place : ChainEnd) (selector : Text)
  | chain (fault : ChainFault) (selector : Text)
  /-- Neither text nor a sequence of texts. -/
  | notText (typeName : Text)
  /-- A member of a list to be built is neither a selector nor a list. -/
  | notMember (typeName : Text)
  | emptyList
  | notList (typeName : Text)
  | notFormattable (typeName : Text)
  | everythingWithParts
  deriving DecidableEq, Repr

namespace SelectorError

def message : SelectorError → Text
  | .unsupported token _ => token.message
  | .dangling place _ =>
      "Direct children selector, `>`, must not be the " ++ place.name ++
        " element in a css selector. Please add more selector information, such as `*`."
  | .chain fault _ => fault.message
  | .notText typeName => "Cannot parse a selector from " ++ typeName
  | .notMember _ => "Can only build a selector list from selectors"
  | .emptyList => "A selector list cannot be empty"
  | .notList typeName =>
      "Do not know how to convert " ++ typeName ++ " into a selector list"
  | .notFormattable typeName => "Cannot format " ++ typeName ++ " as a selector"
  | .everythingWithParts => "An `everything` selector cannot carry element, id or classes"

end SelectorError

end Hypertag
