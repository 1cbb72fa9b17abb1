import Hypertag.Real.Shortest
import Hypertag.Selector.Printer
import Hypertag.Text.Encoding
import Hypertag.Text.Quoted

/-!
# Values of any kind

Callers hand in values whose kind is not known beforehand: arguments that should be selectors,
configuration entries, log levels. A value has a type name, a display form, a truth value and an
equality across kinds.
-/

namespace Hypertag

inductive Value where
  | null
  | bool (b : Bool)
  | int (n : Int)
  | real (x : Binary64)
  | text (t : Text)
  | list (items : List Value)
  | tuple (items : List Value)
  | set (items : List Value)
  | bytes (b : Bytes)
  | dict (entries : List (Value × Value))
  | query (q : Query)
  deriving Repr

namespace Value

def typeName : Value → Text
  | .null => "NoneType"
  | .bool _ => "bool"
  | .int _ => "int"
  | .real _ => "float"
  | .text _ => "str"
  | .list _ => "list"
  | .tuple _ => "tuple"
  | .set _ => "set"
  | .bytes _ => "bytes"
  | .dict _ => "dict"
  | .query (.single _) => "Selector"
  | .query (.list _) => "SelectorList"

def isSelector : Value → Bool
  | .query (.single _) => true
  | _ => false

def isSelectorList : Value → Bool
  | .query (.list _) => true
  | _ => false

/-- Zero and everything empty is false. -/
def truthy : Value → Bool
  | .null => false
  | .bool b => b
  | .int n => n != 0
  | .real x => !x.isZero
  | .text t => !t.isEmpty
  | .list items | .tuple items | .set items => !items.isEmpty
  | .bytes b => !b.isEmpty
  | .dict entries => !entries.isEmpty
  | .query _ => true

/-! ## Display -/

def boolText : Bool → Text
  | true => "True"
  | false => "False"

def optionalText : Option Text → Text
  | none => "None"
  | some t => t.quoted

def textTuple (ts : List Text) : Text :=
  match ts with
  | [t] => '(' :: t.quoted ++ ",)".toList
  | ts => '(' :: Text.join ", " (ts.map Text.quoted) ++ [')']

def displaySelector (s : Selector) : Text :=
  "Selector(kind=<SelectorKind." ++ s.kind.name.upperAscii ++ ": " ++ s.kind.name.quoted ++
    ">, element=" ++ optionalText s.parts.element ++ ", id=" ++ optionalText s.parts.id ++
    ", classes=" ++ textTuple s.parts.classes ++ ", traversal=<Traversal." ++
    s.traversal.name.upperAscii ++ ": " ++ s.traversal.name.quoted ++ ">)"

mutual

/-- One line that shows the kind of a value as well: text is quoted. -/
def display : Value → Text
  | .null => "None"
  | .bool b => boolText b
  | .int n => Text.ofInt n
  | .real x => x.text
  | .text t => t.quoted
  | .list items => '[' :: Text.join ", " (displayAll items) ++ [']']
  | .tuple [item] => '(' :: display item ++ [',', ')']
  | .tuple items => '(' :: Text.join ", " (displayAll items) ++ [')']
  | .set [] => "set()"
  | .set items => '\x7b' :: Text.join ", " (displayAll items) ++ ['\x7d']
  | .bytes b => Text.quotedBytes b
  | .dict entries => '\x7b' :: Text.join ", " (displayEntries entries) ++ ['\x7d']
  | .query (.single s) => displaySelector s
  | .query (.list l) =>
      "SelectorList(items=(" ++ Text.join ", " (l.members.map displaySelector) ++
        (if l.rest.isEmpty then ",))" else "))")

def displayAll : List Value → List Text
  | [] => []
  | v :: rest => display v :: displayAll rest

def displayEntries : List (Value × Value) → List Text
  | [] => []
  | (k, v) :: rest => (display k ++ ": " ++ display v) :: displayEntries rest

end

/-- As `display`, but text stands as it is when alone, and a query in its canonical form. -/
def plain : Value → Text
  | .text t => t
  | .query q => q.format
  | v => v.display

/-! ## Equality -/

/-- The number that a truth value counts as, or an integer's own. -/
def int? : Value → Option Int
  | .bool b => some (if b then 1 else 0)
  | .int n => some n
  | _ => none

mutual

/-- Numbers are equal across kinds, sequences item by item, sets and dictionaries whatever their
order; values of other kinds only within their kind. -/
def equals : Value → Value → Bool
  | .null, .null => true
  | .real x, .real y => x.equals y
  | .real x, .bool b => x.equalsInt (if b then 1 else 0)
  | .real x, .int n => x.equalsInt n
  | .bool b, .real x => x.equalsInt (if b then 1 else 0)
  | .int n, .real x => x.equalsInt n
  | .bool a, .bool b => a == b
  | .bool a, .int n => (if a then 1 else 0) == n
  | .int n, .bool b => n == (if b then 1 else 0)
  | .int m, .int n => m == n
  | .text a, .text b => a == b
  | .list a, .list b => equalItems a b
  | .tuple a, .tuple b => equalItems a b
  | .set a, .set b => a.length == b.length && allAmong a b
  | .bytes a, .bytes b => a == b
  | .dict a, .dict b => a.length == b.length && entriesAmong a b
  | .query a, .query b => a == b
  | _, _ => false

def equalItems : List Value → List Value → Bool
  | [], [] => true
  | a :: as, b :: bs => equals a b && equalItems as bs
  | _, _ => false

def allAmong : List Value → List Value → Bool
  | [], _ => true
  | a :: as, bs => bs.any (fun b => equals a b) && allAmong as bs

def entriesAmong : List (Value × Value) → List (Value × Value) → Bool
  | [], _ => true
  | (k, v) :: as, bs => bs.any (fun (l, w) => equals k l && equals v w) && entriesAmong as bs

end

/-! ## Dictionaries and sets -/

/-- Only values that cannot change may be keys or members; a tuple is refused for the first item in it
that can. -/
def changeable? : Value → Option Value
  | .list items => some (.list items)
  | .set items => some (.set items)
  | .dict entries => some (.dict entries)
  | .tuple items => firstChangeable? items
  | _ => none
where
  firstChangeable? : List Value → Option Value
    | [] => none
    | v :: rest => (changeable? v).or (firstChangeable? rest)

/-- A repeated key keeps its first place and takes the last value. -/
def insertEntry (entries : List (Value × Value)) (key value : Value) : List (Value × Value) :=
  if entries.any (·.1.equals key) then
    entries.map fun (k, v) => if k.equals key then (k, value) else (k, v)
  else entries ++ [(key, value)]

def dictOf (entries : List (Value × Value)) : Value :=
  .dict (entries.foldl (fun d (k, v) => insertEntry d k v) [])

def isSmallInt (v : Value) : Bool := v.int?.any fun n => 0 ≤ n && n < 8

/-- Equal members are one. Small whole numbers come in ascending order, other members in that of their
arrival. -/
def setOf (items : List Value) : Value :=
  let members := items.foldl (fun s v => if s.any (·.equals v) then s else s ++ [v]) []
  if members.all isSmallInt then .set (members.mergeSort fun a b => a.int?.getD 0 ≤ b.int?.getD 0)
  else .set members

/-- The items of a value that has any: the characters of a text, the keys of a dictionary, the members
of a list of selectors. -/
def items? : Value → Option (List Value)
  | .text t => some (t.map fun c => .text [c])
  | .list items | .tuple items | .set items => some items
  | .bytes b => some (b.map fun n => .int n.toNat)
  | .dict entries => some (entries.map (·.1))
  | .query (.list l) => some (l.members.map fun s => .query (.single s))
  | _ => none

/-- Why a value cannot be read as the entries of a dictionary. -/
inductive EntriesError where
  | notIterable (typeName : Text)
  | notSequence (index : Nat)
  | notPair (index length : Nat)
  | unhashable (typeName : Text)
  deriving DecidableEq, Repr

def EntriesError.message : EntriesError → Text
  | .notIterable typeName => typeName.quoted ++ " object is not iterable"
  | .notSequence index =>
      "cannot convert dictionary update sequence element #" ++ Text.ofNat index ++ " to a sequence"
  | .notPair index length =>
      "dictionary update sequence element #" ++ Text.ofNat index ++ " has length " ++
        Text.ofNat length ++ "; 2 is required"
  | .unhashable typeName => "unhashable type: " ++ typeName.quoted

/-- Adds entries that are given as pairs, the first of which has the given index. -/
def addPairs (index : Nat) (entries : List (Value × Value)) :
    List Value → Except EntriesError (List (Value × Value))
  | [] => .ok entries
  | pair :: rest =>
      match pair.items? with
      | none => .error (.notSequence index)
      | some [k, v] =>
          match k.changeable? with
          | some inner => .error (.unhashable inner.typeName)
          | none => addPairs (index + 1) (insertEntry entries k v) rest
      | some items => .error (.notPair index items.length)

/-- The entries of a dictionary, or of a sequence of pairs. -/
def entriesOf (v : Value) : Except EntriesError (List (Value × Value)) :=
  match v, v.items? with
  | .dict entries, _ => .ok entries
  | v, none => .error (.notIterable v.typeName)
  | _, some pairs => addPairs 0 [] pairs

end Value

end Hypertag
