import Hypertag.Template.State

/-!
# The grammar of templates

What a template looks like, without reading it character by character. Code is a sequence of items:
single characters, quoted tokens, operators and comments, where a lone closing brace takes the
character after it along. A canonical sequence of pieces is one that writing braces around its code
pieces turns into a text that can be read back.
-/

namespace Hypertag.Template

/-! ## Code -/

inductive Quote where
  | single
  | double
  | backtick
  deriving DecidableEq, Repr

def Quote.mark : Quote → Char
  | .single => '\''
  | .double => '"'
  | .backtick => '\x60'

/-- What may stand between two marks: a backslash takes any character along. -/
inductive QuotedBody (mark : Char) : Text → Prop where
  | nil : QuotedBody mark []
  | plain {c : Char} {t : Text} :
      c ≠ mark → c ≠ '\\' → QuotedBody mark t → QuotedBody mark (c :: t)
  | escape {c : Char} {t : Text} : QuotedBody mark t → QuotedBody mark ('\\' :: c :: t)

/-- What may stand after a `#` without ending the comment or the code. -/
inductive CommentBody : Text → Prop where
  | nil : CommentBody []
  | plain {c : Char} {t : Text} : c ≠ '\x7d' → c ≠ '\n' → CommentBody t → CommentBody (c :: t)
  | brace {c : Char} {t : Text} : c ≠ '\x7d' → CommentBody t → CommentBody ('\x7d' :: c :: t)

/-- Text in which no brace counts: between quotes, or from `%` to `%`. -/
inductive Opaque : Text → Prop where
  | quoted (q : Quote) {body : Text} :
      QuotedBody q.mark body → Opaque (q.mark :: body ++ [q.mark])
  | operator {body : Text} : '%' ∉ body → Opaque ('%' :: body ++ ['%'])

def opensItem (c : Char) : Prop := c = '\x7d' ∨ (∃ q : Quote, c = q.mark) ∨ c = '%' ∨ c = '#'

inductive Item : Text → Prop where
  | plain {c : Char} : ¬ opensItem c → Item [c]
  | brace {c : Char} : c ≠ '\x7d' → Item ['\x7d', c]
  | hidden {w : Text} : Opaque w → Item w
  | comment {body : Text} : CommentBody body → Item ('#' :: body ++ ['\n'])

inductive Items : Text → Prop where
  | nil : Items []
  | cons {w t : Text} : Item w → Items t → Items (w ++ t)

/-- A code piece: items, of which the last may be a comment that the end of the piece ends. -/
inductive Code : Text → Prop where
  | items {t : Text} : Items t → Code t
  | comment {t body : Text} : Items t → CommentBody body → Code (t ++ '#' :: body)

/-! ## Pieces -/

def Literal (t : Text) : Prop := ¬ ['\x7b', '\x7b'] <:+: t

/-- Literal and code pieces in turn, from a literal to a literal. A brace at the end of a literal
would open the code after it one character early, so only the last literal may end in one. -/
inductive Canonical : List Text → Prop where
  | last {l : Text} : Literal l → Canonical [l]
  | code {l c : Text} {rest : List Text} : Literal l → l.getLast? ≠ some '\x7b' → Code c →
      Canonical rest → Canonical (l :: c :: rest)

/-- The text of a sequence of pieces, braces written around every second one. -/
def rebuild : List Text → Text
  | [] => []
  | [l] => l
  | l :: c :: rest => l ++ '\x7b' :: '\x7b' :: c ++ '\x7d' :: '\x7d' :: rebuild rest

/-! ## Laws of the grammar -/

theorem Items.of_item {w : Text} (h : Item w) : Items w := by
  simpa using Items.cons h .nil

/-- No mark stands twice in a row when none does in the rest and the first character does not pair
with the next. -/
theorem not_doubled_cons_iff (mark c : Char) (t : Text) :
    ¬ [mark, mark] <:+: c :: t ↔
      ¬ (c = mark ∧ t.head? = some mark) ∧ ¬ [mark, mark] <:+: t := by
  rw [List.infix_cons_iff]
  cases t with
  | nil => simp [List.prefix_iff_eq_append]
  | cons d t => simp [List.cons_prefix_cons, eq_comm]

theorem Canonical.length_odd {pieces : List Text} (h : Canonical pieces) :
    pieces.length % 2 = 1 := by
  induction h with
  | last _ => rfl
  | code _ _ _ _ ih => simp only [List.length_cons]; omega

end Hypertag.Template
