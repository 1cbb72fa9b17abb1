import Hypertag.Pattern.Replacement

/-!
# Plain text written as a pattern or a template

A backslash before each character that has a meaning of its own makes a text the notation of itself: as
a pattern it is the sequence of its characters, as a template it is what each match is replaced by.
-/

namespace Hypertag.Pattern

/-! ## Backslashes before some of the characters -/

def backslashed (marked : Char → Bool) (t : Text) : Text :=
  t.flatMap fun c => if marked c then ['\\', c] else [c]

def metacharacters : List Char :=
  ['.', '^', '$', '*', '+', '?', '\x7b', '\x7d', '[', ']', '\\', '|', '(', ')']

def isMetacharacter (c : Char) : Bool := metacharacters.contains c

def escape (t : Text) : Text := backslashed isMetacharacter t

def doubled (t : Text) : Text := backslashed (· == '\\') t

/-- What a character is read as where the marked ones have a backslash before them. -/
def writtenAs (marked : Char → Bool) (c : Char) : Lexeme :=
  if marked c then .escaped c else .plain c

theorem lexemes_plain {c : Char} (hc : c ≠ '\\') (n : Nat) (t : Text) :
    lexemes n (c :: t) = (n, .plain c) :: lexemes (n + 1) t := by
  rw [lexemes]
  · exact fun h => absurd h hc
  · exact fun _ _ h => absurd h hc

section Backslashed

variable {marked : Char → Bool} (hmarked : marked '\\' = true)

include hmarked

theorem lexemes_backslashed_cons (n : Nat) (c : Char) (t : Text) :
    lexemes n (backslashed marked (c :: t)) =
      (n, writtenAs marked c) ::
        lexemes (n + (writtenAs marked c).text.length) (backslashed marked t) := by
  rw [backslashed, List.flatMap_cons, ← backslashed, writtenAs]
  by_cases hc : marked c = true
  · rw [if_pos hc, if_pos hc]
    rfl
  · have hplain : c ≠ '\\' := by
      rintro rfl
      exact hc hmarked
    rw [if_neg hc, if_neg hc]
    exact lexemes_plain hplain n _

theorem length_lexemes_backslashed (n : Nat) (t : Text) :
    (lexemes n (backslashed marked t)).length = t.length := by
  induction t generalizing n with
  | nil => rfl
  | cons c t ih => rw [lexemes_backslashed_cons hmarked, List.length_cons, ih, List.length_cons]

/-- No backslash is without a character after it. -/
theorem ready_lexemes_backslashed (n : Nat) (t : Text) :
    ready (lexemes n (backslashed marked t)) = .ok () := by
  cases t with
  | nil => rfl
  | cons c t =>
      rw [lexemes_backslashed_cons hmarked, writtenAs]
      split <;> rfl

end Backslashed

/-! ## As a pattern -/

theorem namedClass?_eq_none {c : Char} (hc : c.isAlphanum = false) : namedClass? c = none := by
  rw [namedClass?]
  all_goals
    rintro rfl
    exact absurd hc (by decide)

theorem controlEscape?_eq_none {c : Char} (hc : c.isAlpha = false) : controlEscape? c = none := by
  rw [controlEscape?]
  all_goals
    rintro rfl
    exact absurd hc (by decide)

variable {stop fuel position : Nat} {outer : List Frame} {f : Frame} {groups : List (Option Text)}
  {rest : Lexemes} {c : Char}

theorem readFrom_escaped (hc : c.isAlphanum = false) (hrest : ready rest = .ok ()) :
    readFrom stop (fuel + 1) outer f groups ((position, .escaped c) :: rest) =
      readFrom stop fuel outer (f.add (.one (.exactly c))) groups rest := by
  have halpha : c.isAlpha = false := by
    rw [Char.isAlphanum, Bool.or_eq_false_iff] at hc
    exact hc.1
  have hchar : escapedChar position c = .ok c := by
    rw [escapedChar, controlEscape?_eq_none halpha]
    simp [hc]
  rw [readFrom, hrest, namedClass?_eq_none hc, hchar]
  rfl

theorem readFrom_plain (hc : isMetacharacter c = false) (hrest : ready rest = .ok ()) :
    readFrom stop (fuel + 1) outer f groups ((position, .plain c) :: rest) =
      readFrom stop fuel outer (f.add (.one (.exactly c))) groups rest := by
  simp only [isMetacharacter, metacharacters, List.contains_eq_mem, List.mem_cons,
    List.not_mem_nil, or_false, decide_eq_false_iff_not, not_or] at hc
  -- The reader has a rule of its own for metacharacters only.
  rw [readFrom, hrest]
  · rfl
  all_goals simp [hc]

/-- Marks on every metacharacter, and on no character that a backslash gives a meaning. -/
structure Suffices (marked : Char → Bool) : Prop where
  metacharacters : ∀ c, isMetacharacter c = true → marked c = true
  notAlphanum : ∀ c, marked c = true → c.isAlphanum = false

theorem suffices_isMetacharacter : Suffices isMetacharacter := by
  have hnone : (metacharacters.all fun c => !c.isAlphanum) = true := by decide
  refine ⟨fun _ hc => hc, fun c hc => ?_⟩
  simpa using List.all_eq_true.mp hnone c (List.mem_of_elem_eq_true hc)

def exactly (t : Text) : Node := .sequence (t.map fun c => .one (.exactly c))

section Suffices

variable {marked : Char → Bool} (h : Suffices marked)

include h

theorem Suffices.backslash : marked '\\' = true := h.metacharacters '\\' (by decide)

theorem readFrom_writtenAs (hrest : ready rest = .ok ()) :
    readFrom stop (fuel + 1) outer f groups ((position, writtenAs marked c) :: rest) =
      readFrom stop fuel outer (f.add (.one (.exactly c))) groups rest := by
  rw [writtenAs]
  split
  · next hc => exact readFrom_escaped (h.notAlphanum c hc) hrest
  · next hc =>
      have hplain : isMetacharacter c = false :=
        Bool.eq_false_iff.mpr fun hmeta => hc (h.metacharacters c hmeta)
      exact readFrom_plain hplain hrest

theorem readFrom_backslashed (t : Text) (hfuel : t.length < fuel) :
    readFrom stop fuel [] f groups (lexemes position (backslashed marked t)) =
      .ok ⟨{ f with items := (t.map fun c => Node.one (.exactly c)).reverse ++ f.items }.close,
        groups⟩ := by
  induction t generalizing fuel position f with
  | nil =>
      obtain ⟨fuel, rfl⟩ := Nat.exists_eq_add_of_lt hfuel
      rfl
  | cons c t ih =>
      obtain ⟨fuel, rfl⟩ := Nat.exists_eq_add_one_of_ne_zero (Nat.ne_zero_of_lt hfuel)
      rw [lexemes_backslashed_cons h.backslash,
        readFrom_writtenAs h (ready_lexemes_backslashed h.backslash _ t),
        ih (by simpa using hfuel), List.map_cons, List.reverse_cons, List.append_assoc]
      rfl

theorem read_backslashed (t : Text) : read (backslashed marked t) = .ok ⟨exactly t, []⟩ := by
  have hfuel : t.length < (lexemes 0 (backslashed marked t)).length + 1 := by
    rw [length_lexemes_backslashed h.backslash]
    exact Nat.lt_succ_self _
  rw [read, ready_lexemes_backslashed h.backslash]
  refine (readFrom_backslashed h t hfuel).trans ?_
  rw [Frame.outermost, List.append_nil, Frame.close, List.reverse_reverse]
  rfl

end Suffices

/-- As a pattern an escaped text is its characters, each of them exactly, and captures nothing. -/
theorem read_escape (t : Text) : read (escape t) = .ok ⟨exactly t, []⟩ :=
  read_backslashed suffices_isMetacharacter t

/-! ## As a template -/

namespace Replacement

variable {r : Text}

theorem readFrom_writtenAs (hrest : ready rest = .ok ()) :
    readFrom groups stop (fuel + 1) ((position, writtenAs (· == '\\') c) :: rest) =
      (readFrom groups stop fuel rest).map (.text [c] :: ·) := by
  by_cases hc : c = '\\'
  · subst hc
    rw [writtenAs, if_pos (beq_self_eq_true _), readFrom, settled, hrest]
    rfl
  · rw [writtenAs, if_neg (by simpa using hc), readFrom, settled, hrest]
    rfl

theorem readFrom_doubled (hfuel : r.length < fuel) :
    readFrom groups stop fuel (lexemes position (doubled r)) =
      .ok (r.map fun c => .text [c]) := by
  induction r generalizing fuel position with
  | nil =>
      obtain ⟨fuel, rfl⟩ := Nat.exists_eq_add_of_lt hfuel
      rfl
  | cons c r ih =>
      obtain ⟨fuel, rfl⟩ := Nat.exists_eq_add_one_of_ne_zero (Nat.ne_zero_of_lt hfuel)
      rw [doubled, lexemes_backslashed_cons rfl,
        readFrom_writtenAs (ready_lexemes_backslashed rfl _ r), ← doubled,
        ih (by simpa using hfuel)]
      rfl

theorem read_doubled (groups : List (Option Text)) (r : Text) :
    read groups (doubled r) = .ok (r.map fun c => .text [c]) := by
  have hready : ready (lexemes 0 (doubled r)) = .ok () := ready_lexemes_backslashed rfl 0 r
  have hlength : (lexemes 0 (doubled r)).length = r.length := length_lexemes_backslashed rfl 0 r
  rw [read, settled, hready]
  exact readFrom_doubled (by omega)

theorem expand_map_text (r : Text) (h : Hit) : expand (r.map fun c => .text [c]) h = r := by
  rw [expand, List.flatMap_map]
  exact List.flatMap_singleton' r

end Replacement

end Hypertag.Pattern
