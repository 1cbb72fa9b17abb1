import Hypertag.Proofs.Template.Splitting

/-!
# Blocks that are not closed

A text whose last code block is not closed is a text that is split, an opening delimiter, and text that
is passed from code. Splitting reports where that delimiter stands and how the passage ends, whatever
blocks were opened and closed before.
-/

namespace Hypertag.Template

open State

theorem isFinal_eq_false_iff (s : State) :
    s.isFinal = false ↔ s ≠ .literal ∧ s ≠ .literalSawBrace := by
  cases s <;> decide

/-- The closing delimiter keeps a brace of the code apart from the end of the text. -/
theorem getLast?_rebuild_code (l c : Text) (rest : List Text) :
    (rebuild (l :: c :: rest)).getLast? = some '\x7b' ↔
      (rebuild rest).getLast? = some '\x7b' := by
  have hsplit : rebuild (l :: c :: rest) =
      (l ++ '\x7b' :: '\x7b' :: c ++ ['\x7d']) ++ '\x7d' :: rebuild rest := by simp [rebuild]
  rw [hsplit, List.getLast?_append, List.getLast?_cons]
  cases (rebuild rest).getLast? with
  | none => simp
  | some d => simp

theorem length_rebuild_code (l c : Text) (rest : List Text) :
    (rebuild (l :: c :: rest)).length = l.length + c.length + 4 + (rebuild rest).length := by
  simp only [rebuild, List.length_append, List.length_cons]
  omega

/-- What stands before the block that is not closed is split. -/
theorem Unclosed.exists_opening {t : Text} {n : Nat} {s : State} (h : Unclosed t n s) :
    ∃ u w pieces, t = u ++ '\x7b' :: '\x7b' :: w ∧ u.length = n ∧ Canonical pieces ∧
      rebuild pieces = u ∧ u.getLast? ≠ some '\x7b' ∧ State.code.Passes w s := by
  induction h with
  | @last l w s hl hend hw => exact ⟨l, w, [l], rfl, rfl, .last hl, rfl, hend, hw⟩
  | @code l c t n s hl hend hc _ ih =>
      obtain ⟨u, w, pieces, rfl, rfl, hpieces, rfl, hlast, hw⟩ := ih
      refine ⟨_, w, l :: c :: pieces, ?_, length_rebuild_code l c pieces, .code hl hend hc hpieces, rfl,
        ?_, hw⟩
      · simp [rebuild]
      · rwa [ne_eq, getLast?_rebuild_code]

/-- A block that is opened after canonical pieces and passed to the end is not closed. -/
theorem unclosed_of_canonical {pieces : List Text} (h : Canonical pieces) {w : Text} {s : State}
    (hlast : (rebuild pieces).getLast? ≠ some '\x7b') (hw : code.Passes w s) :
    Unclosed (rebuild pieces ++ '\x7b' :: '\x7b' :: w) (rebuild pieces).length s := by
  induction h with
  | @last l hl => exact .last hl hlast hw
  | @code l c rest hl hend hc _ ih =>
      rw [ne_eq, getLast?_rebuild_code] at hlast
      have hunclosed := Unclosed.code hl hend hc (ih hlast)
      rw [length_rebuild_code]
      simpa [rebuild] using hunclosed

/-- A text is refused exactly for a block that is opened after a text which is split and does not end in
a brace, and that is passed to its end. -/
theorem split_eq_error_iff (t : Text) (e : TemplateError) :
    split t = .error e ↔
      ∃ u w s, t = u ++ '\x7b' :: '\x7b' :: w ∧ (∃ pieces, split u = .ok pieces) ∧
        u.getLast? ≠ some '\x7b' ∧ code.Passes w s ∧ e = .unterminated s (some u.length) := by
  constructor
  · intro herror
    rcases canonical_or_unclosed t with ⟨pieces, hpieces, rfl⟩ | ⟨n, s, hunclosed⟩
    · rw [split_rebuild hpieces] at herror
      cases herror
    · rw [split_unclosed hunclosed] at herror
      obtain ⟨u, w, pieces, rfl, rfl, hpieces, rfl, hlast, hw⟩ := hunclosed.exists_opening
      exact ⟨_, w, s, rfl, ⟨pieces, split_rebuild hpieces⟩, hlast, hw, (Except.error.inj herror).symm⟩
  · intro hopening
    obtain ⟨u, w, s, rfl, ⟨pieces, hsplit⟩, hlast, hw, rfl⟩ := hopening
    obtain ⟨hpieces, rfl⟩ := canonical_of_split hsplit
    exact split_unclosed (unclosed_of_canonical hpieces hlast hw)

/-- A refused text has an opening delimiter at the reported position, is split up to there, and is
passed from there in code to the reported state. Every such place of a text is reported. -/
theorem unclosed_block_reported (t : Text) :
    (∀ e, split t = .error e →
      ∃ s position, e = .unterminated s (some position) ∧ position + 2 ≤ t.length ∧
        (t.drop position).take 2 = ['\x7b', '\x7b'] ∧ (∃ pieces, split (t.take position) = .ok pieces) ∧
        code.Passes (t.drop (position + 2)) s ∧ s ≠ .literal ∧ s ≠ .literalSawBrace) ∧
    ∀ u w s, t = u ++ '\x7b' :: '\x7b' :: w → (∃ pieces, split u = .ok pieces) →
      u.getLast? ≠ some '\x7b' → code.Passes w s → split t = .error (.unterminated s (some u.length)) := by
  constructor
  · intro e herror
    obtain ⟨u, w, s, rfl, hsplit, -, hw, rfl⟩ := (split_eq_error_iff t e).mp herror
    have hdrop : (u ++ '\x7b' :: '\x7b' :: w).drop (u.length + 2) = w := by
      rw [← List.drop_drop, List.drop_left]
      rfl
    refine ⟨s, u.length, rfl, ?_, ?_, ?_, ?_, (isFinal_eq_false_iff s).mp hw.isFinal_eq⟩
    · simp
    · rw [List.drop_left]
      rfl
    · rwa [List.take_left]
    · rwa [hdrop]
  · intro u w s htext hsplit hlast hw
    exact (split_eq_error_iff t _).mpr ⟨u, w, s, htext, hsplit, hlast, hw, rfl⟩

/-- A block that a quote keeps open, after one that was closed. -/
theorem quote_keeps_second_block_open :
    split "a\x7b\x7b'\x7d\x7d'\x7d\x7d\x7b \x7b\x7b b'\x7d\x7d" =
      .error (.unterminated .singleQuoted (some 11)) := by
  have hbefore : split "a\x7b\x7b'\x7d\x7d'\x7d\x7d\x7b " = .ok ["a", "'\x7d\x7d'", "\x7b "] := rfl
  have hpass : code.Passes " b'\x7d\x7d" .singleQuoted := ⟨rfl, by decide⟩
  exact (unclosed_block_reported _).2 _ " b'\x7d\x7d" .singleQuoted rfl ⟨_, hbefore⟩ (by decide) hpass

end Hypertag.Template
