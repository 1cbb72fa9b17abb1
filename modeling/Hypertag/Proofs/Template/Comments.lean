import Hypertag.Proofs.Template.Quoting

/-!
# The end of a comment

A newline ends a comment, unless a single closing brace stands just before it. Then the newline only
tells that the brace was a single one, and the comment goes on into the next line.
-/

namespace Hypertag.Template

open State

/-- The body of a comment is passed up to a newline or two closing braces. -/
theorem comment_passes_iff {body : Text} (hline : '\n' ∉ body) (s' : State) :
    comment.Passes body s' ↔ ¬ ['\x7d', '\x7d'] <:+: body ∧
      s' = if body.getLast? = some '\x7d' then .commentSawBrace else .comment := by
  apply passes_unless_doubled_iff
  · intro c hc
    have hne : c ≠ '\n' := fun heq => hline (heq ▸ hc)
    simp [next_comment, hne]
  · intro c _ hc
    rw [next_commentSawBrace, if_neg hc]
  · exact fun _ => rfl
  · intro c
    rw [Bool.eq_iff_iff, cuts_iff]
    simp

/-- A comment with its newline cuts nothing; where it leads depends on the last character of its
body. -/
theorem comment_line_passes {body : Text} (hline : '\n' ∉ body)
    (hclosing : ¬ ['\x7d', '\x7d'] <:+: body) :
    code.Passes ('#' :: body ++ ['\n'])
      (if body.getLast? = some '\x7d' then .comment else .code) := by
  have hbody := (comment_passes_iff hline _).mpr ⟨hclosing, rfl⟩
  have hopen : code.Passes ['#'] .comment := ⟨rfl, by decide⟩
  apply (hopen.trans hbody).trans
  split
  · exact ⟨rfl, by decide⟩
  · exact ⟨rfl, by decide⟩

/-- From code on, a comment and its newline lead back to code exactly when no brace is the last
character of the comment. After such a brace the reading is still in the comment. -/
theorem comment_line_staysInCode_iff {u body : Text} (hu : (Progress.start.run u).state = .code)
    (hline : '\n' ∉ body) (hclosing : ¬ ['\x7d', '\x7d'] <:+: body) :
    ((Progress.start.run u).StaysInCode ('#' :: body ++ ['\n']) ↔
      body.getLast? ≠ some '\x7d') ∧
    (body.getLast? = some '\x7d' →
      ((Progress.start.run u).run ('#' :: body ++ ['\n'])).finished =
        (Progress.start.run u).finished ∧
      ((Progress.start.run u).run ('#' :: body ++ ['\n'])).state = .comment) := by
  have hpass := comment_line_passes hline hclosing
  have hrun := Progress.run_of_passes hu hpass
  constructor
  · rw [Progress.staysInCode_iff_passes, hu]
    constructor
    · intro hcode hlast
      rw [if_pos hlast] at hpass
      exact absurd (hpass.unique hcode) (by decide)
    · intro hlast
      rwa [if_neg hlast] at hpass
  · intro hlast
    rw [hrun, if_pos hlast]
    exact ⟨rfl, rfl⟩

/-- A single brace that is not the last character leaves the comment its newline. -/
theorem brace_within_comment :
    (Progress.start.run ['\x7b', '\x7b', '\x7d', ' ']).state = .code ∧
      (Progress.start.run ['\x7b', '\x7b', '\x7d', ' ']).StaysInCode
        ['#', '\x7d', ' ', '\'', '\n'] := by
  have hu : (Progress.start.run ['\x7b', '\x7b', '\x7d', ' ']).state = .code := rfl
  have hline : '\n' ∉ ['\x7d', ' ', '\''] := by decide
  exact ⟨hu, (comment_line_staysInCode_iff hu hline (by decide)).1.mpr (by decide)⟩

/-- A brace before the newline keeps the comment open. -/
theorem brace_before_newline_keeps_comment :
    ¬ ∀ u body : Text, (Progress.start.run u).state = .code → '\n' ∉ body →
      ¬ ['\x7d', '\x7d'] <:+: body → (Progress.start.run u).StaysInCode ('#' :: body ++ ['\n']) := by
  intro hall
  have hstays := hall ['\x7b', '\x7b'] ['\x7d'] rfl (by decide) (by decide)
  exact absurd hstays.2 (by decide)

end Hypertag.Template
