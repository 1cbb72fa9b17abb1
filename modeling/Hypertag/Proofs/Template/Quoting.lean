import Hypertag.Proofs.Template.Splitting

/-!
# Quoted text inside code

Where a quoted token or an operator begins an item of the code, nothing in it closes the block. A
lone closing brace just before it takes the opening mark along, and then the rest of the token is
read as code: whether it closes the block depends on that rest.
-/

namespace Hypertag.Template

open State

def Progress.StaysInCode (p : Progress) (t : Text) : Prop :=
  (p.run t).finished = p.finished ∧ (p.run t).state = .code

namespace Progress

theorem state_run (p : Progress) (t : Text) : (p.run t).state = p.state.after t := by
  induction t generalizing p with
  | nil => rfl
  | cons c t ih =>
      rw [run_cons, ih, after_cons]
      simp only [feed]
      split <;> rfl

/-- Every cut finishes one segment. -/
theorem finished_length_run (p : Progress) (t : Text) :
    (p.run t).finished.length = p.finished.length + (p.state.trace t).countP (·.2) := by
  induction t generalizing p with
  | nil => rfl
  | cons c t ih =>
      rw [run_cons, ih, trace, List.countP_cons]
      cases hc : p.state.cuts c with
      | true => simp [feed, hc]; omega
      | false => simp [feed, hc]

theorem staysInCode_iff_passes (p : Progress) (t : Text) :
    p.StaysInCode t ↔ p.state.Passes t .code := by
  constructor
  · intro hstays
    obtain ⟨hfinished, hstate⟩ := hstays
    have hcount := finished_length_run p t
    rw [hfinished] at hcount
    have hnone : (p.state.trace t).countP (·.2) = 0 := by omega
    refine ⟨by rw [← state_run, hstate], fun step hstep => ?_⟩
    simpa using List.countP_eq_zero.mp hnone step hstep
  · intro h
    rw [StaysInCode, run_of_passes rfl h]
    exact ⟨rfl, rfl⟩

end Progress

/-- The mark that opens hidden text closes nothing. -/
theorem Opaque.eq_cons {w : Text} (h : Opaque w) : ∃ c t, w = c :: t ∧ c ≠ '\x7d' := by
  cases h with
  | quoted q _ => exact ⟨q.mark, _, rfl, by cases q <;> decide⟩
  | operator _ => exact ⟨'%', _, rfl, by decide⟩

/-- A token that hides its text is read over wherever an item may begin; after a lone closing brace
it is so exactly when the text after its opening mark is a sequence of items itself. -/
theorem opaque_staysInCode_iff {u w : Text} (hw : Opaque w)
    (hu : (Progress.start.run u).state = .code ∨ (Progress.start.run u).state = .codeSawBrace) :
    (Progress.start.run u).StaysInCode w ↔
      (Progress.start.run u).state = .code ∨ Items w.tail := by
  rw [Progress.staysInCode_iff_passes]
  rcases hu with hu | hu
  · rw [hu]
    exact ⟨fun _ => .inl rfl, fun _ => hw.passes⟩
  · obtain ⟨c, t, rfl, hc⟩ := hw.eq_cons
    rw [hu, passes_cons_iff, next_codeSawBrace, if_neg hc, items_iff_passes]
    simp [cuts, hc]

/-- With an escaped mark the rest of the token is a character and another token, so it is read over
after a lone brace as well. -/
theorem escaped_mark_after_brace :
    Opaque ['\'', '\\', '\'', '\''] ∧
      (Progress.start.run ['\x7b', '\x7b', '\x7d']).state = .codeSawBrace ∧
      (Progress.start.run ['\x7b', '\x7b', '\x7d']).StaysInCode ['\'', '\\', '\'', '\''] := by
  have hw : Opaque ['\'', '\\', '\'', '\''] := .quoted .single (.escape .nil)
  have hu : (Progress.start.run ['\x7b', '\x7b', '\x7d']).state = .codeSawBrace := rfl
  have hbackslash : Item ['\\'] := .plain (by simp [opensItem]; intro q; cases q <;> decide)
  have hmarks : Item ['\'', '\''] := .hidden (.quoted .single .nil)
  exact ⟨hw, hu, (opaque_staysInCode_iff hw (.inr hu)).mpr
    (.inr (.cons hbackslash (.of_item hmarks)))⟩

/-- Braces in quotes close the block after a lone brace. -/
theorem braces_in_quotes_close_after_brace :
    Opaque ['\'', '\x7d', '\x7d', '\''] ∧
      (Progress.start.run ['\x7b', '\x7b', '\x7d']).state = .codeSawBrace ∧
      ¬ (Progress.start.run ['\x7b', '\x7b', '\x7d']).StaysInCode ['\'', '\x7d', '\x7d', '\''] := by
  have hbody : QuotedBody '\'' ['\x7d', '\x7d'] :=
    .plain (by decide) (by decide) (.plain (by decide) (by decide) .nil)
  exact ⟨.quoted .single hbody, rfl, fun h => absurd h.2 (by decide)⟩

end Hypertag.Template
