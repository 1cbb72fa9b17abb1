import Hypertag.Proofs.Template.Unclosed

/-!
# Texts one after the other

Two texts of which the first is split can be read one after the other, unless an opening delimiter
stands across the seam. Then the last literal of the first text and the first literal of the second are
one literal, all other pieces stay as they are, and so does what is reported of a block that is not
closed, at its new place.
-/

namespace Hypertag.Template

open State

/-- No opening delimiter stands across the seam of two texts. -/
def Apart (a b : Text) : Prop := a.getLast? ≠ some '\x7b' ∨ b.head? ≠ some '\x7b'

/-- The pieces of two texts, the last piece of the first and the first of the second made one. -/
def spliced (xs ys : List Text) : List Text :=
  xs.dropLast ++ (xs.getLastD [] ++ ys.headD []) :: ys.tail

/-! ## Seams -/

theorem literal_append_iff (a b : Text) :
    Literal (a ++ b) ↔ Literal a ∧ Literal b ∧ Apart a b := by
  induction a with
  | nil => simp [Literal, Apart]
  | cons c a ih =>
      simp only [Literal] at ih ⊢
      rw [List.cons_append, not_doubled_cons_iff, not_doubled_cons_iff, ih]
      cases a with
      | nil => simp [Apart, and_comm, Decidable.imp_iff_not_or]
      | cons d a => simp [Apart, and_assoc]

/-- A delimiter after an empty literal stands at the seam itself. -/
theorem apart_delimiter_iff {a m t : Text} (hm : m.getLast? ≠ some '\x7b') :
    Apart a (m ++ '\x7b' :: t) ↔ Apart a m ∧ (a ++ m).getLast? ≠ some '\x7b' := by
  cases m with
  | nil => simp [Apart]
  | cons c m =>
      obtain ⟨d, hd⟩ : ∃ d, (c :: m).getLast? = some d := ⟨_, List.getLast?_cons⟩
      rw [hd] at hm
      simp [Apart, List.getLast?_append, hd, hm]

theorem apart_rebuild_code_iff (l c : Text) (rest : List Text) (b : Text) :
    Apart (rebuild (l :: c :: rest)) b ↔ Apart (rebuild rest) b := by
  rw [Apart, Apart, ne_eq, getLast?_rebuild_code]

/-! ## Spliced pieces -/

theorem spliced_code (l c : Text) {rest : List Text} (hrest : rest ≠ []) (ys : List Text) :
    spliced (l :: c :: rest) ys = l :: c :: spliced rest ys := by
  obtain ⟨x, xs, rfl⟩ := List.exists_cons_of_ne_nil hrest
  simp [spliced]

theorem spliced_concat (init : List Text) (l m : Text) (rest : List Text) :
    spliced (init ++ [l]) (m :: rest) = init ++ (l ++ m) :: rest := by
  simp [spliced]

theorem Canonical.ne_nil {pieces : List Text} (h : Canonical pieces) : pieces ≠ [] := by
  cases h <;> simp

theorem rebuild_spliced {xs ys : List Text} (hx : Canonical xs) (hy : Canonical ys) :
    rebuild (spliced xs ys) = rebuild xs ++ rebuild ys := by
  induction hx with
  | last _ =>
      cases hy with
      | last _ => rfl
      | code _ _ _ _ => simp [spliced, rebuild]
  | code _ _ _ hrest ih => simp [spliced_code _ _ hrest.ne_nil, rebuild, ih]

/-- Only the seam decides whether spliced pieces are canonical. -/
theorem canonical_spliced_iff {xs ys : List Text} (hx : Canonical xs) (hy : Canonical ys) :
    Canonical (spliced xs ys) ↔ Apart (rebuild xs) (rebuild ys) := by
  induction hx with
  | @last l hl =>
      cases hy with
      | @last m hm =>
          change Canonical [l ++ m] ↔ Apart l m
          constructor
          · intro h
            cases h with
            | last h => exact ((literal_append_iff l m).mp h).2.2
          · intro h
            exact .last ((literal_append_iff l m).mpr ⟨hl, hm, h⟩)
      | @code m c rest hm hend hc hrest =>
          change Canonical ((l ++ m) :: c :: rest) ↔ Apart l (rebuild (m :: c :: rest))
          rw [rebuild, List.append_assoc, List.cons_append, apart_delimiter_iff hend]
          constructor
          · intro h
            cases h with
            | code h hlast _ _ => exact ⟨((literal_append_iff l m).mp h).2.2, hlast⟩
          · intro h
            exact .code ((literal_append_iff l m).mpr ⟨hl, hm, h.1⟩) h.2 hc hrest
  | @code l c rest hl hend hc hrest ih =>
      rw [spliced_code l c hrest.ne_nil, apart_rebuild_code_iff, ← ih]
      constructor
      · intro h
        cases h with
        | code _ _ _ h => exact h
      · exact .code hl hend hc

/-! ## Reading on -/

/-- The brace that a split text ends in is the one that the reading has seen. -/
theorem state_run_rebuild {pieces : List Text} (h : Canonical pieces) {p : Progress}
    (hs : p.state = .literal) (hc : p.current = []) :
    (p.run (rebuild pieces)).state =
      if (rebuild pieces).getLast? = some '\x7b' then .literalSawBrace else .literal := by
  induction h generalizing p with
  | @last l hl =>
      have hpass := (literal_passes_iff l _).mpr ⟨hl, rfl⟩
      rw [rebuild, Progress.run_of_passes hs hpass]
      rfl
  | code hl hend hcode _ ih =>
      simp only [getLast?_rebuild_code]
      rw [rebuild, Progress.run_block hs hc hl hend hcode]
      exact ih rfl rfl

theorem state_run_ne_literalSawBrace_iff {a : Text} {pieces : List Text}
    (ha : split a = .ok pieces) :
    (Progress.start.run a).state ≠ .literalSawBrace ↔ a.getLast? ≠ some '\x7b' := by
  obtain ⟨hpieces, rfl⟩ := canonical_of_split ha
  rw [state_run_rebuild hpieces rfl rfl]
  split
  · next h => simp [h]
  · next h => simp [h]

/-- Texts that are split are split together, piece by piece, exactly when they are apart. -/
theorem split_append_eq_spliced_iff {a b : Text} {xs ys : List Text} (ha : split a = .ok xs)
    (hb : split b = .ok ys) : split (a ++ b) = .ok (spliced xs ys) ↔ Apart a b := by
  obtain ⟨hx, rfl⟩ := canonical_of_split ha
  obtain ⟨hy, rfl⟩ := canonical_of_split hb
  rw [← rebuild_spliced hx hy, ← canonical_spliced_iff hx hy]
  exact ⟨fun h => (canonical_of_split h).1, split_rebuild⟩

/-- A block that is not closed is reported where it stands in the whole text. -/
theorem split_append_of_unterminated {a b : Text} {xs : List Text} (ha : split a = .ok xs)
    (hseam : Apart a b) {e : TemplateError} (hb : split b = .error e) :
    ∃ s position, e = .unterminated s (some position) ∧
      split (a ++ b) = .error (.unterminated s (some (position + a.length))) := by
  obtain ⟨u, w, s, rfl, ⟨ys, hu⟩, hlast, hw, rfl⟩ := (split_eq_error_iff b e).mp hb
  obtain ⟨hbefore, hend⟩ := (apart_delimiter_iff hlast).mp hseam
  have hsplit := (split_append_eq_spliced_iff ha hu).mpr hbefore
  refine ⟨s, u.length, rfl, (split_eq_error_iff _ _).mpr ⟨a ++ u, w, s, ?_, ⟨_, hsplit⟩, hend, hw, ?_⟩⟩
  · rw [List.append_assoc]
  · rw [List.length_append, Nat.add_comm]

/-- A text that is split leaves the reading of another one after it as it is, unless the first ends in
a brace and the second begins with one. -/
theorem split_append_at_seam {a b : Text} {before : List Text} (ha : split a = .ok before)
    (hseam : (Progress.start.run a).state ≠ .literalSawBrace ∨ b.head? ≠ some '\x7b') :
    ((∃ pieces, split (a ++ b) = .ok pieces) ↔ ∃ pieces, split b = .ok pieces) ∧
    (∀ after, split b = .ok after →
      ∃ init l m rest, before = init ++ [l] ∧ after = m :: rest ∧
        split (a ++ b) = .ok (init ++ (l ++ m) :: rest)) ∧
    ∀ e, split b = .error e →
      ∃ s position, e = .unterminated s (some position) ∧
        split (a ++ b) = .error (.unterminated s (some (position + a.length))) := by
  rw [state_run_ne_literalSawBrace_iff ha] at hseam
  have herror := fun e => split_append_of_unterminated ha hseam (e := e)
  have hok : ∀ after, split b = .ok after → ∃ init l m rest, before = init ++ [l] ∧
      after = m :: rest ∧ split (a ++ b) = .ok (init ++ (l ++ m) :: rest) := by
    intro after hb
    obtain ⟨init, l, rfl⟩ :=
      (List.eq_nil_or_concat before).resolve_left (canonical_of_split ha).1.ne_nil
    obtain ⟨m, rest, rfl⟩ := List.exists_cons_of_ne_nil (canonical_of_split hb).1.ne_nil
    have hsplit := (split_append_eq_spliced_iff ha hb).mpr hseam
    rw [List.concat_eq_append, spliced_concat] at hsplit
    exact ⟨init, l, m, rest, List.concat_eq_append, rfl, hsplit⟩
  refine ⟨?_, hok, herror⟩
  cases hb : split b with
  | ok after =>
      obtain ⟨_, _, _, _, -, -, hsplit⟩ := hok after hb
      simp [hsplit]
  | error e =>
      obtain ⟨_, _, -, hsplit⟩ := herror e hb
      simp [hsplit]

/-- A brace at the end of the first text opens nothing when the second begins with a character, and the
block opened in the second is reported at its place in both. -/
theorem open_block_after_brace :
    split "x\x7b\x7bp\x7d\x7dy\x7b" = .ok ["x", "p", "y\x7b"] ∧
      ("z\x7b\x7bq" : Text).head? ≠ some '\x7b' ∧
      split ("x\x7b\x7bp\x7d\x7dy\x7b" ++ "z\x7b\x7bq" : Text) =
        .error (.unterminated .code (some 9)) := by
  have ha : split "x\x7b\x7bp\x7d\x7dy\x7b" = .ok ["x", "p", "y\x7b"] := rfl
  have hhead : ("z\x7b\x7bq" : Text).head? ≠ some '\x7b' := by decide
  have hb : split "z\x7b\x7bq" = .error (.unterminated .code (some 1)) := rfl
  obtain ⟨s, position, he, hsplit⟩ := (split_append_at_seam ha (.inr hhead)).2.2 _ hb
  cases he
  exact ⟨ha, hhead, hsplit⟩

end Hypertag.Template
