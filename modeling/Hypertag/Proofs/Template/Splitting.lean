import Hypertag.Proofs.Template.Passage
import Hypertag.Template.Segment

/-!
# Splitting inverts rebuilding

Every text is either rebuilt from one canonical sequence of pieces, which is what splitting returns,
or it has a last code block that nothing closes, which is what splitting reports.
-/

namespace Hypertag.Template

open State

/-- A text whose last code block, opened at a position, is not closed: the text after the opening
delimiter is passed to a state. -/
inductive Unclosed : Text → Nat → State → Prop where
  | last {l w : Text} {s : State} : Literal l → l.getLast? ≠ some '\x7b' → code.Passes w s →
      Unclosed (l ++ '\x7b' :: '\x7b' :: w) l.length s
  | code {l c t : Text} {n : Nat} {s : State} : Literal l → l.getLast? ≠ some '\x7b' → Code c →
      Unclosed t n s →
      Unclosed (l ++ '\x7b' :: '\x7b' :: c ++ '\x7d' :: '\x7d' :: t)
        (l.length + c.length + 4 + n) s

/-! ## Delimiters -/

namespace State

theorem isFinal_otherwise (s : State) : s.otherwise.isFinal = s.isFinal := by cases s <;> rfl

/-- Only a cut leads from literal text to code or back. -/
theorem isFinal_next {s : State} {c : Char} (h : s.cuts c = false) :
    (s.next c).isFinal = s.isFinal := by
  unfold next special?
  split
  case h_20 => exact isFinal_otherwise s
  all_goals simp_all [isFinal, cuts]

theorem Passes.isFinal_eq {s s' : State} {t : Text} (h : s.Passes t s') :
    s'.isFinal = s.isFinal := by
  induction t generalizing s with
  | nil => rw [(passes_nil_iff s s').mp h]
  | cons c t ih =>
      obtain ⟨hc, h⟩ := (passes_cons_iff s s' c t).mp h
      rw [ih h, isFinal_next hc]

theorem next_eq_codeSawBrace {s : State} {c : Char} (h : s.next c = .codeSawBrace) :
    s = .code ∧ c = '\x7d' := by
  unfold next special? at h
  split at h
  case h_20 => cases s <;> simp [otherwise] at h
  all_goals simp_all

theorem next_eq_commentSawBrace {s : State} {c : Char} (h : s.next c = .commentSawBrace) :
    s = .comment ∧ c = '\x7d' := by
  unfold next special? at h
  split at h
  case h_20 => cases s <;> simp [otherwise] at h
  all_goals simp_all

end State

/-- A text holds no opening delimiter, or its first one stands after a literal. -/
theorem literal_or_opening (t : Text) :
    Literal t ∨ ∃ l r, t = l ++ '\x7b' :: '\x7b' :: r ∧ Literal l ∧ l.getLast? ≠ some '\x7b' := by
  rcases passes_or_cut literal t with ⟨s', h⟩ | ⟨a, c, b, m, rfl, ha, hc⟩
  · exact .inl ((literal_passes_iff t s').mp h).1
  · obtain ⟨hlit, hm⟩ := (literal_passes_iff a m).mp ha
    have hfinal := ha.isFinal_eq
    rcases (cuts_iff m c).mp hc with ⟨rfl, rfl⟩ | ⟨rfl, rfl⟩ | ⟨rfl, rfl⟩
    · by_cases hend : a.getLast? = some '\x7b'
      · obtain ⟨l, rfl⟩ := List.getLast?_eq_some_iff.mp hend
        refine .inr ⟨l, b, by simp, fun h => hlit (h.trans (List.infix_append' [] l _)), ?_⟩
        intro h
        obtain ⟨k, rfl⟩ := List.getLast?_eq_some_iff.mp h
        exact hlit ⟨k, [], by simp⟩
      · simp [hend] at hm
    · exact absurd hfinal (by decide)
    · exact absurd hfinal (by decide)

/-- The text of a code block is passed up to its end, or its first closing delimiter stands after a
code piece. -/
theorem passes_or_closing (t : Text) :
    (∃ s, code.Passes t s) ∨ ∃ c r, t = c ++ '\x7d' :: '\x7d' :: r ∧ Code c := by
  rcases passes_or_cut .code t with h | ⟨a, c, b, m, rfl, ha, hc⟩
  · exact .inl h
  · have hfinal := ha.isFinal_eq
    rcases (cuts_iff m c).mp hc with ⟨rfl, rfl⟩ | ⟨rfl, rfl⟩ | ⟨rfl, rfl⟩
    · exact absurd hfinal (by decide)
    · obtain ⟨a, x, m, rfl, ha', hx⟩ := ha.last (by decide)
      obtain ⟨rfl, rfl⟩ := next_eq_codeSawBrace hx
      exact .inr ⟨a, b, by simp, (code_iff_passes a).mpr (.inl ha')⟩
    · obtain ⟨a, x, m, rfl, ha', hx⟩ := ha.last (by decide)
      obtain ⟨rfl, rfl⟩ := next_eq_commentSawBrace hx
      exact .inr ⟨a, b, by simp, (code_iff_passes a).mpr (.inr ha')⟩

/-- Every text is rebuilt from canonical pieces or has an unclosed block. -/
theorem canonical_or_unclosed (t : Text) :
    (∃ pieces, Canonical pieces ∧ rebuild pieces = t) ∨ ∃ n s, Unclosed t n s := by
  induction hn : t.length using Nat.strongRecOn generalizing t with
  | ind n ih =>
      rcases literal_or_opening t with hl | ⟨l, r, rfl, hl, hend⟩
      · exact .inl ⟨[t], .last hl, rfl⟩
      · rcases passes_or_closing r with ⟨s, hs⟩ | ⟨c, r, rfl, hc⟩
        · exact .inr ⟨_, s, .last hl hend hs⟩
        · have hshort : r.length < n := by
            simp only [List.length_append, List.length_cons] at hn
            omega
          rcases ih r.length hshort r rfl with ⟨pieces, hp, rfl⟩ | ⟨k, s, hk⟩
          · exact .inl ⟨l :: c :: pieces, .code hl hend hc hp, by simp [rebuild]⟩
          · exact .inr ⟨_, s, by simpa using Unclosed.code hl hend hc hk⟩

/-! ## Runs over pieces -/

namespace Progress

def extend (p : Progress) (t : Text) (s : State) : Progress :=
  { p with state := s, current := t.reverse ++ p.current, position := p.position + t.length }

theorem run_of_passes {p : Progress} {t : Text} {s s' : State} (hs : p.state = s)
    (h : s.Passes t s') : p.run t = p.extend t s' := by
  induction t generalizing p s with
  | nil =>
      obtain rfl := (passes_nil_iff s s').mp h
      simp [extend, ← hs]
  | cons c t ih =>
      obtain ⟨hc, h⟩ := (passes_cons_iff s s' c t).mp h
      have hfeed : p.feed c =
          ⟨s.next c, p.finished, c :: p.current, p.position + 1, p.openedAt⟩ := by
        simp [feed, hs, hc]
      rw [run_cons, hfeed, ih rfl h]
      simp [extend, Nat.add_assoc, Nat.add_comm 1]

theorem run_opening {p : Progress} (h : p.state = .literal) :
    p.run ['\x7b', '\x7b'] =
      ⟨.code, p.current.reverse :: p.finished, [], p.position + 2, some p.position⟩ := by
  simp [feed, h, next, special?, cuts]

theorem run_closing {p : Progress} (h : p.state = .code ∨ p.state = .comment) :
    p.run ['\x7d', '\x7d'] =
      ⟨.literal, p.current.reverse :: p.finished, [], p.position + 2, p.openedAt⟩ := by
  rcases h with h | h <;> simp [feed, h, next, special?, cuts]

/-- A literal and the delimiter after it. -/
theorem run_literal {p : Progress} {l : Text} (hs : p.state = .literal) (hc : p.current = [])
    (hl : Literal l) (hend : l.getLast? ≠ some '\x7b') :
    p.run (l ++ ['\x7b', '\x7b']) =
      ⟨.code, l :: p.finished, [], p.position + l.length + 2, some (p.position + l.length)⟩ := by
  have hpass : State.literal.Passes l .literal :=
    (literal_passes_iff l _).mpr ⟨hl, by simp [hend]⟩
  rw [run_append, run_of_passes hs hpass, run_opening rfl]
  simp [extend, hc]

/-- A code piece and the delimiter after it. -/
theorem run_code {p : Progress} {c : Text} (hs : p.state = .code) (hc : p.current = [])
    (h : Code c) :
    p.run (c ++ ['\x7d', '\x7d']) =
      ⟨.literal, c :: p.finished, [], p.position + c.length + 2, p.openedAt⟩ := by
  rcases (code_iff_passes c).mp h with hpass | hpass
  · rw [run_append, run_of_passes hs hpass, run_closing (.inl rfl)]
    simp [extend, hc]
  · rw [run_append, run_of_passes hs hpass, run_closing (.inr rfl)]
    simp [extend, hc]

/-- A whole block with the literal before it. -/
theorem run_block {p : Progress} {l c : Text} (hs : p.state = .literal) (hc : p.current = [])
    (hl : Literal l) (hend : l.getLast? ≠ some '\x7b') (h : Code c) (t : Text) :
    p.run (l ++ '\x7b' :: '\x7b' :: c ++ '\x7d' :: '\x7d' :: t) =
      Progress.run ⟨.literal, c :: l :: p.finished, [], p.position + (l.length + c.length + 4),
        some (p.position + l.length)⟩ t := by
  have hsplit : l ++ '\x7b' :: '\x7b' :: c ++ '\x7d' :: '\x7d' :: t =
      (l ++ ['\x7b', '\x7b']) ++ ((c ++ ['\x7d', '\x7d']) ++ t) := by simp
  rw [hsplit, run_append, run_literal hs hc hl hend, run_append, run_code rfl rfl h]
  simp only [Nat.add_assoc]
  congr 3
  omega

theorem finish_run_rebuild {pieces : List Text} (h : Canonical pieces) {p : Progress}
    (hs : p.state = .literal) (hc : p.current = []) :
    (p.run (rebuild pieces)).finish = .ok (p.finished.reverse ++ pieces) := by
  induction h generalizing p with
  | @last l hl =>
      have hpass := (literal_passes_iff l _).mpr ⟨hl, rfl⟩
      have hfinal := hpass.isFinal_eq
      rw [rebuild, run_of_passes hs hpass, finish, extend, hfinal]
      simp [isFinal, hc]
  | code hl hend hcode _ ih =>
      rw [rebuild, run_block hs hc hl hend hcode, ih rfl rfl]
      simp

theorem finish_run_unclosed {t : Text} {n : Nat} {s : State} (h : Unclosed t n s) {p : Progress}
    (hs : p.state = .literal) (hc : p.current = []) :
    (p.run t).finish = .error (.unterminated s (some (p.position + n))) := by
  induction h generalizing p with
  | @last l w s hl hend hw =>
      have hfinal : s.isFinal = false := hw.isFinal_eq
      have hsplit : l ++ '\x7b' :: '\x7b' :: w = (l ++ ['\x7b', '\x7b']) ++ w := by simp
      rw [hsplit, run_append, run_literal hs hc hl hend, run_of_passes rfl hw, finish]
      simp [extend, hfinal]
  | code hl hend hcode _ ih =>
      rw [run_block hs hc hl hend hcode, ih rfl rfl]
      simp [Nat.add_assoc]

end Progress

theorem split_rebuild {pieces : List Text} (h : Canonical pieces) :
    split (rebuild pieces) = .ok pieces := by
  simpa [split, Progress.start] using Progress.finish_run_rebuild h (p := .start) rfl rfl

theorem split_unclosed {t : Text} {n : Nat} {s : State} (h : Unclosed t n s) :
    split t = .error (.unterminated s (some n)) := by
  simpa [split, Progress.start] using Progress.finish_run_unclosed h (p := .start) rfl rfl

/-- What splitting returns is canonical and gives the text back. -/
theorem canonical_of_split {t : Text} {pieces : List Text} (h : split t = .ok pieces) :
    Canonical pieces ∧ rebuild pieces = t := by
  rcases canonical_or_unclosed t with ⟨l, hl, rfl⟩ | ⟨n, s, hu⟩
  · rw [split_rebuild hl] at h
    cases h
    exact ⟨hl, rfl⟩
  · rw [split_unclosed hu] at h
    cases h

/-- Splitting succeeds exactly on the texts rebuilt from canonical pieces; these pieces are unique
and are the ones returned. -/
theorem split_inverts_rebuild (t : Text) :
    ((∃ pieces, split t = .ok pieces) ↔ ∃ pieces, Canonical pieces ∧ t = rebuild pieces) ∧
    (∀ pieces, split t = .ok pieces ↔ Canonical pieces ∧ t = rebuild pieces) ∧
    ∀ a b, Canonical a → Canonical b → t = rebuild a → t = rebuild b → a = b := by
  have hiff : ∀ pieces, split t = .ok pieces ↔ Canonical pieces ∧ t = rebuild pieces := by
    intro pieces
    constructor
    · intro h
      obtain ⟨hp, rfl⟩ := canonical_of_split h
      exact ⟨hp, rfl⟩
    · intro hrebuilt
      obtain ⟨hp, rfl⟩ := hrebuilt
      exact split_rebuild hp
  refine ⟨exists_congr hiff, hiff, ?_⟩
  intro a b ha hb hta htb
  have hok : split t = .ok a := (hiff a).mpr ⟨ha, hta⟩
  rw [(hiff b).mpr ⟨hb, htb⟩] at hok
  exact (Except.ok.inj hok).symm

end Hypertag.Template
