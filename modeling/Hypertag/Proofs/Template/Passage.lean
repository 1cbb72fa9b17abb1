import Hypertag.Proofs.Template.Grammar

/-!
# Text that is passed without a cut

A text passes from one state to another when reading it leads there and no character of it cuts.
Passages compose, every text passes up to its first cut, and each kind of token of the grammar has
its passage. The last section says that the passages within a code block are exactly the texts of
the grammar.
-/

namespace Hypertag.Template

namespace State

def after (s : State) (t : Text) : State := t.foldl next s

def Passes (s : State) (t : Text) (s' : State) : Prop :=
  s.after t = s' ∧ ∀ step ∈ s.trace t, step.2 = false

@[simp] theorem after_nil (s : State) : s.after [] = s := rfl

@[simp] theorem after_cons (s : State) (c : Char) (t : Text) :
    s.after (c :: t) = (s.next c).after t := rfl

@[simp] theorem passes_nil_iff (s s' : State) : s.Passes [] s' ↔ s = s' := by
  simp [Passes, trace]

@[simp] theorem passes_cons_iff (s s' : State) (c : Char) (t : Text) :
    s.Passes (c :: t) s' ↔ s.cuts c = false ∧ (s.next c).Passes t s' := by
  simp only [Passes, after_cons, trace, List.mem_cons, forall_eq_or_imp]
  exact and_left_comm

theorem passes_append_iff (s s' : State) (a b : Text) :
    s.Passes (a ++ b) s' ↔ ∃ m, s.Passes a m ∧ m.Passes b s' := by
  induction a generalizing s with
  | nil => simp
  | cons c a ih => simp [ih, and_assoc]

theorem Passes.trans {s m s' : State} {a b : Text} (ha : s.Passes a m) (hb : m.Passes b s') :
    s.Passes (a ++ b) s' :=
  (passes_append_iff s s' a b).mpr ⟨m, ha, hb⟩

theorem Passes.after_eq {s s' : State} {t : Text} (h : s.Passes t s') : s.after t = s' := h.1

theorem Passes.unique {s m m' : State} {t : Text} (h : s.Passes t m) (h' : s.Passes t m') :
    m = m' := h.after_eq.symm.trans h'.after_eq

/-- A text is passed as a whole, or up to a character that cuts. -/
theorem passes_or_cut (s : State) (t : Text) :
    (∃ s', s.Passes t s') ∨
      ∃ a c b m, t = a ++ c :: b ∧ s.Passes a m ∧ m.cuts c = true := by
  induction t generalizing s with
  | nil => exact .inl ⟨s, by simp⟩
  | cons c t ih =>
      cases hc : s.cuts c with
      | true => exact .inr ⟨[], c, t, s, rfl, by simp, hc⟩
      | false =>
          rcases ih (s.next c) with ⟨s', h⟩ | ⟨a, d, b, m, rfl, h, hd⟩
          · exact .inl ⟨s', by simp [hc, h]⟩
          · exact .inr ⟨c :: a, d, b, m, rfl, by simp [hc, h], hd⟩

/-- The last character of a passage. -/
theorem Passes.last {s s' : State} {t : Text} (h : s.Passes t s') (hne : s ≠ s') :
    ∃ a c m, t = a ++ [c] ∧ s.Passes a m ∧ m.next c = s' := by
  rcases List.eq_nil_or_concat t with rfl | ⟨a, c, rfl⟩
  · exact absurd ((passes_nil_iff s s').mp h) hne
  · obtain ⟨m, ha, hc⟩ := (passes_append_iff s s' a [c]).mp (by simpa using h)
    exact ⟨a, c, m, by simp, ha, by simpa using ((passes_cons_iff m s' c []).mp hc).2⟩

/-! ## The states one by one -/

theorem cuts_iff (s : State) (c : Char) :
    s.cuts c = true ↔ s = .literalSawBrace ∧ c = '\x7b' ∨ s = .codeSawBrace ∧ c = '\x7d' ∨
      s = .commentSawBrace ∧ c = '\x7d' := by
  unfold cuts
  split <;> simp_all

theorem next_literal (c : Char) :
    literal.next c = if c = '\x7b' then .literalSawBrace else .literal := by
  simp only [next, special?, otherwise]
  split <;> simp_all

theorem next_literalSawBrace (c : Char) :
    literalSawBrace.next c = if c = '\x7b' then .code else .literal := by
  simp only [next, special?, otherwise]
  split <;> simp_all

theorem next_codeSawBrace (c : Char) :
    codeSawBrace.next c = if c = '\x7d' then .literal else .code := by
  simp only [next, special?, otherwise]
  split <;> simp_all

theorem next_percentOperator (c : Char) :
    percentOperator.next c = if c = '%' then .code else .percentOperator := by
  simp only [next, special?, otherwise]
  split <;> simp_all

theorem next_commentSawBrace (c : Char) :
    commentSawBrace.next c = if c = '\x7d' then .literal else .comment := by
  simp only [next, special?, otherwise]
  split <;> simp_all

theorem next_comment (c : Char) :
    comment.next c =
      if c = '\x7d' then .commentSawBrace else if c = '\n' then .code else .comment := by
  simp only [next, special?, otherwise]
  split <;> simp_all

theorem next_code_plain {c : Char} (h : ¬ opensItem c) : code.next c = .code := by
  simp only [opensItem, not_or, not_exists] at h
  obtain ⟨hbrace, hquote, hpercent, hhash⟩ := h
  have hsingle := hquote .single
  have hdouble := hquote .double
  have hbacktick := hquote .backtick
  simp only [next, special?, otherwise]
  split <;> simp_all [Quote.mark]

end State

/-! ## Quoted text -/

namespace Quote

def inside : Quote → State
  | .single => .singleQuoted
  | .double => .doubleQuoted
  | .backtick => .backtick

def escape : Quote → State
  | .single => .singleQuotedEscape
  | .double => .doubleQuotedEscape
  | .backtick => .backtickEscape

theorem next_mark (q : Quote) : State.code.next q.mark = q.inside := by cases q <;> rfl

theorem next_inside (q : Quote) (c : Char) :
    q.inside.next c = if c = '\\' then q.escape else if c = q.mark then .code else q.inside := by
  cases q <;> simp only [inside, escape, mark, State.next, State.special?, State.otherwise] <;>
    split <;> simp_all

theorem mark_ne_backslash (q : Quote) : q.mark ≠ '\\' := by cases q <;> decide

theorem next_escape (q : Quote) (c : Char) : q.escape.next c = q.inside := by
  cases q <;> rfl

theorem cuts_inside (q : Quote) (c : Char) : q.inside.cuts c = false := by cases q <;> rfl

theorem cuts_escape (q : Quote) (c : Char) : q.escape.cuts c = false := by cases q <;> rfl

end Quote

/-! ## Passages of tokens -/

open State

theorem QuotedBody.passes (q : Quote) {body : Text} (h : QuotedBody q.mark body) :
    q.inside.Passes body q.inside := by
  induction h with
  | nil => simp
  | plain hq hb _ ih => simpa [q.cuts_inside, q.next_inside, hq, hb] using ih
  | escape _ ih => simpa [q.cuts_inside, q.next_inside, q.cuts_escape, q.next_escape] using ih

theorem CommentBody.passes {body : Text} (h : CommentBody body) :
    comment.Passes body .comment := by
  induction h with
  | nil => simp
  | plain hb hn _ ih => simpa [cuts, next_comment, hb, hn] using ih
  | brace hb _ ih => simpa [cuts, next_comment, next_commentSawBrace, hb] using ih

theorem operator_passes {body : Text} (h : '%' ∉ body) :
    percentOperator.Passes body .percentOperator := by
  induction body with
  | nil => simp
  | cons c t ih =>
      simp only [List.mem_cons, not_or] at h
      have hc : c ≠ '%' := fun hc => h.1 hc.symm
      simpa [cuts, next_percentOperator, hc] using ih h.2

/-- Hidden text is read over from code to code. -/
theorem Opaque.passes {w : Text} (h : Opaque w) : code.Passes w .code := by
  cases h with
  | quoted q hb =>
      have hclose : q.inside.Passes [q.mark] .code := by cases q <;> exact ⟨rfl, by decide⟩
      simpa [cuts, q.next_mark] using (QuotedBody.passes q hb).trans hclose
  | operator hb =>
      have hclose : percentOperator.Passes ['%'] .code := ⟨rfl, by decide⟩
      have hopen : code.next '%' = .percentOperator := rfl
      simpa [cuts, hopen] using (operator_passes hb).trans hclose

theorem Item.passes {w : Text} (h : Item w) : code.Passes w .code := by
  cases h with
  | plain hc => simp [cuts, next_code_plain hc]
  | brace hc =>
      have hopen : code.next '\x7d' = .codeSawBrace := rfl
      simp [cuts, hopen, next_codeSawBrace, hc]
  | hidden hw => exact hw.passes
  | comment hb =>
      have hclose : State.comment.Passes ['\n'] .code := ⟨rfl, by decide⟩
      have hopen : code.next '#' = .comment := rfl
      simpa [cuts, hopen] using hb.passes.trans hclose

theorem Items.passes {t : Text} (h : Items t) : code.Passes t .code := by
  induction h with
  | nil => simp
  | cons hw _ ih => exact hw.passes.trans ih

theorem Code.passes {t : Text} (h : Code t) : code.Passes t .code ∨ code.Passes t .comment := by
  cases h with
  | items ht => exact .inl ht.passes
  | comment ht hb =>
      have hopen : code.next '#' = .comment := rfl
      exact .inr (ht.passes.trans (by simpa [cuts, hopen] using hb.passes))

/-! ## Passages up to a doubled mark -/

/-- Where a mark leads to a second state and all else back to the first, a text is passed when the mark
stands nowhere twice in a row, and the last character tells the state after it. -/
theorem passes_unless_doubled_iff {s m s' : State} {mark : Char} (t : Text)
    (hs : ∀ c ∈ t, s.next c = if c = mark then m else s) (hm : ∀ c ∈ t, c ≠ mark → m.next c = s)
    (hcuts : ∀ c, s.cuts c = false) (hmark : ∀ c, m.cuts c = decide (c = mark)) :
    s.Passes t s' ↔
      ¬ [mark, mark] <:+: t ∧ s' = if t.getLast? = some mark then m else s := by
  induction t with
  | nil => simpa using eq_comm
  | cons c t ih =>
      have hrest := ih (fun d hd => hs d (by simp [hd])) fun d hd => hm d (by simp [hd])
      rw [passes_cons_iff, hs c (by simp), hcuts, not_doubled_cons_iff]
      by_cases hc : c = mark
      · cases t with
        | nil => simpa [hc] using eq_comm
        | cons d t =>
            -- From the second state on, only another mark is read differently than from the first.
            have hsecond : m.Passes (d :: t) s' ↔ d ≠ mark ∧ s.Passes (d :: t) s' := by
              by_cases hd : d = mark
              · simp [hd, hmark]
              · simp [hd, hmark, hcuts, hs d (by simp), hm d (by simp) hd]
            simp [hc, hsecond, hrest, and_assoc]
      · cases t with
        | nil => simpa [hc] using eq_comm
        | cons d t => simp [hc, hrest]

/-- A literal is what is passed outside of code, and its last character tells the state after it. -/
theorem literal_passes_iff (t : Text) (s' : State) :
    literal.Passes t s' ↔
      Literal t ∧ s' = if t.getLast? = some '\x7b' then .literalSawBrace else .literal := by
  apply passes_unless_doubled_iff
  · exact fun c _ => next_literal c
  · exact fun c _ hc => by rw [next_literalSawBrace, if_neg hc]
  · exact fun _ => rfl
  · exact fun c => by rw [Bool.eq_iff_iff, cuts_iff]; simp

/-! ## The passages of code are the texts of the grammar -/

/-- Quoted text ends at its mark, from inside it or after a backslash. -/
private theorem quoted_passes (q : Quote) {s' : State} (hi : q.inside ≠ s') (he : q.escape ≠ s')
    (t : Text) :
    (q.inside.Passes t s' →
      ∃ b r, t = b ++ q.mark :: r ∧ QuotedBody q.mark b ∧ code.Passes r s') ∧
    (q.escape.Passes t s' →
      ∃ c b r, t = c :: b ++ q.mark :: r ∧ QuotedBody q.mark b ∧ code.Passes r s') := by
  induction t with
  | nil => simp [hi, he]
  | cons c t ih =>
      refine ⟨fun h => ?_, fun h => ?_⟩
      · have h := ((passes_cons_iff ..).mp h).2
        rw [q.next_inside] at h
        by_cases hb : c = '\\'
        · obtain ⟨d, b, r, rfl, hq, hr⟩ := ih.2 (by simpa [hb] using h)
          exact ⟨'\\' :: d :: b, r, by simp [hb], .escape hq, hr⟩
        · by_cases hm : c = q.mark
          · exact ⟨[], t, by simp [hm], .nil, by simpa [hm, q.mark_ne_backslash] using h⟩
          · obtain ⟨b, r, rfl, hq, hr⟩ := ih.1 (by simpa [hb, hm] using h)
            exact ⟨c :: b, r, rfl, .plain hm hb hq, hr⟩
      · have h := ((passes_cons_iff ..).mp h).2
        obtain ⟨b, r, rfl, hq, hr⟩ := ih.1 (by simpa [q.next_escape] using h)
        exact ⟨c, b, r, rfl, hq, hr⟩

private theorem percentOperator_passes {s' : State} (hs : percentOperator ≠ s') {t : Text}
    (h : percentOperator.Passes t s') :
    ∃ b r, t = b ++ '%' :: r ∧ '%' ∉ b ∧ code.Passes r s' := by
  induction t with
  | nil => simp [hs] at h
  | cons c t ih =>
      have h := ((passes_cons_iff ..).mp h).2
      rw [next_percentOperator] at h
      by_cases hc : c = '%'
      · exact ⟨[], t, by simp [hc], by simp, by simpa [hc] using h⟩
      · obtain ⟨b, r, rfl, hb, hr⟩ := ih (by simpa [hc] using h)
        exact ⟨c :: b, r, rfl, by simpa [hb] using Ne.symm hc, hr⟩

/-- A comment ends at a newline, or it is all that is left. -/
private theorem comment_passes {s' : State} (hs : commentSawBrace ≠ s') (t : Text) :
    (comment.Passes t s' → CommentBody t ∧ s' = .comment ∨
      ∃ b r, t = b ++ '\n' :: r ∧ CommentBody b ∧ code.Passes r s') ∧
    (commentSawBrace.Passes t s' → ∃ c b, c ≠ '\x7d' ∧ CommentBody b ∧
      (t = c :: b ∧ s' = .comment ∨ ∃ r, t = c :: b ++ '\n' :: r ∧ code.Passes r s')) := by
  induction t with
  | nil => simp [hs, CommentBody.nil, eq_comm]
  | cons c t ih =>
      refine ⟨fun h => ?_, fun h => ?_⟩
      · have h := ((passes_cons_iff ..).mp h).2
        rw [next_comment] at h
        by_cases hb : c = '\x7d'
        · obtain ⟨d, b, hd, hbody, ⟨rfl, hend⟩ | ⟨r, rfl, hr⟩⟩ := ih.2 (by simpa [hb] using h)
          · exact .inl ⟨hb ▸ .brace hd hbody, hend⟩
          · exact .inr ⟨'\x7d' :: d :: b, r, by simp [hb], .brace hd hbody, hr⟩
        · by_cases hn : c = '\n'
          · exact .inr ⟨[], t, by simp [hn], .nil, by simpa [hn] using h⟩
          · rcases ih.1 (by simpa [hb, hn] using h) with ⟨hbody, hend⟩ | ⟨b, r, rfl, hbody, hr⟩
            · exact .inl ⟨.plain hb hn hbody, hend⟩
            · exact .inr ⟨c :: b, r, rfl, .plain hb hn hbody, hr⟩
      · obtain ⟨hcut, h⟩ := (passes_cons_iff ..).mp h
        have hc : c ≠ '\x7d' := by
          intro heq
          simp [heq, cuts] at hcut
        rw [next_commentSawBrace, if_neg hc] at h
        rcases ih.1 h with ⟨hbody, hend⟩ | ⟨b, r, rfl, hbody, hr⟩
        · exact ⟨c, t, hc, hbody, .inl ⟨rfl, hend⟩⟩
        · exact ⟨c, b, hc, hbody, .inr ⟨r, rfl, hr⟩⟩

/-- What stands at the start of a passage within a block: one item, or a comment up to the end. -/
private theorem first_item {s' : State} (hs : s' = .code ∨ s' = .comment) {c : Char} {t : Text}
    (h : code.Passes (c :: t) s') :
    (∃ w r, c :: t = w ++ r ∧ Item w ∧ w ≠ [] ∧ code.Passes r s') ∨
      ∃ b, c :: t = '#' :: b ∧ CommentBody b ∧ s' = .comment := by
  have h := ((passes_cons_iff ..).mp h).2
  by_cases hc : opensItem c
  · rcases hc with rfl | ⟨q, rfl⟩ | rfl | rfl
    · -- a lone brace and whatever follows it
      cases t with
      | nil => rcases hs with rfl | rfl <;> simp [next, special?] at h
      | cons d t =>
          obtain ⟨hcut, h⟩ := (passes_cons_iff codeSawBrace s' d t).mp h
          have hd : d ≠ '\x7d' := by
            intro heq
            simp [heq, cuts] at hcut
          rw [next_codeSawBrace, if_neg hd] at h
          exact .inl ⟨['\x7d', d], t, rfl, .brace hd, by simp, h⟩
    · rw [q.next_mark] at h
      have hi : q.inside ≠ s' := by rcases hs with rfl | rfl <;> cases q <;> decide
      have he : q.escape ≠ s' := by rcases hs with rfl | rfl <;> cases q <;> decide
      obtain ⟨b, r, rfl, hb, hr⟩ := (quoted_passes q hi he t).1 h
      exact .inl ⟨q.mark :: b ++ [q.mark], r, by simp, .hidden (.quoted q hb), by simp, hr⟩
    · have hne : percentOperator ≠ s' := by rcases hs with rfl | rfl <;> decide
      obtain ⟨b, r, rfl, hb, hr⟩ := percentOperator_passes hne h
      exact .inl ⟨'%' :: b ++ ['%'], r, by simp, .hidden (.operator hb), by simp, hr⟩
    · have hne : commentSawBrace ≠ s' := by rcases hs with rfl | rfl <;> decide
      rcases (comment_passes hne t).1 h with ⟨hb, hend⟩ | ⟨b, r, rfl, hb, hr⟩
      · exact .inr ⟨t, rfl, hb, hend⟩
      · exact .inl ⟨'#' :: b ++ ['\n'], r, by simp, .comment hb, by simp, hr⟩
  · rw [next_code_plain hc] at h
    exact .inl ⟨[c], t, rfl, .plain hc, by simp, h⟩

/-- Cutting off item by item leaves items only, or items and an open comment. -/
private theorem items_of_passes {s' : State} (hs : s' = .code ∨ s' = .comment) (n : Nat) (t : Text)
    (hn : t.length ≤ n) (h : code.Passes t s') :
    Items t ∧ s' = .code ∨
      ∃ i b, t = i ++ '#' :: b ∧ Items i ∧ CommentBody b ∧ s' = .comment := by
  induction n generalizing t with
  | zero =>
      obtain rfl := List.length_eq_zero_iff.mp (Nat.le_zero.mp hn)
      exact .inl ⟨.nil, by simpa [eq_comm] using h⟩
  | succ n ih =>
      cases t with
      | nil => exact .inl ⟨.nil, by simpa [eq_comm] using h⟩
      | cons c t =>
          rcases first_item hs h with ⟨w, r, hw, hitem, hne, hr⟩ | ⟨b, hb, hbody, hend⟩
          · have hlen : w.length + r.length = t.length + 1 := by
              simpa using (congrArg List.length hw).symm
            have hpos := List.length_pos_iff.mpr hne
            have hshort : r.length ≤ n := by simp only [List.length_cons] at hn; omega
            rcases ih r hshort hr with ⟨hr, hend⟩ | ⟨i, b, rfl, hi, hb, hend⟩
            · exact .inl ⟨hw ▸ .cons hitem hr, hend⟩
            · exact .inr ⟨w ++ i, b, by rw [hw, List.append_assoc], .cons hitem hi, hb, hend⟩
          · exact .inr ⟨[], b, hb, .nil, hbody, hend⟩

theorem items_iff_passes (t : Text) : Items t ↔ code.Passes t .code := by
  refine ⟨Items.passes, fun h => ?_⟩
  rcases items_of_passes (.inl rfl) t.length t (Nat.le_refl _) h with ⟨ht, _⟩ | ⟨_, _, _, _, _, h⟩
  · exact ht
  · exact absurd h (by decide)

theorem code_iff_passes (t : Text) :
    Code t ↔ code.Passes t .code ∨ code.Passes t .comment := by
  refine ⟨Code.passes, ?_⟩
  rintro (h | h)
  · exact .items ((items_iff_passes t).mpr h)
  · rcases items_of_passes (.inr rfl) t.length t (Nat.le_refl _) h with
      ⟨_, h⟩ | ⟨i, b, rfl, hi, hb, _⟩
    · exact absurd h (by decide)
    · exact .comment hi hb

end Hypertag.Template
