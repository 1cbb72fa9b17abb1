import Hypertag.Proofs.Scan.Trim
import Hypertag.Selector.Chain

/-!
# The tokens of selector text

Each `>` is a token, and so is each longest run of characters that are neither blank nor `>`. Blanks
part tokens and add none, so blanks at the ends make no difference.
-/

namespace Hypertag.Chain

theorem isCompoundChar_iff (c : Char) : isCompoundChar c = true ↔ isBlank c = false ∧ c ≠ '>' := by
  simp [isCompoundChar]

theorem ne_child_of_isBlank {c : Char} (hc : isBlank c = true) : c ≠ '>' := by
  rintro rfl
  exact absurd hc (by decide)

theorem child_notMem_word {w : Text} (hw : ∀ c ∈ w, isCompoundChar c = true) : '>' ∉ w := by
  intro hmem
  exact ((isCompoundChar_iff '>').mp (hw _ hmem)).2 rfl

private theorem map_snd_tokensFrom (n k : Nat) (t : Text) :
    (tokensFrom n t).map (·.2) = (tokensFrom k t).map (·.2) := by
  induction t generalizing n k with
  | nil => rfl
  | cons c t ih =>
      have hrest := ih (n + 1) (k + 1)
      simp only [tokensFrom]
      split
      · simpa using hrest
      · split
        · exact hrest
        · split
          · cases hn : tokensFrom (n + 1) t with
            | nil =>
                rw [hn] at hrest
                have hk : tokensFrom (k + 1) t = [] := List.map_eq_nil_iff.mp hrest.symm
                simp [hk]
            | cons a as =>
                obtain ⟨b, bs, hk⟩ : ∃ b bs, tokensFrom (k + 1) t = b :: bs := by
                  cases hk : tokensFrom (k + 1) t with
                  | nil => simp [hn, hk] at hrest
                  | cons b bs => exact ⟨b, bs, rfl⟩
                rw [hn, hk, List.map_cons, List.map_cons] at hrest
                obtain ⟨hhead, htail⟩ := List.cons.inj hrest
                rcases a with ⟨pa, a⟩
                rcases b with ⟨pb, b⟩
                obtain rfl : a = b := hhead
                cases a <;> simp [hk, htail]
          · simpa using hrest

/-! ## One token at a time -/

@[simp] theorem tokens_nil : tokens [] = [] := rfl

@[simp] theorem tokens_child (t : Text) : tokens ('>' :: t) = .child :: tokens t := by
  simp only [tokens, positionedTokens, tokensFrom]
  simpa using map_snd_tokensFrom 1 0 t

theorem tokens_blank {c : Char} (hc : isBlank c = true) (t : Text) :
    tokens (c :: t) = tokens t := by
  have hne := ne_child_of_isBlank hc
  simp only [tokens, positionedTokens, tokensFrom]
  simpa [hne, hc] using map_snd_tokensFrom 1 0 t

/-- A compound character begins a compound, or lengthens the one that follows. -/
private theorem tokens_compoundChar {c : Char} (hc : isCompoundChar c = true) (t : Text) :
    tokens (c :: t) =
      if t.head?.any isCompoundChar then
        match tokens t with
        | .compound w :: ts => .compound (c :: w) :: ts
        | ts => .compound [c] :: ts
      else .compound [c] :: tokens t := by
  obtain ⟨hblank, hne⟩ := (isCompoundChar_iff c).mp hc
  have hrest : tokens t = (tokensFrom 1 t).map (·.2) := map_snd_tokensFrom 0 1 t
  rw [hrest]
  simp only [tokens, positionedTokens, tokensFrom]
  simp only [beq_iff_eq, hne, if_false, hblank, Bool.false_eq_true]
  split
  · cases tokensFrom 1 t with
    | nil => rfl
    | cons a as =>
        rcases a with ⟨position, a⟩
        cases a <;> rfl
  · rfl

/-- A longest run of compound characters is one token. -/
theorem tokens_word {w t : Text} (hne : w ≠ []) (hw : ∀ c ∈ w, isCompoundChar c = true)
    (ht : t.head?.any isCompoundChar = false) : tokens (w ++ t) = .compound w :: tokens t := by
  induction w with
  | nil => exact absurd rfl hne
  | cons c w ih =>
      have hc := hw c (by simp)
      rw [List.cons_append, tokens_compoundChar hc]
      cases w with
      | nil => simp [ht]
      | cons d w =>
          have hd := hw d (by simp)
          have hrest := ih (by simp) fun x hx => hw x (by simp [hx])
          rw [List.cons_append] at hrest ⊢
          simp [hd, hrest]

/-- A text is empty, or begins with a `>`, a blank, or a longest run of compound characters. -/
theorem text_cases (t : Text) :
    t = [] ∨ (∃ r, t = '>' :: r) ∨ (∃ c r, t = c :: r ∧ isBlank c = true) ∨
      ∃ w r, t = w ++ r ∧ w ≠ [] ∧ (∀ c ∈ w, isCompoundChar c = true) ∧
        r.head?.any isCompoundChar = false := by
  cases t with
  | nil => exact .inl rfl
  | cons c t =>
      by_cases hc : isCompoundChar c
      · have hsplit := (List.takeWhile_append_dropWhile (p := isCompoundChar) (l := c :: t)).symm
        refine .inr (.inr (.inr ⟨_, _, hsplit, by simp [hc], ?_, ?_⟩))
        · exact fun x hx => List.mem_takeWhile_imp hx
        · have hstop := List.head?_dropWhile_not isCompoundChar (c :: t)
          cases hd : ((c :: t).dropWhile isCompoundChar).head? with
          | none => rfl
          | some x => simpa [hd] using hstop
      · by_cases hgt : c = '>'
        · exact .inr (.inl ⟨t, by rw [hgt]⟩)
        · have hblank : isBlank c = true := by
            simpa [isCompoundChar_iff, hgt] using hc
          exact .inr (.inr (.inl ⟨c, t, rfl, hblank⟩))

/-- Induction over a text token by token, with the blanks between them. -/
theorem induction_on_tokens {P : Text → Prop} (nil : P []) (child : ∀ t, P t → P ('>' :: t))
    (blank : ∀ c t, isBlank c = true → P t → P (c :: t))
    (word : ∀ w t, w ≠ [] → (∀ c ∈ w, isCompoundChar c = true) →
      t.head?.any isCompoundChar = false → P t → P (w ++ t)) (t : Text) : P t := by
  induction hk : t.length using Nat.strongRecOn generalizing t with
  | ind k ih =>
      rcases text_cases t with rfl | ⟨r, rfl⟩ | ⟨c, r, rfl, hc⟩ | ⟨w, r, rfl, hne, hw, hr⟩
      · exact nil
      · exact child r (ih r.length (by simp [← hk]) r rfl)
      · exact blank c r hc (ih r.length (by simp [← hk]) r rfl)
      · have hpos := List.length_pos_iff.mpr hne
        rw [List.length_append] at hk
        exact word w r hne hw hr (ih r.length (by omega) r rfl)

/-- A text parts into tokens on its own when what stands after it lengthens no compound. -/
theorem tokens_append (u : Text) {v : Text} (hv : v.head?.any isCompoundChar = false) :
    tokens (u ++ v) = tokens u ++ tokens v := by
  induction u using induction_on_tokens with
  | nil => rfl
  | child u ih => simp [ih]
  | blank c u hc ih => rw [List.cons_append, tokens_blank hc, tokens_blank hc, ih]
  | word w u hne hw hu ih =>
      have hend : (u ++ v).head?.any isCompoundChar = false := by
        cases u with
        | nil => exact hv
        | cons d u => simpa using hu
      rw [List.append_assoc, tokens_word hne hw hend, tokens_word hne hw hu, ih, List.cons_append]

theorem tokens_append_blank {c : Char} (hc : isBlank c = true) (u v : Text) :
    tokens (u ++ c :: v) = tokens u ++ tokens v := by
  rw [tokens_append u (by simp [isCompoundChar, hc]), tokens_blank hc]

theorem tokens_append_child (u v : Text) :
    tokens (u ++ '>' :: v) = tokens u ++ .child :: tokens v := by
  rw [tokens_append u (by simp [isCompoundChar]), tokens_child]

/-- The first token is a `>` when the first character that is not blank is. -/
theorem head?_tokens_iff (t : Text) :
    (tokens t).head? = some .child ↔ (t.dropWhile isBlank).head? = some '>' := by
  induction t using induction_on_tokens with
  | nil => simp
  | child t _ => simp [show isBlank '>' = false by decide]
  | blank c t hc ih => rw [tokens_blank hc, List.dropWhile_cons_of_pos hc, ih]
  | word w t hne hw ht _ =>
      obtain ⟨c, w, rfl⟩ := List.exists_cons_of_ne_nil hne
      obtain ⟨hblank, hmark⟩ := (isCompoundChar_iff c).mp (hw c (by simp))
      rw [tokens_word hne hw ht]
      simp [hblank, hmark]

theorem length_tokens_le (t : Text) : (tokens t).length ≤ t.length := by
  induction t using induction_on_tokens with
  | nil => exact Nat.le_refl _
  | child t ih => simpa using ih
  | blank c t hc ih =>
      rw [tokens_blank hc, List.length_cons]
      omega
  | word w t hne hw ht ih =>
      have hpos := List.length_pos_iff.mpr hne
      rw [tokens_word hne hw ht, List.length_cons, List.length_append]
      omega

/-! ## Blanks at the ends -/

theorem tokens_blanks_append {b : Text} (hb : ∀ c ∈ b, isBlank c = true) (t : Text) :
    tokens (b ++ t) = tokens t := by
  induction b with
  | nil => rfl
  | cons c b ih =>
      rw [List.cons_append, tokens_blank (hb c (by simp)), ih fun x hx => hb x (by simp [hx])]

theorem tokens_append_blanks {b : Text} (hb : ∀ c ∈ b, isBlank c = true) (t : Text) :
    tokens (t ++ b) = tokens t := by
  have hend : b.head?.any isCompoundChar = false := by
    cases b with
    | nil => rfl
    | cons d b =>
        have hd := hb d (by simp)
        simp [isCompoundChar, hd]
  have hnone := tokens_blanks_append hb []
  rw [List.append_nil] at hnone
  rw [tokens_append t hend, hnone, tokens_nil, List.append_nil]

theorem tokens_strip (t : Text) : tokens t.strip = tokens t := by
  obtain ⟨a, b, ha, hb, ht⟩ := Text.exists_strip t
  conv_rhs => rw [ht, tokens_append_blanks hb, tokens_blanks_append ha]

end Hypertag.Chain
