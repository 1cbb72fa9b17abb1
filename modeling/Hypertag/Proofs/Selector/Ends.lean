import Hypertag.Proofs.Selector.Tokens
import Hypertag.Selector.Reading

/-!
# Ends of trimmed text

Of a trimmed text the first and the last character belong to its first and last token. The two
checks for a `>` at an end look at single characters, which is then the same as looking at tokens.
-/

namespace Hypertag

namespace Text

theorem mem_strip_iff {c : Char} (hc : isBlank c = false) (t : Text) : c ∈ t.strip ↔ c ∈ t := by
  obtain ⟨a, b, ha, hb, ht⟩ := exists_strip t
  have hnota : c ∉ a := fun h => by simp [ha c h] at hc
  have hnotb : c ∉ b := fun h => by simp [hb c h] at hc
  conv_rhs => rw [ht]
  simp [hnota, hnotb]

end Text

namespace Chain

theorem tokens_eq_nil_iff (t : Text) : tokens t = [] ↔ ∀ c ∈ t, isBlank c = true := by
  induction t using induction_on_tokens with
  | nil => simp
  | child t _ => simp [show isBlank '>' = false by decide]
  | blank c t hc ih => simp [tokens_blank hc, ih, hc]
  | word w t hne hw ht _ =>
      obtain ⟨c, w, rfl⟩ := List.exists_cons_of_ne_nil hne
      obtain ⟨hblank, -⟩ := (isCompoundChar_iff c).mp (hw c (by simp))
      rw [tokens_word hne hw ht]
      simp [hblank]

theorem child_mem_tokens_iff (t : Text) : .child ∈ tokens t ↔ '>' ∈ t := by
  induction t using induction_on_tokens with
  | nil => simp
  | child t _ => simp
  | blank c t hc ih =>
      have hne := (ne_child_of_isBlank hc).symm
      simp [tokens_blank hc, ih, hne]
  | word w t hne hw ht ih =>
      simp [tokens_word hne hw ht, ih, child_notMem_word hw]

/-! ## The first and the last token -/

theorem head?_tokens_of_trimmed {t : Text} (h : t.Trimmed) :
    (tokens t).head? = some .child ↔ t.head? = some '>' := by
  rw [head?_tokens_iff, h.dropWhile_eq]

theorem head?_tokens_of_head? {t : Text} (h : t.head? = some '>') :
    (tokens t).head? = some .child := by
  obtain ⟨u, rfl⟩ := List.head?_eq_some_iff.mp h
  rw [tokens_child, List.head?_cons]

theorem tokens_ne_nil {t : Text} (hne : t ≠ [])
    (h : ∀ c, t.getLast? = some c → isBlank c = false) : tokens t ≠ [] := by
  intro htokens
  have hlast := List.getLast?_eq_some_getLast hne
  have hblank := (tokens_eq_nil_iff t).mp htokens _ (List.getLast_mem hne)
  exact absurd (h _ hlast) (by simp [hblank])

theorem getLast?_tokens_iff {t : Text} (h : ∀ c, t.getLast? = some c → isBlank c = false) :
    (tokens t).getLast? = some .child ↔ t.getLast? = some '>' := by
  induction t using induction_on_tokens with
  | nil => simp
  | child t ih =>
      by_cases ht : t = []
      · simp [ht]
      · rw [List.getLast?_cons_of_ne_nil ht] at h ⊢
        rw [tokens_child, List.getLast?_cons_of_ne_nil (tokens_ne_nil ht h), ih h]
  | blank c t hc ih =>
      by_cases ht : t = []
      · subst ht
        exact absurd (h c rfl) (by simp [hc])
      · rw [List.getLast?_cons_of_ne_nil ht] at h ⊢
        rw [tokens_blank hc, ih h]
  | word w t hne hw ht ih =>
      rw [tokens_word hne hw ht]
      by_cases hnil : t = []
      · subst hnil
        have hlast := List.getLast?_eq_some_getLast hne
        obtain ⟨-, hmark⟩ := (isCompoundChar_iff _).mp (hw _ (List.getLast_mem hne))
        simp [hlast, hmark]
      · rw [List.getLast?_append_of_ne_nil w hnil] at h ⊢
        rw [List.getLast?_cons_of_ne_nil (tokens_ne_nil hnil h), ih h]

/-- A `>` that the text ends in is the last token, also before a newline. -/
theorem getLast?_tokens_of_suffix {t : Text} (h : ['>'] <:+ t ∨ ['>', '\n'] <:+ t) :
    (tokens t).getLast? = some .child := by
  have hplain (u : Text) : (tokens (u ++ ['>'])).getLast? = some .child := by
    rw [tokens_append_child]
    simp
  rcases h with ⟨u, rfl⟩ | ⟨u, rfl⟩
  · exact hplain u
  · have hnewline : ∀ c ∈ ['\n'], isBlank c = true := by
      intro c hc
      obtain rfl := List.mem_singleton.mp hc
      decide
    rw [← List.singleton_append, ← List.append_assoc, tokens_append_blanks hnewline]
    exact hplain u

end Chain

/-! ## The checks for a `>` at an end -/

namespace Pattern

theorem detect_childFirst_iff (t : Text) : childFirst.detect t = true ↔ t.head? = some '>' := by
  have hstart : Measure.AtStart fun n t => if n = 0 ∧ t.head? = some '>' then 1 else 0 :=
    fun n t hn => by simp [hn]
  rw [childFirst, (measuredBy_atStart_one '>').detect_eq, hstart.first?_eq]
  cases t with
  | nil => simp
  | cons c t => by_cases hc : c = '>' <;> simp [hc]

private theorem isSome_first?_childLast (n : Nat) (t : Text) :
    (Measure.first? (fun _ t => if t = ['>'] ∨ t = ['>', '\n'] then 1 else 0) n t).isSome = true ↔
      ['>'] <:+ t ∨ ['>', '\n'] <:+ t := by
  induction t generalizing n with
  | nil => simp [Measure.first?]
  | cons c t ih =>
      rw [Measure.first?, List.suffix_cons_iff, List.suffix_cons_iff]
      by_cases hend : c :: t = ['>'] ∨ c :: t = ['>', '\n']
      · rw [if_pos hend]
        rcases hend with hend | hend <;> simp [hend]
      · have hone : ['>'] ≠ c :: t := fun h => hend (.inl h.symm)
        have htwo : ['>', '\n'] ≠ c :: t := fun h => hend (.inr h.symm)
        rw [if_neg hend]
        simp [ih, hone, htwo]

/-- The end is also seen before a newline that ends the text. -/
theorem detect_childLast_iff (t : Text) :
    childLast.detect t = true ↔ ['>'] <:+ t ∨ ['>', '\n'] <:+ t := by
  rw [childLast, (measuredBy_one_atEnd '>').detect_eq]
  exact isSome_first?_childLast 0 t

theorem detect_childLast_of_trimmed {t : Text} (h : t.Trimmed) :
    childLast.detect t = true ↔ t.getLast? = some '>' := by
  rw [detect_childLast_iff, List.getLast?_eq_some_iff]
  constructor
  · rintro (⟨u, hu⟩ | ⟨u, rfl⟩)
    · exact ⟨u, hu.symm⟩
    · have hblank := h.last '\n' (by simp)
      exact absurd hblank (by decide)
  · intro hlast
    obtain ⟨u, hu⟩ := hlast
    exact .inl ⟨u, hu.symm⟩

end Pattern

end Hypertag
