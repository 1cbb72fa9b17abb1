import Hypertag.Proofs.Selector.Outcome
import Hypertag.Proofs.Selector.RoundTrip
import Mathlib.Data.List.Find

/-!
# Texts with the same tokens

What comes of a text depends on its tokens alone: the query that is read from it, and the message when
it is refused.
-/

namespace Hypertag

open Chain

namespace Chain

/-- A character of a compound stands in a text when it stands in one of its tokens. -/
theorem mem_iff_mem_compound {c : Char} (hc : isCompoundChar c = true) (t : Text) :
    c ∈ t ↔ ∃ w, .compound w ∈ tokens t ∧ c ∈ w := by
  obtain ⟨hblank, hmark⟩ := (isCompoundChar_iff c).mp hc
  induction t using induction_on_tokens with
  | nil => simp
  | child t ih => simp [hmark, ih]
  | blank d t hd ih =>
      have hne : c ≠ d := by
        rintro rfl
        rw [hd] at hblank
        cases hblank
      rw [tokens_blank hd, List.mem_cons, ← ih]
      simp [hne]
  | word w t hne hw ht ih =>
      rw [tokens_word hne hw ht, List.mem_append, ih]
      simp [or_and_right, exists_or]

end Chain

namespace Query

variable {t u : Text}

theorem mem_of_same_tokens (h : tokens t = tokens u) {c : Char}
    (hc : c ∈ [',', '[', '~', '+', ':']) : c ∈ t ↔ c ∈ u := by
  have hall : [',', '[', '~', '+', ':'].all isCompoundChar = true := by decide
  have hcompound : isCompoundChar c = true := List.all_eq_true.mp hall c hc
  rw [mem_iff_mem_compound hcompound, mem_iff_mem_compound hcompound, h]

theorem plain_of_same_tokens (h : tokens t = tokens u)
    (hplain : ∀ c ∈ [',', '[', '~', '+', ':'], c ∉ t) : ∀ c ∈ [',', '[', '~', '+', ':'], c ∉ u :=
  fun c hc hmem => hplain c hc ((mem_of_same_tokens h hc).mpr hmem)

theorem find_refused_of_same_tokens (h : tokens t = tokens u) :
    [',', '[', '~', '+', ':'].find? (· ∈ t) = [',', '[', '~', '+', ':'].find? (· ∈ u) := by
  apply List.find?_congr
  intro c hc
  rw [decide_eq_decide]
  exact mem_of_same_tokens h hc

/-- What comes of one text comes of the other, up to the text that an error quotes. -/
theorem Outcome.exists_of_same_tokens (h : tokens t = tokens u) {r : Except SelectorError Query}
    (hr : Outcome (.text t) r) :
    ∃ r', Outcome (.text u) r' ∧
      r'.mapError SelectorError.message = r.mapError SelectorError.message := by
  cases hr with
  | notText hquery htext => exact absurd (.text t) (htext t)
  | unsupported ht hfound =>
      cases ht
      rw [find_refused_of_same_tokens h] at hfound
      exact ⟨_, .unsupported (.text u) hfound, rfl⟩
  | childFirst ht hplain hfirst =>
      cases ht
      rw [h] at hfirst
      exact ⟨_, .childFirst (.text u) (plain_of_same_tokens h hplain) hfirst, rfl⟩
  | childLast ht hplain hfirst hlast =>
      cases ht
      rw [h] at hfirst hlast
      exact ⟨_, .childLast (.text u) (plain_of_same_tokens h hplain) hfirst hlast, rfl⟩
  | read ht hplain hfirst hlast hmeaning =>
      cases ht
      rw [h] at hfirst hlast hmeaning
      exact ⟨_, .read (.text u) (plain_of_same_tokens h hplain) hfirst hlast hmeaning, rfl⟩

theorem ofText_of_same_tokens (h : tokens t = tokens u) :
    (ofText u).mapError SelectorError.message = (ofText t).mapError SelectorError.message := by
  obtain ⟨r, hr⟩ := outcome_of_standsFor (.text t)
  obtain ⟨r', hr', hmessage⟩ := hr.exists_of_same_tokens h
  have ht : ofText t = r := hr.ofValue_eq
  have hu : ofText u = r' := hr'.ofValue_eq
  rw [ht, hu, hmessage]

/-- However the words are cut, their tokens decide. -/
theorem ofValue_words_of_same_tokens {P Q : List Text} (h : P.flatMap tokens = Q.flatMap tokens) :
    (ofValue (.list (Q.map .text))).mapError SelectorError.message =
      (ofValue (.list (P.map .text))).mapError SelectorError.message := by
  rw [← tokens_join, ← tokens_join] at h
  rw [(StandsFor.list Q).ofValue_eq, (StandsFor.list P).ofValue_eq, ofText_of_same_tokens h]

end Query

end Hypertag
