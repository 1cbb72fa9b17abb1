import Hypertag.Proofs.Selector.Meaning
import Hypertag.Proofs.Selector.Names

/-!
# The shape of what is read

A query that was read is one well-formed selector, or a list of at least two, of which the first has
nothing before it to be a child of.
-/

namespace Hypertag

namespace Chain

theorem mem_of_mem_compound {w t : Text} (h : .compound w ∈ tokens t) {c : Char} (hc : c ∈ w) :
    c ∈ t ∧ isCompoundChar c = true := by
  induction t using induction_on_tokens with
  | nil => cases h
  | child t ih =>
      have hrest := ih (by simpa using h)
      exact ⟨List.mem_cons_of_mem _ hrest.1, hrest.2⟩
  | blank d t hd ih =>
      rw [tokens_blank hd] at h
      exact ⟨List.mem_cons_of_mem _ (ih h).1, (ih h).2⟩
  | word v t hne hv ht ih =>
      rw [tokens_word hne hv ht] at h
      rcases List.mem_cons.mp h with heq | h
      · obtain rfl := Token.compound.inj heq
        exact ⟨List.mem_append_left _ hc, hv c hc⟩
      · exact ⟨List.mem_append_right _ (ih h).1, (ih h).2⟩

theorem mem_separate {token : Token} {ts : List Token} (h : token ∈ separate ts) :
    token = .compound ['*'] ∨ token ∈ ts := by
  induction ts with
  | nil => cases h
  | cons next rest ih =>
      rw [separate] at h
      split at h
      · rcases List.mem_cons.mp h with rfl | h
        · exact .inr (by simp)
        · rcases List.mem_cons.mp h with rfl | h
          · exact .inl rfl
          · exact (ih h).imp_right (List.mem_cons_of_mem next)
      · rcases List.mem_cons.mp h with rfl | h
        · exact .inr (by simp)
        · exact (ih h).imp_right (List.mem_cons_of_mem next)

theorem subset_separate (ts : List Token) : ts ⊆ separate ts := by
  intro token h
  induction ts with
  | nil => cases h
  | cons next rest ih =>
      rw [separate]
      rcases List.mem_cons.mp h with rfl | h
      · split <;> simp
      · split <;> simp [ih h]

theorem exists_of_mem_members {s : Selector} {before : Option Token} {ts : List Token}
    (h : s ∈ members before ts) : ∃ w, .compound w ∈ ts ∧ s.compound = Compound.read w := by
  induction ts generalizing before with
  | nil => cases h
  | cons token rest ih =>
      cases token with
      | child =>
          obtain ⟨w, hw, hs⟩ := ih h
          exact ⟨w, List.mem_cons_of_mem _ hw, hs⟩
      | compound v =>
          rcases List.mem_cons.mp h with rfl | h
          · exact ⟨v, by simp, rfl⟩
          · obtain ⟨w, hw, hs⟩ := ih h
            exact ⟨w, List.mem_cons_of_mem _ hw, hs⟩

theorem members_ne_nil {w : Text} {ts : List Token} (h : .compound w ∈ ts)
    (before : Option Token) : members before ts ≠ [] := by
  induction ts generalizing before with
  | nil => cases h
  | cons token rest ih =>
      cases token with
      | child => exact ih (by simpa using h) _
      | compound v => simp [members]

end Chain

namespace Query

open Chain

/-- A selector by itself applies to any tag, and so does the first of a list; a list has two members
or more. -/
def Shaped : Query → Prop
  | .single s => s.compound.WellFormed ∧ s.traversal = .descendant
  | .list l => l.rest ≠ [] ∧ l.first.traversal = .descendant ∧
      ∀ s ∈ l.members, s.compound.WellFormed

theorem wellFormed_of_token {t w : Text} (h : Accepted t) (hw : .compound w ∈ tokens t) :
    (Compound.read w).WellFormed := by
  refine Compound.wellFormed_read fun c hc => ?_
  obtain ⟨hmem, hcompound⟩ := mem_of_mem_compound hw hc
  obtain ⟨hblank, hmark⟩ := (isCompoundChar_iff c).mp hcompound
  refine ⟨hblank, ?_⟩
  simp only [List.mem_cons, List.not_mem_nil, or_false, not_or]
  refine ⟨hmark, ?_, ?_, ?_, ?_, ?_⟩
  · intro heq
    subst heq
    exact h.supported .group hmem
  · intro heq
    subst heq
    exact h.supported .attributeTest hmem
  · intro heq
    subst heq
    exact h.supported .sibling hmem
  · intro heq
    subst heq
    exact h.supported .adjacent hmem
  · intro heq
    subst heq
    exact h.supported .pseudo hmem

theorem wellFormed_of_mem_members {t : Text} {s : Selector} (h : Accepted t)
    (hs : s ∈ Chain.members none (separate (tokens t))) : s.compound.WellFormed := by
  obtain ⟨w, hw, hcompound⟩ := exists_of_mem_members hs
  rw [hcompound]
  rcases mem_separate hw with hstar | hw
  · obtain rfl := Token.compound.inj hstar
    trivial
  · exact wellFormed_of_token h hw

/-- With both ends a compound, several tokens have a compound after the first. -/
private theorem exists_compound {next : Token} {rest : List Token}
    (hlast : (next :: rest).getLast? ≠ some .child) : ∃ w, .compound w ∈ next :: rest := by
  have hmem := List.getLast_mem (List.cons_ne_nil next rest)
  cases hend : (next :: rest).getLast (List.cons_ne_nil next rest) with
  | child =>
      rw [List.getLast?_eq_some_getLast (List.cons_ne_nil next rest), hend] at hlast
      exact absurd rfl hlast
  | compound w => exact ⟨w, by rwa [hend] at hmem⟩

theorem shaped_of_ofText {t : Text} {q : Query} (h : ofText t = .ok q) : q.Shaped := by
  obtain ⟨ha, hmeaning⟩ := (ofText_eq_ok_iff t q).mp h
  have hmembers := fun s => wellFormed_of_mem_members (s := s) ha
  have hcompound := fun w => wellFormed_of_token (w := w) ha
  have hfirst := ha.first
  have hlast := ha.last
  revert hmeaning hmembers hcompound hfirst hlast
  generalize tokens t = ts
  intro hmeaning hmembers hcompound hfirst hlast
  match ts with
  | [] =>
      obtain rfl := Option.some.inj hmeaning
      exact ⟨Compound.wellFormed_read (t := []) (by simp), rfl⟩
  | [.compound w] =>
      obtain rfl := Option.some.inj hmeaning
      exact ⟨hcompound w (List.mem_singleton.mpr rfl), rfl⟩
  | .child :: _ => exact absurd rfl hfirst
  | .compound v :: next :: rest =>
      rw [List.getLast?_cons_cons] at hlast
      obtain ⟨w, hw⟩ := exists_compound hlast
      have hne := members_ne_nil (subset_separate _ hw) (some (.compound v))
      obtain rfl := Option.some.inj hmeaning
      exact ⟨hne, rfl, hmembers⟩

end Query

end Hypertag
