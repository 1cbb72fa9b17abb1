import Hypertag.Proofs.Selector.Meaning

/-!
# Chains in any text

A chain is read from any text, with blanks at its ends and refused characters in it. The two checks of
its ends look at characters and leave the rest to the grammar, which sees tokens. So a `>` behind a
blank is found by the grammar only, and so is one before two blanks.
-/

namespace Hypertag.Chain

/-- The text ends in `>`, or in one with a final newline after it. -/
def EndsInChild (t : Text) : Prop := ['>'] <:+ t ∨ ['>', '\n'] <:+ t

def Incomplete (ts : List Token) : Prop :=
  ts = [] ∨ ts.head? = some .child ∨ ts.getLast? = some .child

theorem read_of_first {t : Text} (h : t.head? = some '>') :
    read t = .error (.dangling .first t) := by
  rw [read, if_pos ((Pattern.detect_childFirst_iff t).mpr h)]

theorem read_of_last {t : Text} (hfirst : t.head? ≠ some '>') (h : EndsInChild t) :
    read t = .error (.dangling .last t) := by
  rw [read, if_neg ((Pattern.detect_childFirst_iff t).not.mpr hfirst),
    if_pos ((Pattern.detect_childLast_iff t).mpr h)]

/-- What the checks let pass and the grammar does not take is refused with the text as it was when the
grammar saw it. -/
theorem read_of_incomplete {t : Text} (hfirst : t.head? ≠ some '>') (hlast : ¬ EndsInChild t)
    (h : Incomplete (tokens t)) : ∃ fault, read t = .error (.chain fault (spread t)) := by
  have hread : read t = (ofTokens (positionedTokens (spread t))).mapError fun failure =>
      .chain (failure.locate (spread t)) (spread t) := by
    rw [read, if_neg ((Pattern.detect_childFirst_iff t).not.mpr hfirst),
      if_neg ((Pattern.detect_childLast_iff t).not.mpr hlast)]
  cases hgrammar : ofTokens (positionedTokens (spread t)) with
  | error failure =>
      rw [hgrammar] at hread
      exact ⟨_, hread⟩
  | ok l =>
      obtain ⟨hne, hhead, hfollowed⟩ := followed_of_ofTokens hgrammar
      have htokens : (positionedTokens (spread t)).map (·.2) = separate (tokens t) := tokens_spread t
      rw [htokens, head?_separate] at hhead
      rw [htokens, followed_separate_iff] at hfollowed
      rcases h with hnil | hchild | hchild
      · rw [hnil] at htokens
        exact absurd (List.map_eq_nil_iff.mp htokens) hne
      · exact absurd hchild hhead
      · exact absurd hchild hfollowed

/-- Text without `>` has its words for members, and blanks at its ends add none. -/
theorem read_words {t : Text} (hmark : '>' ∉ t) (hplain : ∃ c ∈ t, isBlank c = false) :
    ∃ l : SelectorList, read t = .ok l ∧
      l.members =
        (Pattern.blanks.split (t.trim .both)).map fun w => ⟨Compound.read w, .descendant⟩ := by
  obtain ⟨c, hc, hblank⟩ := hplain
  have hne : t.strip ≠ [] := List.ne_nil_of_mem ((Text.mem_strip_iff hblank t).mpr hc)
  have hnomark : '>' ∉ t.strip := fun h => hmark ((Text.mem_strip_iff (by decide) t).mp h)
  have htrimmed := Text.trimmed_strip t
  have hnochild : Token.child ∉ tokens t := fun h => hmark ((child_mem_tokens_iff t).mp h)
  have hmany : tokens t ≠ [] := by
    rw [← tokens_strip]
    exact tokens_ne_nil hne htrimmed.last
  obtain ⟨l, hl, hmembers⟩ := read_of_tokens hmany
    (fun h => hnochild (List.mem_of_head? h)) (fun h => hnochild (List.mem_of_getLast? h))
  rw [← tokens_strip, members_of_words htrimmed hne hnomark, ← Text.trim_both] at hmembers
  exact ⟨l, hl, hmembers⟩

/-- No two of the ways in which reading ends are for the same text, and one is. -/
theorem read_cases (t : Text) :
    t.head? = some '>' ∧ read t = .error (.dangling .first t) ∨
      t.head? ≠ some '>' ∧ EndsInChild t ∧ read t = .error (.dangling .last t) ∨
      t.head? ≠ some '>' ∧ ¬ EndsInChild t ∧ Incomplete (tokens t) ∧
        (∃ fault, read t = .error (.chain fault (spread t))) ∨
      t.head? ≠ some '>' ∧ ¬ EndsInChild t ∧ ¬ Incomplete (tokens t) ∧
        ∃ l : SelectorList, read t = .ok l ∧ l.members = members none (separate (tokens t)) := by
  by_cases hfirst : t.head? = some '>'
  · exact .inl ⟨hfirst, read_of_first hfirst⟩
  by_cases hlast : EndsInChild t
  · exact .inr (.inl ⟨hfirst, hlast, read_of_last hfirst hlast⟩)
  by_cases htokens : Incomplete (tokens t)
  · exact .inr (.inr (.inl ⟨hfirst, hlast, htokens, read_of_incomplete hfirst hlast htokens⟩))
  · have hcomplete := htokens
    simp only [Incomplete, not_or] at hcomplete
    obtain ⟨hne, hhead, hend⟩ := hcomplete
    exact .inr (.inr (.inr ⟨hfirst, hlast, htokens, read_of_tokens hne hhead hend⟩))

/-- A text is refused for a `>` that it begins with, else for one that it ends in, else for tokens that
are no chain, and is read in all other cases. A text of words only is read as the list that the division
at blanks gives. -/
theorem read_partition (t : Text) :
    (((∃ u, read t = .error (.dangling .first u)) ↔ t.head? = some '>') ∧
      ((∃ u, read t = .error (.dangling .last u)) ↔ t.head? ≠ some '>' ∧ EndsInChild t) ∧
      ((∃ fault u, read t = .error (.chain fault u)) ↔
        t.head? ≠ some '>' ∧ ¬ EndsInChild t ∧ Incomplete (tokens t)) ∧
      ((∃ l : SelectorList, read t = .ok l ∧ l.members = members none (separate (tokens t))) ↔
        t.head? ≠ some '>' ∧ ¬ EndsInChild t ∧ ¬ Incomplete (tokens t))) ∧
    ('>' ∉ t → (∃ c ∈ t, isBlank c = false) →
      ∃ l, SelectorList.ofMembers? ((Pattern.blanks.split (t.trim .both)).map fun w =>
          ⟨Compound.read w, .descendant⟩) = some l ∧ read t = .ok l) := by
  constructor
  · rcases read_cases t with ⟨hfirst, hread⟩ | ⟨hfirst, hlast, hread⟩ |
      ⟨hfirst, hlast, htokens, fault, hread⟩ | ⟨hfirst, hlast, htokens, l, hread, hmembers⟩
    · simp [hread, hfirst]
    · simp [hread, hfirst, hlast]
    · simp [hread, hfirst, hlast, htokens]
    · simp [hread, hfirst, hlast, htokens, hmembers]
  · intro hmark hplain
    obtain ⟨l, hread, hmembers⟩ := read_words hmark hplain
    exact ⟨l, by rw [← hmembers, SelectorList.ofMembers?_members], hread⟩

/-- Blanks of any kind around two words. -/
theorem words_between_blanks :
    '>' ∉ "\ta\n b.c[ \n".toList ∧ (∃ c ∈ "\ta\n b.c[ \n".toList, isBlank c = false) ∧
      read "\ta\n b.c[ \n".toList =
        .ok ⟨⟨.regular ⟨some ['a'], none, []⟩, .descendant⟩,
          [⟨.regular ⟨some ['b'], none, [['c']]⟩, .descendant⟩]⟩ := by
  have hmark : '>' ∉ "\ta\n b.c[ \n".toList := by decide
  have hplain : ∃ c ∈ "\ta\n b.c[ \n".toList, isBlank c = false := ⟨'a', by decide, by decide⟩
  obtain ⟨l, hl, hread⟩ := (read_partition _).2 hmark hplain
  have hmembers : SelectorList.ofMembers?
      ((Pattern.blanks.split (Text.trim "\ta\n b.c[ \n".toList .both)).map fun w =>
        ⟨Compound.read w, .descendant⟩) =
      some ⟨⟨.regular ⟨some ['a'], none, []⟩, .descendant⟩,
        [⟨.regular ⟨some ['b'], none, [['c']]⟩, .descendant⟩]⟩ := by decide
  obtain rfl := Option.some.inj (hl.symm.trans hmembers)
  exact ⟨hmark, hplain, hread⟩

end Hypertag.Chain
