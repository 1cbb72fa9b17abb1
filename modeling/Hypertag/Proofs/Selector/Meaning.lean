import Hypertag.Proofs.Selector.Members
import Hypertag.Proofs.Selector.Words

/-!
# What a query means

Three ways lead from text to a query: the grammar of chains, the division at blanks, and one
compound as it is. They agree with one description that goes through the tokens from left to right.
-/

namespace Hypertag

namespace Chain

/-- At most one compound is a selector by itself. More tokens are a list with a member for each
compound, after `*` is put between neighbouring `>`. -/
def meaning? : List Token → Option Query
  | [] => some (.single ⟨Compound.read [], .descendant⟩)
  | [.compound w] => some (.single ⟨Compound.read w, .descendant⟩)
  | ts => (SelectorList.ofMembers? (members none (separate ts))).map .list

theorem meaning?_of_members {ts : List Token} {l : SelectorList} (hne : ts ≠ [])
    (hmany : ∀ w, ts ≠ [.compound w]) (hl : l.members = members none (separate ts)) :
    meaning? ts = some (.list l) := by
  rw [meaning?]
  · rw [← hl, SelectorList.ofMembers?_members]
    rfl
  · exact hne
  · exact hmany

theorem members_of_meaning? {ts : List Token} {q : Query} (hne : ts ≠ [])
    (h : meaning? ts = some q) : q.members = members none (separate ts) := by
  revert h
  fun_cases meaning? ts with
  | case1 => exact absurd rfl hne
  | case2 w =>
      intro h
      obtain rfl := Option.some.inj h
      rfl
  | case3 ts hne hmany =>
      intro h
      obtain ⟨l, hl, rfl⟩ := Option.map_eq_some_iff.mp h
      cases hmembers : members none (separate ts) with
      | nil => simp [hmembers, SelectorList.ofMembers?] at hl
      | cons s rest =>
          rw [hmembers] at hl
          obtain rfl := Option.some.inj hl
          rfl

/-- A chain with tokens, neither the first nor the last of them a `>`, is read as the tokens say. -/
theorem read_of_tokens {t : Text} (hne : tokens t ≠ []) (hfirst : (tokens t).head? ≠ some .child)
    (hlast : (tokens t).getLast? ≠ some .child) :
    ∃ l : SelectorList, read t = .ok l ∧ l.members = members none (separate (tokens t)) := by
  have hnofirst : ¬ Pattern.childFirst.detect t = true := by
    rw [Pattern.detect_childFirst_iff]
    exact fun h => hfirst (head?_tokens_of_head? h)
  have hnolast : ¬ Pattern.childLast.detect t = true := by
    rw [Pattern.detect_childLast_iff]
    exact fun h => hlast (getLast?_tokens_of_suffix h)
  have htokens : (positionedTokens (spread t)).map (·.2) = separate (tokens t) := tokens_spread t
  have hspread : positionedTokens (spread t) ≠ [] := by
    intro hnil
    rw [hnil, List.map_nil] at htokens
    have hhead := congrArg List.head? htokens.symm
    rw [head?_separate, List.head?_nil, List.head?_eq_none_iff] at hhead
    exact hne hhead
  have hgrammar := ofTokens_of_followed (positionedTokens (spread t))
  rw [htokens, head?_separate, followed_separate_iff] at hgrammar
  obtain ⟨l, hl, hmembers⟩ := hgrammar hfirst hspread hlast
  refine ⟨l, ?_, hmembers⟩
  rw [read, if_neg hnofirst, if_neg hnolast]
  simp only [hl, Except.mapError]

/-- Trimmed text without `>` has its words for members. -/
theorem members_of_words {t : Text} (h : t.Trimmed) (hne : t ≠ []) (hmark : '>' ∉ t) :
    members none (separate (tokens t)) =
      (Pattern.blanks.split t).map fun w => ⟨Compound.read w, .descendant⟩ := by
  rw [← map_compound_split h hne hmark, separate_map_compound, members_map_compound none (by simp)]

end Chain

namespace Query

open Chain

/-- Text that a query is read from: no refused token anywhere and no `>` at an end. -/
structure Accepted (t : Text) : Prop where
  supported : ∀ token : Unsupported, token.character ∉ t
  first : (tokens t).head? ≠ some .child
  last : (tokens t).getLast? ≠ some .child

theorem firstUnsupported?_eq_none_iff (t : Text) :
    firstUnsupported? t = none ↔ ∀ token : Unsupported, token.character ∉ t := by
  rw [firstUnsupported?, List.find?_eq_none]
  simp only [Literal.detect_singleton_iff]
  constructor
  · intro h token
    cases token <;> exact h _ (by decide)
  · exact fun h token _ => h token

/-! ## Trimmed text -/

theorem ofTrimmed_chain {t : Text} (ha : Accepted t) (hmark : '>' ∈ t) :
    ∃ q, ofTrimmed t = .ok q ∧ meaning? (tokens t) = some q := by
  have hplain := (firstUnsupported?_eq_none_iff t).mpr ha.supported
  have hmem := (child_mem_tokens_iff t).mpr hmark
  have hmany : ∀ w, tokens t ≠ [.compound w] := by
    intro w hw
    simp [hw] at hmem
  obtain ⟨l, hl, hmembers⟩ := read_of_tokens (List.ne_nil_of_mem hmem) ha.first ha.last
  refine ⟨.list l, ?_, meaning?_of_members (List.ne_nil_of_mem hmem) hmany hmembers⟩
  rw [ofTrimmed, hplain]
  simp only [Literal.detect_singleton_iff, if_pos hmark, hl, Except.map]

theorem ofTrimmed_words {t : Text} (h : t.Trimmed) (hplain : firstUnsupported? t = none)
    (hmark : '>' ∉ t) {c : Char} (hc : c ∈ t) (hblank : isBlank c = true) :
    ∃ q, ofTrimmed t = .ok q ∧ meaning? (tokens t) = some q := by
  have hne : t ≠ [] := List.ne_nil_of_mem hc
  have hdetect := (detect_blanks_iff t).mpr ⟨c, hc, hblank⟩
  have hmembers := members_of_words h hne hmark
  obtain ⟨first, rest, hsplit⟩ : ∃ first rest, Pattern.blanks.split t = first :: rest := by
    refine List.exists_cons_of_ne_nil fun hnil => tokens_ne_nil hne h.last ?_
    rw [← map_compound_split h hne hmark, hnil, List.map_nil]
  rw [hsplit, List.map_cons] at hmembers
  refine ⟨.list ⟨_, _⟩, ?_, meaning?_of_members (tokens_ne_nil hne h.last)
    (fun w => tokens_ne_singleton h hc hblank _) hmembers.symm⟩
  rw [ofTrimmed, hplain]
  simp only [Literal.detect_singleton_iff, if_neg hmark, if_pos hdetect, hsplit, List.map_cons,
    SelectorList.ofMembers?]

theorem ofTrimmed_word {t : Text} (hplain : firstUnsupported? t = none) (hmark : '>' ∉ t)
    (hblank : ∀ c ∈ t, isBlank c = false) :
    ∃ q, ofTrimmed t = .ok q ∧ meaning? (tokens t) = some q := by
  have hnodetect : ¬ Pattern.blanks.detect t = true := by
    rw [detect_blanks_iff]
    intro hfound
    obtain ⟨c, hc, hc'⟩ := hfound
    simp [hblank c hc] at hc'
  refine ⟨.single ⟨Compound.read t, .descendant⟩, ?_, ?_⟩
  · rw [ofTrimmed, hplain]
    simp only [Literal.detect_singleton_iff, if_neg hmark, if_neg hnodetect]
  · by_cases hnil : t = []
    · rw [hnil]
      rfl
    · rw [tokens_of_no_blank hnil hmark hblank]
      rfl

/-- Each of the three ways reads what the tokens mean. -/
theorem ofTrimmed_of_accepted {t : Text} (h : t.Trimmed) (ha : Accepted t) :
    ∃ q, ofTrimmed t = .ok q ∧ meaning? (tokens t) = some q := by
  have hplain := (firstUnsupported?_eq_none_iff t).mpr ha.supported
  by_cases hmark : '>' ∈ t
  · exact ofTrimmed_chain ha hmark
  · by_cases hblank : ∃ c ∈ t, isBlank c = true
    · obtain ⟨c, hc, hblank⟩ := hblank
      exact ofTrimmed_words h hplain hmark hc hblank
    · refine ofTrimmed_word hplain hmark fun c hc => ?_
      simpa using fun hc' => hblank ⟨c, hc, hc'⟩

theorem ofTrimmed_of_first {t : Text} (h : t.Trimmed) (hplain : firstUnsupported? t = none)
    (hfirst : (tokens t).head? = some .child) : ofTrimmed t = .error (.dangling .first t) := by
  have hmark := (child_mem_tokens_iff t).mp (List.mem_of_head? hfirst)
  have hdetect := (Pattern.detect_childFirst_iff t).mpr ((head?_tokens_of_trimmed h).mp hfirst)
  have hread : Chain.read t = .error (.dangling .first t) := by rw [Chain.read, if_pos hdetect]
  rw [ofTrimmed, hplain]
  simp only [Literal.detect_singleton_iff, if_pos hmark, hread, Except.map]

theorem ofTrimmed_of_last {t : Text} (h : t.Trimmed) (hplain : firstUnsupported? t = none)
    (hfirst : (tokens t).head? ≠ some .child) (hlast : (tokens t).getLast? = some .child) :
    ofTrimmed t = .error (.dangling .last t) := by
  have hmark := (child_mem_tokens_iff t).mp (List.mem_of_getLast? hlast)
  have hnofirst : ¬ Pattern.childFirst.detect t = true := by
    rwa [Pattern.detect_childFirst_iff, ← head?_tokens_of_trimmed h]
  have hdetect :=
    (Pattern.detect_childLast_of_trimmed h).mpr ((getLast?_tokens_iff h.last).mp hlast)
  have hread : Chain.read t = .error (.dangling .last t) := by
    rw [Chain.read, if_neg hnofirst, if_pos hdetect]
  rw [ofTrimmed, hplain]
  simp only [Literal.detect_singleton_iff, if_pos hmark, hread, Except.map]

theorem accepted_of_ofTrimmed {t : Text} {q : Query} (h : t.Trimmed) (hq : ofTrimmed t = .ok q) :
    Accepted t := by
  have hplain : firstUnsupported? t = none := by
    cases hfound : firstUnsupported? t with
    | none => rfl
    | some token => simp [ofTrimmed, hfound] at hq
  have hfirst : (tokens t).head? ≠ some .child := by
    intro hchild
    simp [ofTrimmed_of_first h hplain hchild] at hq
  refine ⟨(firstUnsupported?_eq_none_iff t).mp hplain, hfirst, ?_⟩
  intro hchild
  simp [ofTrimmed_of_last h hplain hfirst hchild] at hq

/-! ## Any text -/

theorem accepted_strip_iff (t : Text) : Accepted t.strip ↔ Accepted t := by
  have hmem : ∀ token : Unsupported, token.character ∈ t.strip ↔ token.character ∈ t := by
    intro token
    exact Text.mem_strip_iff (by cases token <;> decide) t
  constructor
  · intro haccepted
    obtain ⟨hsupported, hfirst, hlast⟩ := haccepted
    rw [tokens_strip] at hfirst hlast
    exact ⟨fun token => (hmem token).not.mp (hsupported token), hfirst, hlast⟩
  · intro haccepted
    obtain ⟨hsupported, hfirst, hlast⟩ := haccepted
    rw [← tokens_strip] at hfirst hlast
    exact ⟨fun token => (hmem token).not.mpr (hsupported token), hfirst, hlast⟩

/-- A query is read exactly from accepted text, and it is what the tokens mean. -/
theorem ofText_eq_ok_iff (t : Text) (q : Query) :
    ofText t = .ok q ↔ Accepted t ∧ meaning? (tokens t) = some q := by
  have htrimmed := Text.trimmed_strip t
  rw [ofText, Text.trim_both, ← accepted_strip_iff, ← tokens_strip t]
  constructor
  · intro hq
    have ha := accepted_of_ofTrimmed htrimmed hq
    obtain ⟨r, hr, hmeaning⟩ := ofTrimmed_of_accepted htrimmed ha
    obtain rfl := Except.ok.inj (hr.symm.trans hq)
    exact ⟨ha, hmeaning⟩
  · intro hread
    obtain ⟨ha, hmeaning⟩ := hread
    obtain ⟨r, hr, hmeans⟩ := ofTrimmed_of_accepted htrimmed ha
    obtain rfl := Option.some.inj (hmeans.symm.trans hmeaning)
    exact hr

theorem ofText_of_accepted {t : Text} (h : Accepted t) :
    ∃ q, ofText t = .ok q ∧ meaning? (tokens t) = some q := by
  obtain ⟨q, hq, hmeaning⟩ :=
    ofTrimmed_of_accepted (Text.trimmed_strip t) ((accepted_strip_iff t).mpr h)
  rw [tokens_strip] at hmeaning
  exact ⟨q, by rw [ofText, Text.trim_both, hq], hmeaning⟩

/-! ## Values that stand for text -/

/-- A text stands for itself, and a sequence of texts for its members one space apart. -/
inductive StandsFor : Value → Text → Prop where
  | text (t : Text) : StandsFor (.text t) t
  | list (parts : List Text) : StandsFor (.list (parts.map .text)) (Text.join [' '] parts)
  | tuple (parts : List Text) : StandsFor (.tuple (parts.map .text)) (Text.join [' '] parts)

theorem texts?_map_text (parts : List Text) : textOf?.texts? (parts.map .text) = some parts := by
  induction parts with
  | nil => rfl
  | cons part parts ih => simp [textOf?.texts?, ih]

theorem StandsFor.ofValue_eq {v : Value} {t : Text} (h : StandsFor v t) : ofValue v = ofText t := by
  cases h with
  | text => rfl
  | list parts => simp [ofValue, textOf?, texts?_map_text]
  | tuple parts => simp [ofValue, textOf?, texts?_map_text]

/-- Where no token is refused and no `>` stands at an end, what is read is what the tokens mean. -/
theorem ofValue_eq_meaning {v : Value} {t : Text} (hv : StandsFor v t)
    (hplain : ∀ c ∈ [',', '[', '~', '+', ':'], c ∉ t)
    (hfirst : (tokens t).head? ≠ some .child) (hlast : (tokens t).getLast? ≠ some .child) :
    ∃ q, ofValue v = .ok q ∧ meaning? (tokens t) = some q := by
  have ha : Accepted t :=
    ⟨fun token => hplain token.character (by cases token <;> decide), hfirst, hlast⟩
  obtain ⟨q, hq, hmeaning⟩ :=
    ofTrimmed_of_accepted (Text.trimmed_strip t) ((accepted_strip_iff t).mpr ha)
  rw [tokens_strip] at hmeaning
  refine ⟨q, ?_, hmeaning⟩
  rw [hv.ofValue_eq, ofText, Text.trim_both, hq]

theorem repeated_child_between_words :
    StandsFor (.tuple [.text "a > >".toList, .text "p.x".toList]) "a > > p.x".toList ∧
      ofValue (.tuple [.text "a > >".toList, .text "p.x".toList]) =
        .ok (.list ⟨⟨.regular ⟨some ['a'], none, []⟩, .descendant⟩,
          [⟨.everything, .child⟩, ⟨.regular ⟨some ['p'], none, [['x']]⟩, .child⟩]⟩) := by
  have hv : StandsFor (.tuple [.text "a > >".toList, .text "p.x".toList]) "a > > p.x".toList :=
    .tuple ["a > >".toList, "p.x".toList]
  have htokens : tokens "a > > p.x".toList =
      [.compound ['a'], .child, .child, .compound "p.x".toList] := by decide
  obtain ⟨q, hq, hmeaning⟩ := ofValue_eq_meaning hv (by simp) (by decide) (by decide)
  rw [htokens] at hmeaning
  have hvalue : meaning? [.compound ['a'], .child, .child, .compound "p.x".toList] =
      some (.list ⟨⟨.regular ⟨some ['a'], none, []⟩, .descendant⟩,
        [⟨.everything, .child⟩, ⟨.regular ⟨some ['p'], none, [['x']]⟩, .child⟩]⟩) := by decide
  obtain rfl := Option.some.inj (hmeaning.symm.trans hvalue)
  exact ⟨hv, hq⟩

end Query

end Hypertag
