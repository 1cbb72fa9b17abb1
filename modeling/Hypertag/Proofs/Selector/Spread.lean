import Hypertag.Proofs.Scan.Measures
import Hypertag.Proofs.Selector.Tokens

/-!
# Parting neighbouring `>`

A pass over the text finds a `>` with a `>` after it, blanks between them or not, and takes both. On
the tokens it puts `*` between every other pair of neighbours of a row. Repeated passes part all of
them: each one lowers the number of pairs, and it does not change what the full parting gives.
-/

namespace Hypertag.Chain

/-- The tokens with `*` between any two neighbouring `>`. -/
def separate : List Token → List Token
  | [] => []
  | token :: rest =>
      if token = .child ∧ rest.head? = some .child then
        token :: .compound ['*'] :: separate rest
      else token :: separate rest

def pairs : List Token → Nat
  | [] => 0
  | token :: rest =>
      pairs rest + if token = .child ∧ rest.head? = some .child then 1 else 0

def onePass : List Token → List Token
  | [] => []
  | .child :: .child :: rest => .child :: .compound ['*'] :: .child :: onePass rest
  | token :: rest => token :: onePass rest

/-! ## Passes over tokens -/

theorem head?_onePass (ts : List Token) : (onePass ts).head? = ts.head? := by
  fun_cases onePass ts <;> rfl

/-- Where a pass does not take two, the first two tokens are not neighbours. -/
theorem not_neighbours {token : Token} {rest : List Token}
    (h : ∀ more, token = .child → rest = .child :: more → False) :
    ¬ (token = .child ∧ rest.head? = some .child) := by
  rintro ⟨rfl, hhead⟩
  obtain ⟨more, rfl⟩ := List.head?_eq_some_iff.mp hhead
  exact h more rfl rfl

theorem onePass_cons {token : Token} {rest : List Token}
    (h : ¬ (token = .child ∧ rest.head? = some .child)) :
    onePass (token :: rest) = token :: onePass rest := by
  rw [onePass]
  intro more htoken hrest
  exact h ⟨htoken, by rw [hrest]; rfl⟩

theorem separate_onePass (ts : List Token) : separate (onePass ts) = separate ts := by
  fun_induction onePass ts with
  | case1 => rfl
  | case2 rest ih => simp [separate, head?_onePass, ih]
  | case3 token rest _ ih => simp [separate, head?_onePass, ih]

theorem pairs_onePass_le (ts : List Token) : pairs (onePass ts) ≤ pairs ts := by
  fun_induction onePass ts with
  | case1 => exact Nat.le_refl _
  | case2 rest ih =>
      simp only [pairs, head?_onePass, List.head?_cons, Option.some.injEq, reduceCtorEq, true_and,
        false_and, if_false, if_true]
      omega
  | case3 token rest _ ih =>
      simp only [pairs, head?_onePass]
      omega

/-- A pass parts the first two of each row. -/
theorem pairs_onePass_lt {ts : List Token} (h : pairs ts ≠ 0) : pairs (onePass ts) < pairs ts := by
  fun_induction onePass ts with
  | case1 => exact absurd rfl h
  | case2 rest ih =>
      have hle := pairs_onePass_le rest
      simp only [pairs, head?_onePass, List.head?_cons, Option.some.injEq, reduceCtorEq, true_and,
        false_and, if_false, if_true]
      omega
  | case3 token rest hrow ih =>
      simp only [pairs, head?_onePass, if_neg (not_neighbours hrow), Nat.add_zero] at h ⊢
      exact ih h

theorem separate_of_pairs_eq_zero {ts : List Token} (h : pairs ts = 0) : separate ts = ts := by
  induction ts with
  | nil => rfl
  | cons token rest ih =>
      rw [pairs] at h
      by_cases hpair : token = .child ∧ rest.head? = some .child
      · simp [hpair] at h
      · rw [if_neg hpair, Nat.add_zero] at h
        rw [separate, if_neg hpair, ih h]

theorem pairs_le_length (ts : List Token) : pairs ts ≤ ts.length := by
  induction ts with
  | nil => exact Nat.le_refl _
  | cons token rest ih =>
      rw [pairs, List.length_cons]
      split <;> omega

/-! ## Passes over text -/

def childPairLength : Text → Nat
  | [] => 0
  | c :: t =>
      if c = '>' ∧ (t.dropWhile isBlank).head? = some '>' then (t.takeWhile isBlank).length + 2
      else 0

theorem childPairLength_of_ne {c : Char} (hc : c ≠ '>') (t : Text) : childPairLength (c :: t) = 0 := by
  rw [childPairLength, if_neg fun hpair => hc hpair.1]

theorem childPairLength_le (t : Text) : childPairLength t ≤ t.length := by
  cases t with
  | nil => exact Nat.le_refl _
  | cons c t =>
      rw [childPairLength]
      split
      · next h =>
          have hlen := congrArg List.length
            (List.takeWhile_append_dropWhile (p := isBlank) (l := t))
          obtain ⟨rest, hrest⟩ := List.head?_eq_some_iff.mp h.2
          rw [List.length_append, hrest, List.length_cons] at hlen
          rw [List.length_cons]
          omega
      · exact Nat.zero_le _

end Chain

namespace Pattern

open Node

/-- The second `>` never begins with a blank, so no blank is given back. -/
private theorem child_refuses_blank (position : Nat) (c : Char) (rest : Text)
    (hc : (CharTest.named .blank).holds c = true) :
    (one (.exactly '>')).matchThen ⟨position, c :: rest, []⟩ some = none := by
  have hne := Chain.ne_child_of_isBlank hc
  simp [CharTest.holds, hne]

theorem measuredBy_repeatedChild :
    repeatedChild.MeasuredBy fun _ t => Chain.childPairLength t := by
  refine measuredBy_of_matchThen (fun _ t => Chain.childPairLength_le t) fun n t => ?_
  rw [repeatedChild, Node.sequence, Node.sequence, Node.sequence, matchThen]
  cases t with
  | nil => rfl
  | cons c t =>
      rw [matchThen_one_cons, matchThen, matchThen_star,
        takeRun_of_refused _ _ _ child_refuses_blank, holds_blank]
      by_cases hc : c = '>'
      · cases hd : t.dropWhile isBlank with
        | nil => simp [hc, hd, Chain.childPairLength]
        | cons d rest =>
            have hrun : t.dropWhile isBlank = t.drop (t.takeWhile isBlank).length :=
              dropWhile_eq_drop (.named .blank) t
            have hdrop : t.drop ((t.takeWhile isBlank).length + 1) = rest := by
              rw [← List.drop_drop, ← hrun, hd, List.drop_succ_cons, List.drop_zero]
            by_cases hmark : d = '>'
            · simp [hc, hd, hmark, Chain.childPairLength, CharTest.holds, hdrop, Nat.add_assoc,
                Nat.add_comm 1]
            · simp [hc, hd, hmark, Chain.childPairLength, CharTest.holds]
      · simp [hc, Chain.childPairLength, CharTest.holds]

end Pattern

namespace Chain

theorem spreadOnce_eq_pieces (t : Text) :
    spreadOnce t = Pieces.fillAll (Pattern.Replacement.expand [.text "> * >"])
      (Pattern.repeatedChild.pieces t) :=
  Pattern.replaceAll_eq_pieces _ _ _

theorem spreadOnce_nil : spreadOnce [] = [] := by
  rw [spreadOnce_eq_pieces, Pattern.measuredBy_repeatedChild.pieces_nil]
  rfl

theorem spreadOnce_plain {c : Char} {t : Text} (h : childPairLength (c :: t) = 0) :
    spreadOnce (c :: t) = c :: spreadOnce t := by
  rw [spreadOnce_eq_pieces, spreadOnce_eq_pieces, Pattern.measuredBy_repeatedChild.pieces_plain h]
  rfl

theorem pieces_pair {b : Text} (hb : ∀ c ∈ b, isBlank c = true) (t : Text) :
    Pattern.repeatedChild.pieces ('>' :: b ++ '>' :: t) =
      .hit ⟨'>' :: b ++ ['>'], []⟩ :: Pattern.repeatedChild.pieces t := by
  have hm : childPairLength (('>' :: b ++ ['>']) ++ t) = ('>' :: b ++ ['>']).length := by
    simp [childPairLength, List.dropWhile_append_of_pos hb, List.takeWhile_append_of_pos hb,
      show isBlank '>' = false by decide]
  have hpieces := Pattern.measuredBy_repeatedChild.pieces_hit (by simp) hm
  rw [List.append_assoc] at hpieces
  exact hpieces

theorem spreadOnce_pair {b : Text} (hb : ∀ c ∈ b, isBlank c = true) (t : Text) :
    spreadOnce ('>' :: b ++ '>' :: t) = "> * >" ++ spreadOnce t := by
  rw [spreadOnce_eq_pieces, spreadOnce_eq_pieces, pieces_pair hb, Pieces.fillAll_hit]
  rfl

theorem pieces_of_no_child {w : Text} (hw : '>' ∉ w) (t : Text) :
    Pattern.repeatedChild.pieces (w ++ t) = w.map .plain ++ Pattern.repeatedChild.pieces t := by
  refine Pattern.measuredBy_repeatedChild.pieces_append (fun c hc t => ?_) t
  exact childPairLength_of_ne (ne_of_mem_of_not_mem hc hw) t

theorem spreadOnce_append {w : Text} (hw : '>' ∉ w) (t : Text) :
    spreadOnce (w ++ t) = w ++ spreadOnce t := by
  rw [spreadOnce_eq_pieces, spreadOnce_eq_pieces, pieces_of_no_child hw, Pieces.fillAll_append,
    Pieces.fillAll_map_plain]

theorem childPairLength_eq_zero_iff (c : Char) (t : Text) :
    childPairLength (c :: t) = 0 ↔ ¬ (c = '>' ∧ (tokens t).head? = some .child) := by
  rw [head?_tokens_iff, childPairLength]
  split
  · next h => simp [h]
  · next h => simp [h]

theorem childPairLength_blank {c : Char} (hc : isBlank c = true) (t : Text) :
    childPairLength (c :: t) = 0 :=
  childPairLength_of_ne (ne_child_of_isBlank hc) t

theorem exists_of_head?_tokens {t : Text} (h : (tokens t).head? = some .child) :
    ∃ b r : Text, (∀ c ∈ b, isBlank c = true) ∧ t = b ++ '>' :: r := by
  obtain ⟨r, hr⟩ := List.head?_eq_some_iff.mp ((head?_tokens_iff t).mp h)
  refine ⟨t.takeWhile isBlank, r, fun c hc => List.mem_takeWhile_imp hc, ?_⟩
  rw [← hr, List.takeWhile_append_dropWhile]

theorem head?_spreadOnce (t : Text) : (spreadOnce t).head? = t.head? := by
  cases t with
  | nil => rw [spreadOnce_nil]
  | cons c t =>
      by_cases hpair : c = '>' ∧ (tokens t).head? = some .child
      · obtain ⟨rfl, hnext⟩ := hpair
        obtain ⟨b, r, hb, rfl⟩ := exists_of_head?_tokens hnext
        rw [← List.cons_append, spreadOnce_pair hb]
        rfl
      · rw [spreadOnce_plain ((childPairLength_eq_zero_iff c t).mpr hpair)]
        rfl

/-- What a pass writes for a pair. -/
theorem tokens_written (t : Text) :
    tokens ("> * >" ++ t) = .child :: .compound ['*'] :: .child :: tokens t := by
  have htext : ("> * >" : Text) ++ t = '>' :: ' ' :: (['*'] ++ ' ' :: '>' :: t) := rfl
  have hspace : isBlank ' ' = true := by decide
  have hstar : ∀ c ∈ ['*'], isCompoundChar c = true := by
    intro c hc
    obtain rfl := List.mem_singleton.mp hc
    decide
  have hend : (' ' :: '>' :: t).head?.any isCompoundChar = false := by
    simp [isCompoundChar, hspace]
  rw [htext, tokens_child, tokens_blank hspace, tokens_word (by simp) hstar hend,
    tokens_blank hspace, tokens_child]

/-- A pass over text is a pass over its tokens. -/
theorem tokens_spreadOnce (t : Text) : tokens (spreadOnce t) = onePass (tokens t) := by
  induction hk : t.length using Nat.strongRecOn generalizing t with
  | ind k ih =>
      rcases text_cases t with rfl | ⟨r, rfl⟩ | ⟨c, r, rfl, hc⟩ | ⟨w, r, rfl, hne, hw, hr⟩
      · rw [spreadOnce_nil]
        rfl
      · by_cases hnext : (tokens r).head? = some .child
        · obtain ⟨b, r, hb, rfl⟩ := exists_of_head?_tokens hnext
          have hrest : tokens (spreadOnce r) = onePass (tokens r) :=
            ih r.length (by simp [← hk]; omega) r rfl
          rw [← List.cons_append, spreadOnce_pair hb, tokens_written, hrest]
          rw [List.cons_append, tokens_child, tokens_blanks_append hb, tokens_child, onePass]
        · have hplain : childPairLength ('>' :: r) = 0 := by
            simp [childPairLength_eq_zero_iff, hnext]
          have hrest := ih r.length (by simp [← hk]) r rfl
          rw [spreadOnce_plain hplain, tokens_child, tokens_child, hrest,
            onePass_cons (by simp [hnext])]
      · have hplain := childPairLength_blank hc r
        rw [spreadOnce_plain hplain, tokens_blank hc, tokens_blank hc]
        exact ih r.length (by simp [← hk]) r rfl
      · have hpos := List.length_pos_iff.mpr hne
        rw [List.length_append] at hk
        have hrest : tokens (spreadOnce r) = onePass (tokens r) := ih r.length (by omega) r rfl
        have hend : (spreadOnce r).head?.any isCompoundChar = false := by
          rwa [head?_spreadOnce]
        rw [spreadOnce_append (child_notMem_word hw), tokens_word hne hw hr,
          tokens_word hne hw hend, hrest, onePass_cons (by simp)]

/-! ## All passes -/

theorem detect_plain {c : Char} {t : Text} (h : childPairLength (c :: t) = 0) :
    Pattern.repeatedChild.detect (c :: t) = Pattern.repeatedChild.detect t := by
  rw [Pattern.detect_eq_pieces, Pattern.detect_eq_pieces,
    Pattern.measuredBy_repeatedChild.pieces_plain h]
  rfl

theorem detect_iff (t : Text) : Pattern.repeatedChild.detect t = true ↔ pairs (tokens t) ≠ 0 := by
  induction t using induction_on_tokens with
  | nil =>
      rw [Pattern.detect_eq_pieces, Pattern.measuredBy_repeatedChild.pieces_nil]
      decide
  | child t ih =>
      rw [tokens_child, pairs]
      by_cases hnext : (tokens t).head? = some .child
      · have hfound : Pattern.repeatedChild.detect ('>' :: t) = true := by
          obtain ⟨b, r, hb, rfl⟩ := exists_of_head?_tokens hnext
          rw [← List.cons_append, Pattern.detect_eq_pieces, pieces_pair hb]
          rfl
        simp [hfound, hnext]
      · have hplain : childPairLength ('>' :: t) = 0 := by
          simp [childPairLength_eq_zero_iff, hnext]
        simp [detect_plain hplain, ih, hnext]
  | blank c t hc ih =>
      rw [detect_plain (childPairLength_blank hc t), tokens_blank hc, ih]
  | word w t hne hw ht ih =>
      have hskip : Pattern.repeatedChild.detect (w ++ t) = Pattern.repeatedChild.detect t := by
        rw [Pattern.detect_eq_pieces, Pattern.detect_eq_pieces,
          pieces_of_no_child (child_notMem_word hw), List.any_append]
        simp
      rw [hskip, ih, tokens_word hne hw ht, pairs]
      simp

/-- As many passes as there are pairs part all neighbours. -/
theorem tokens_spreadFrom (fuel : Nat) (t : Text) (hfuel : pairs (tokens t) ≤ fuel) :
    tokens (spreadFrom fuel t) = separate (tokens t) := by
  induction fuel generalizing t with
  | zero => rw [spreadFrom, separate_of_pairs_eq_zero (Nat.le_zero.mp hfuel)]
  | succ fuel ih =>
      rw [spreadFrom]
      by_cases hpairs : pairs (tokens t) = 0
      · have hnone : ¬ Pattern.repeatedChild.detect t = true := by simp [detect_iff, hpairs]
        rw [if_neg hnone, separate_of_pairs_eq_zero hpairs]
      · have hless := pairs_onePass_lt hpairs
        rw [if_pos ((detect_iff t).mpr hpairs), ih (spreadOnce t), tokens_spreadOnce,
          separate_onePass]
        rw [tokens_spreadOnce]
        omega

theorem tokens_spread (t : Text) : tokens (spread t) = separate (tokens t) := by
  refine tokens_spreadFrom t.length t ?_
  have hpairs := pairs_le_length (tokens t)
  have htokens := length_tokens_le t
  omega

end Chain

end Hypertag
