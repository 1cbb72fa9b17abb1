import Hypertag.Proofs.Scan.Division
import Hypertag.Proofs.Selector.Spread
import Mathlib.Logic.Function.Iterate

/-!
# How often neighbouring `>` are parted

The text is passed over for as long as two `>` are neighbours in it. A pass leaves no three of them in
a row, and the next one parts the pairs that are left, so two passes are enough whatever the text. What
they write between two neighbours is ` * `, in place of the blanks there, and nothing else changes.
-/

namespace Hypertag

namespace Needle

/-- Replacing all matches again and again while there are any: how many times, and the text in the end. -/
inductive Passes (needle : Needle) (template : Text) : Nat → Text → Text → Prop where
  | stop {t : Text} : needle.detect t = false → Passes needle template 0 t t
  | again {n : Nat} {t v u : Text} : needle.detect t = true →
      needle.replaceAll template t = .ok v → Passes needle template n v u →
      Passes needle template (n + 1) t u

theorem Passes.detect_eq_false {needle : Needle} {template t u : Text} {n : Nat}
    (h : needle.Passes template n t u) : needle.detect u = false := by
  induction h with
  | stop hnone => exact hnone
  | again _ _ _ ih => exact ih

end Needle

namespace Chain

/-! ## Rows of `>` -/

theorem child_begins_iff (ts : List Token) : [.child] <+: ts ↔ ts.head? = some .child := by
  cases ts <;> simp [eq_comm]

theorem pair_begins_iff (token : Token) (rest : List Token) :
    [.child, .child] <+: token :: rest ↔ token = .child ∧ rest.head? = some .child := by
  rw [List.cons_prefix_cons, child_begins_iff, eq_comm]

theorem row_begins {token : Token} {rest : List Token}
    (h : [.child, .child, .child] <+: token :: rest) :
    token = .child ∧ rest.head? = some .child := by
  obtain ⟨more, hmore⟩ := h
  cases hmore
  exact ⟨rfl, rfl⟩

theorem pairs_ne_zero_iff (ts : List Token) : pairs ts ≠ 0 ↔ [.child, .child] <:+: ts := by
  induction ts with
  | nil => simp [pairs]
  | cons token rest ih =>
      rw [List.infix_cons_iff, pair_begins_iff, ← ih, pairs]
      split
      · next hpair => simp [hpair]
      · next hpair => simp [hpair]

/-- Without neighbours a pass changes nothing. -/
theorem onePass_of_pairs_eq_zero {ts : List Token} (h : pairs ts = 0) : onePass ts = ts := by
  fun_induction onePass ts with
  | case1 => rfl
  | case2 rest ih => simp [pairs] at h
  | case3 token rest hrow ih =>
      rw [pairs, Nat.add_eq_zero_iff] at h
      rw [ih h.1]

/-- What a pass leaves begins with no two neighbours. -/
theorem not_pair_begins_onePass (ts : List Token) : ¬ [.child, .child] <+: onePass ts := by
  fun_cases onePass ts with
  | case1 => simp
  | case2 rest => simp
  | case3 token rest hrow =>
      rw [pair_begins_iff, head?_onePass]
      exact not_neighbours hrow

/-- After a pass no three `>` stand in a row. -/
theorem not_row_onePass (ts : List Token) : ¬ [.child, .child, .child] <:+: onePass ts := by
  fun_induction onePass ts with
  | case1 => simp
  | case2 rest ih =>
      -- The `*` parts the two that were taken, so a row can only begin at the second of them.
      simp only [List.infix_cons_iff, List.cons_prefix_cons, reduceCtorEq, false_and, and_false,
        true_and, false_or, not_or]
      exact ⟨not_pair_begins_onePass rest, ih⟩
  | case3 token rest hrow ih =>
      rw [List.infix_cons_iff, List.cons_prefix_cons, not_or, not_and]
      exact ⟨fun _ => not_pair_begins_onePass rest, ih⟩

/-- A pass leaves neighbours where three stood in a row, and nowhere else. -/
theorem pairs_onePass_ne_zero_iff (ts : List Token) :
    pairs (onePass ts) ≠ 0 ↔ [.child, .child, .child] <:+: ts := by
  fun_induction onePass ts with
  | case1 => simp [pairs]
  | case2 rest ih =>
      -- The second of the two has a neighbour left when the rest begins with a third one.
      have hbegins : [.child, .child] <+: rest → rest.head? = some .child := by
        rintro ⟨more, rfl⟩
        rfl
      simp only [pairs, head?_onePass, List.infix_cons_iff, List.cons_prefix_cons,
        child_begins_iff, ← ih]
      by_cases hhead : rest.head? = some .child
      · simp [hhead]
      · simp [hhead, mt hbegins hhead]
  | case3 token rest hrow ih =>
      have hno := not_neighbours hrow
      rw [pairs, head?_onePass, if_neg hno, Nat.add_zero, ih, List.infix_cons_iff]
      exact ⟨.inr, fun h => h.resolve_left (mt row_begins hno)⟩

/-- Two passes part all neighbours. -/
theorem pairs_onePass_onePass (ts : List Token) : pairs (onePass (onePass ts)) = 0 :=
  not_not.mp (mt (pairs_onePass_ne_zero_iff (onePass ts)).mp (not_row_onePass ts))

theorem count_child_separate (ts : List Token) : (separate ts).count .child = ts.count .child := by
  induction ts with
  | nil => rfl
  | cons token rest ih =>
      rw [separate]
      split <;> simp [List.count_cons, ih]

theorem count_child_tokens (t : Text) : (tokens t).count .child = t.count '>' := by
  induction t using induction_on_tokens with
  | nil => rfl
  | child t ih => simp [ih]
  | blank c t hc ih =>
      rw [tokens_blank hc, ih, List.count_cons_of_ne (ne_child_of_isBlank hc)]
  | word w t hne hw ht ih =>
      rw [tokens_word hne hw ht, List.count_append, List.count_eq_zero.mpr (child_notMem_word hw),
        Nat.zero_add, ← ih]
      simp

/-! ## The text that is left -/

/-- The text with ` * ` between any two neighbouring `>`, in place of the blanks there. -/
def parted : Text → Text
  | [] => []
  | c :: t =>
      if c = '>' ∧ (t.dropWhile isBlank).head? = some '>' then
        "> * " ++ (parted t).dropWhile isBlank
      else c :: parted t

theorem parted_cons {c : Char} {t : Text} (h : childPairLength (c :: t) = 0) :
    parted (c :: t) = c :: parted t := by
  rw [childPairLength_eq_zero_iff, head?_tokens_iff] at h
  rw [parted, if_neg h]

theorem head?_parted (t : Text) : (parted t).head? = t.head? := by
  fun_cases parted t with
  | case1 => rfl
  | case2 c t hpair => simp [hpair.1]
  | case3 c t hpair => rfl

theorem parted_append {w : Text} (hw : '>' ∉ w) (t : Text) : parted (w ++ t) = w ++ parted t := by
  induction w with
  | nil => rfl
  | cons c w ih =>
      rw [List.mem_cons, not_or] at hw
      have hc := childPairLength_of_ne (Ne.symm hw.1) (w ++ t)
      rw [List.cons_append, parted_cons hc, ih hw.2, List.cons_append]

theorem child_notMem_blanks {b : Text} (hb : ∀ c ∈ b, isBlank c = true) : '>' ∉ b :=
  fun hmem => ne_child_of_isBlank (hb _ hmem) rfl

theorem parted_pair {b : Text} (hb : ∀ c ∈ b, isBlank c = true) (t : Text) :
    parted ('>' :: b ++ '>' :: t) = "> * " ++ parted ('>' :: t) := by
  have hnext : ((b ++ '>' :: t).dropWhile isBlank).head? = some '>' := by
    simp [List.dropWhile_append_of_pos hb, show isBlank '>' = false by decide]
  obtain ⟨more, hmore⟩ := List.head?_eq_some_iff.mp (head?_parted ('>' :: t))
  rw [List.cons_append, parted, if_pos ⟨rfl, hnext⟩, parted_append (child_notMem_blanks hb),
    List.dropWhile_append_of_pos hb, hmore, List.dropWhile_cons_of_neg (by decide)]

/-- Whether a character and the first `>` after it are parted does not depend on a pass over the rest. -/
theorem parted_cons_spreadOnce (c : Char) {t : Text} (h : parted (spreadOnce t) = parted t) :
    parted (c :: spreadOnce t) = parted (c :: t) := by
  have hnext : ((spreadOnce t).dropWhile isBlank).head? = some '>' ↔
      (t.dropWhile isBlank).head? = some '>' := by
    rw [← head?_tokens_iff, tokens_spreadOnce, head?_onePass, head?_tokens_iff]
  simp only [parted, h, hnext]

theorem parted_written (t : Text) : parted ("> * >" ++ t) = "> * " ++ parted ('>' :: t) := by
  have htext : ("> * >" : Text) ++ t = '>' :: ([' ', '*', ' '] ++ '>' :: t) := rfl
  have hfirst : childPairLength ('>' :: ([' ', '*', ' '] ++ '>' :: t)) = 0 := by
    simp [childPairLength, show isBlank ' ' = true by decide, show isBlank '*' = false by decide]
  rw [htext, parted_cons hfirst, parted_append (by decide)]
  rfl

/-- A pass writes nothing that is not written in the end. -/
theorem parted_spreadOnce (t : Text) : parted (spreadOnce t) = parted t := by
  induction hk : t.length using Nat.strongRecOn generalizing t with
  | ind k ih =>
      cases t with
      | nil => rw [spreadOnce_nil]
      | cons c t =>
          by_cases hpair : c = '>' ∧ (tokens t).head? = some .child
          · obtain ⟨rfl, hnext⟩ := hpair
            obtain ⟨b, r, hb, rfl⟩ := exists_of_head?_tokens hnext
            have hrest : parted (spreadOnce r) = parted r :=
              ih r.length (by simp [← hk]; omega) r rfl
            rw [← List.cons_append, spreadOnce_pair hb, parted_written, parted_pair hb,
              parted_cons_spreadOnce '>' hrest]
          · have hplain := (childPairLength_eq_zero_iff c t).mpr hpair
            have hrest : parted (spreadOnce t) = parted t := ih t.length (by simp [← hk]) t rfl
            rw [spreadOnce_plain hplain, parted_cons_spreadOnce c hrest]

/-- Without neighbours nothing is written. -/
theorem parted_of_pairs_eq_zero {t : Text} (h : pairs (tokens t) = 0) : parted t = t := by
  induction t using induction_on_tokens with
  | nil => rfl
  | child t ih =>
      rw [tokens_child, pairs, Nat.add_eq_zero_iff] at h
      have hplain : childPairLength ('>' :: t) = 0 := by
        simpa [childPairLength_eq_zero_iff] using h.2
      rw [parted_cons hplain, ih h.1]
  | blank c t hc ih =>
      rw [tokens_blank hc] at h
      rw [parted_cons (childPairLength_blank hc t), ih h]
  | word w t hne hw ht ih =>
      rw [tokens_word hne hw ht, pairs, Nat.add_eq_zero_iff] at h
      rw [parted_append (child_notMem_word hw), ih h.1]

/-! ## The passes -/

abbrev Parting : Nat → Text → Text → Prop :=
  Needle.Passes (.pattern Pattern.repeatedChild.engine) "> * >"

theorem read_repeatedChild :
    Needle.read ">\\s*>" false = .ok (.pattern Pattern.repeatedChild.engine) :=
  Needle.read_of_pattern (by decide)

theorem replaceAll_repeatedChild (t : Text) :
    (Needle.pattern Pattern.repeatedChild.engine).replaceAll "> * >" t = .ok (spreadOnce t) :=
  ((Needle.sees_pattern rfl t).replaceAll "> * >" (by decide)).trans
    (congrArg Except.ok (spreadOnce_eq_pieces t).symm)

theorem pairs_eq_zero_of_detect {t : Text} (h : Pattern.repeatedChild.detect t = false) :
    pairs (tokens t) = 0 :=
  not_not.mp (mt (detect_iff t).mpr (Bool.eq_false_iff.mp h))

/-- One pass after the other, for as long as there are neighbours. -/
theorem exists_parting_spreadFrom (fuel : Nat) (t : Text) (hfuel : pairs (tokens t) ≤ fuel) :
    ∃ n, Parting n t (spreadFrom fuel t) := by
  induction fuel generalizing t with
  | zero =>
      have hnone : ¬ Pattern.repeatedChild.detect t = true := by
        simpa [detect_iff] using hfuel
      exact ⟨0, .stop (Bool.eq_false_iff.mpr hnone)⟩
  | succ fuel ih =>
      rw [spreadFrom]
      by_cases hfound : Pattern.repeatedChild.detect t = true
      · have hless := pairs_onePass_lt ((detect_iff t).mp hfound)
        rw [← tokens_spreadOnce] at hless
        obtain ⟨n, hn⟩ := ih (spreadOnce t) (by omega)
        rw [if_pos hfound]
        exact ⟨n + 1, .again hfound (replaceAll_repeatedChild t) hn⟩
      · rw [if_neg hfound]
        exact ⟨0, .stop (Bool.eq_false_iff.mpr hfound)⟩

/-- The loop may make as many passes as there are characters, and that is never too few. -/
theorem exists_parting (t : Text) : ∃ n, Parting n t (spread t) := by
  refine exists_parting_spreadFrom t.length t ?_
  have hpairs := pairs_le_length (tokens t)
  have htokens := length_tokens_le t
  omega

namespace Parting

variable {n : Nat} {t u : Text}

theorem eq_parted (h : Parting n t u) : u = parted t := by
  induction h with
  | @stop t hnone =>
      exact (parted_of_pairs_eq_zero (pairs_eq_zero_of_detect hnone)).symm
  | @again n t v u hfound hpass _ ih =>
      obtain rfl := Except.ok.inj ((replaceAll_repeatedChild t).symm.trans hpass)
      rw [ih, parted_spreadOnce]

/-- One more pass is made when so many have left neighbours. -/
theorem lt_iff (h : Parting n t u) (k : Nat) : k < n ↔ pairs (onePass^[k] (tokens t)) ≠ 0 := by
  induction h generalizing k with
  | @stop t hnone =>
      have hpairs := pairs_eq_zero_of_detect hnone
      simp [Function.iterate_fixed (onePass_of_pairs_eq_zero hpairs) k, hpairs]
  | @again n t v u hfound hpass _ ih =>
      obtain rfl := Except.ok.inj ((replaceAll_repeatedChild t).symm.trans hpass)
      cases k with
      | zero => simpa [detect_iff] using (detect_iff t).mp hfound
      | succ k =>
          rw [Function.iterate_succ_apply, ← tokens_spreadOnce, ← ih k]
          omega

end Parting

/-- The loop that parts neighbouring `>` comes to its end after two passes at most: after none when no
two `>` are neighbours, and after two when three of them stand in a row. The pattern does not occur in
the text that is left. Its tokens are those of the text with one `*` between each two neighbours, it is
the text with ` * ` in place of the blanks between them, and it has no more `>` and no fewer. -/
theorem spread_within_two_passes (t : Text) :
    ∃ needle n, Needle.read ">\\s*>" false = .ok needle ∧
      needle.Passes "> * >" n t (spread t) ∧ n ≤ 2 ∧
      (n = 0 ↔ ¬ [.child, .child] <:+: tokens t) ∧
      (n = 2 ↔ [.child, .child, .child] <:+: tokens t) ∧
      needle.detect (spread t) = false ∧
      tokens (spread t) = separate (tokens t) ∧
      spread t = parted t ∧
      (spread t).count '>' = t.count '>' := by
  obtain ⟨n, hpasses⟩ := exists_parting t
  have hfirst : 0 < n ↔ [.child, .child] <:+: tokens t :=
    (hpasses.lt_iff 0).trans (pairs_ne_zero_iff (tokens t))
  have hsecond : 1 < n ↔ [.child, .child, .child] <:+: tokens t :=
    (hpasses.lt_iff 1).trans (pairs_onePass_ne_zero_iff (tokens t))
  have hthird : ¬ 2 < n := fun h =>
    (hpasses.lt_iff 2).mp h (pairs_onePass_onePass (tokens t))
  refine ⟨_, n, read_repeatedChild, hpasses, by omega, ?_, ?_, hpasses.detect_eq_false,
    tokens_spread t, hpasses.eq_parted, ?_⟩
  · rw [← hfirst]
    omega
  · rw [← hsecond]
    omega
  · rw [← count_child_tokens, ← count_child_tokens, tokens_spread, count_child_separate]

/-- Of three in a row the first pass leaves two. -/
example : spreadOnce "a>>\t>b".toList = "a> * >\t>b".toList := by decide

example : spread "a>>\t>b".toList = "a> * > * >b".toList := by decide

end Chain

end Hypertag
