import Hypertag.Proofs.Selector.Ends

/-!
# Text without `>`

Trimmed text without `>` falls into words at its runs of blanks, and the words are its tokens.
-/

namespace Hypertag.Chain

open Pattern

theorem pieces_word {w : Text} (hw : ∀ c ∈ w, isBlank c = false) (t : Text) :
    blanks.pieces (w ++ t) = w.map .plain ++ blanks.pieces t :=
  measuredBy_blanks.pieces_append (fun c hc t => by simp [hw c hc]) t

/-- A run of blanks up to a character that is not blank is one match. -/
theorem pieces_blanks {b t : Text} (hne : b ≠ []) (hb : ∀ c ∈ b, isBlank c = true)
    (ht : ∀ c, t.head? = some c → isBlank c = false) :
    blanks.pieces (b ++ t) = .hit ⟨b, []⟩ :: blanks.pieces t := by
  refine measuredBy_blanks.pieces_hit hne ?_
  have hstop : t.takeWhile isBlank = [] := by
    cases t with
    | nil => rfl
    | cons c t => exact List.takeWhile_cons_of_neg (by simp [ht c rfl])
  rw [List.takeWhile_append_of_pos hb, hstop, List.append_nil]

theorem between_word (w : Text) (ps : List Piece) :
    Pieces.between (w.map .plain ++ ps) =
      (w ++ (Pieces.between ps).headD []) :: (Pieces.between ps).tail := by
  induction w with
  | nil =>
      have hne : Pieces.between ps ≠ [] := by
        fun_cases Pieces.between ps <;> simp
      obtain ⟨t, ts, ht⟩ := List.exists_cons_of_ne_nil hne
      simp [ht]
  | cons c w ih => simp [Pieces.between, ih]

theorem detect_blanks_iff (t : Text) : blanks.detect t = true ↔ ∃ c ∈ t, isBlank c = true := by
  rw [measuredBy_blanks.detect_eq]
  generalize 0 = n
  induction t generalizing n with
  | nil => simp [Measure.first?]
  | cons c t ih => by_cases hc : isBlank c <;> simp [Measure.first?, hc, ih]

/-- What follows a word, when it is not a `>`, is blanks and then something else. -/
private theorem blanks_and_rest {t : Text} (hne : t ≠ [])
    (hword : t.head?.any isCompoundChar = false) (hmark : '>' ∉ t) :
    ∃ b v : Text, t = b ++ v ∧ (∀ c ∈ b, isBlank c = true) ∧ b ≠ [] ∧
      ∀ c, v.head? = some c → isBlank c = false := by
  refine ⟨t.takeWhile isBlank, t.dropWhile isBlank, List.takeWhile_append_dropWhile.symm,
    fun c hc => List.mem_takeWhile_imp hc, ?_, fun c hc => ?_⟩
  · obtain ⟨c, r, rfl⟩ := List.exists_cons_of_ne_nil hne
    have hnot : c ≠ '>' := by
      intro heq
      subst heq
      simp at hmark
    have hc : isBlank c = true := by
      simpa [isCompoundChar, hnot] using hword
    simp [hc]
  · exact Text.not_blank_of_head?_dropWhile hc

/-- Trimmed text without `>` is words with blanks between them. -/
theorem map_compound_split {t : Text} (h : t.Trimmed) (hne : t ≠ []) (hmark : '>' ∉ t) :
    (blanks.split t).map .compound = tokens t := by
  induction hk : t.length using Nat.strongRecOn generalizing t with
  | ind k ih =>
      rcases text_cases t with rfl | ⟨r, rfl⟩ | ⟨c, r, rfl, hc⟩ | ⟨w, r, rfl, hw, hword, hr⟩
      · exact absurd rfl hne
      · simp at hmark
      · exact absurd (h.first c rfl) (by simp [hc])
      · have hplain : ∀ c ∈ w, isBlank c = false :=
          fun c hc => ((isCompoundChar_iff c).mp (hword c hc)).1
        rw [tokens_word hw hword hr, split_eq_pieces _ _ rfl, pieces_word hplain, between_word]
        by_cases hnil : r = []
        · rw [hnil, measuredBy_blanks.pieces_nil]
          simp [Pieces.between]
        · have hlast : ∀ c, r.getLast? = some c → isBlank c = false := fun c hc =>
            h.last c (by rw [List.getLast?_append_of_ne_nil w hnil, hc])
          obtain ⟨b, v, rfl, hb, hbne, hv⟩ := blanks_and_rest hnil hr fun hmem =>
            hmark (List.mem_append_right w hmem)
          have hvne : v ≠ [] := by
            intro heq
            subst heq
            have hmem := List.getLast_mem hbne
            rw [List.append_nil] at hlast
            exact absurd (hlast _ (List.getLast?_eq_some_getLast hbne)) (by simp [hb _ hmem])
          rw [List.getLast?_append_of_ne_nil b hvne] at hlast
          have hrest : (blanks.split v).map .compound = tokens v :=
            ih v.length
              (by
                have hpos := List.length_pos_iff.mpr hbne
                simp only [List.length_append] at hk
                omega)
              ⟨hv, hlast⟩ hvne (fun hmem => hmark (by simp [hmem])) rfl
          rw [pieces_blanks hbne hb hv, tokens_blanks_append hb, ← hrest, split_eq_pieces _ _ rfl]
          simp [Pieces.between]

/-- Without a blank it is one word. -/
theorem tokens_of_no_blank {t : Text} (hne : t ≠ []) (hmark : '>' ∉ t)
    (hblank : ∀ c ∈ t, isBlank c = false) : tokens t = [.compound t] := by
  have hword : ∀ c ∈ t, isCompoundChar c = true := by
    intro c hc
    refine (isCompoundChar_iff c).mpr ⟨hblank c hc, ?_⟩
    intro heq
    subst heq
    exact hmark hc
  have h := tokens_word (t := []) hne hword rfl
  rwa [List.append_nil] at h

private theorem eq_nil_of_tokens_eq_nil {w r : Text} (h : (w ++ r).Trimmed)
    (htokens : tokens r = []) : r = [] := by
  by_cases hr : r = []
  · exact hr
  · have hlast : ∀ c, r.getLast? = some c → isBlank c = false := fun c hc =>
      h.last c (by rw [List.getLast?_append_of_ne_nil w hr, hc])
    exact absurd htokens (tokens_ne_nil hr hlast)

/-- With a blank it is several. -/
theorem tokens_ne_singleton {t : Text} (h : t.Trimmed) {c : Char} (hc : c ∈ t)
    (hblank : isBlank c = true) (token : Token) : tokens t ≠ [token] := by
  intro htokens
  rcases text_cases t with rfl | ⟨r, rfl⟩ | ⟨d, r, rfl, hd⟩ | ⟨w, r, rfl, hw, hword, hr⟩
  · simp at hc
  · rw [tokens_child] at htokens
    obtain rfl := eq_nil_of_tokens_eq_nil (w := ['>']) h (List.cons.inj htokens).2
    obtain rfl := List.mem_singleton.mp hc
    exact ne_child_of_isBlank hblank rfl
  · exact absurd (h.first d rfl) (by simp [hd])
  · rw [tokens_word hw hword hr] at htokens
    obtain rfl := eq_nil_of_tokens_eq_nil h (List.cons.inj htokens).2
    rw [List.append_nil] at hc
    exact absurd hblank (by simp [((isCompoundChar_iff c).mp (hword c hc)).1])

end Hypertag.Chain
