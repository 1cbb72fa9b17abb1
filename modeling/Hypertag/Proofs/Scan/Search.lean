import Hypertag.Proofs.Scan.Runs

/-!
# Searches whose matches have characters

Where no match is empty and none captures, a search is known by a measure: how many characters the
match at a place covers. The pieces of a text then follow the text from left to right, and the
operations that look for one match only find the first place with a measure.
-/

namespace Hypertag

/-- How many characters the match at a place covers, zero where there is none. -/
abbrev Measure := Nat → Text → Nat

/-- The pieces of the text from a place on when matches are as long as measured. -/
inductive Scanned (m : Measure) : Nat → Text → List Piece → Prop where
  | nil {n : Nat} : Scanned m n [] []
  | plain {n : Nat} {c : Char} {t : Text} {ps : List Piece} : m n (c :: t) = 0 →
      Scanned m (n + 1) t ps → Scanned m n (c :: t) (.plain c :: ps)
  | hit {n : Nat} {w t : Text} {ps : List Piece} : w ≠ [] → m n (w ++ t) = w.length →
      Scanned m (n + w.length) t ps → Scanned m n (w ++ t) (.hit ⟨w, []⟩ :: ps)

structure Found where
  before : Text
  hit : Text
  after : Text
  deriving DecidableEq, Repr

namespace Measure

def first? (m : Measure) : Nat → Text → Option Found
  | _, [] => none
  | n, c :: t =>
      if m n (c :: t) = 0 then
        (m.first? (n + 1) t).map fun f => { f with before := c :: f.before }
      else some ⟨[], (c :: t).take (m n (c :: t)), (c :: t).drop (m n (c :: t))⟩

theorem first?_hit {m : Measure} {n : Nat} {w t : Text} (hw : w ≠ [])
    (hm : m n (w ++ t) = w.length) : m.first? n (w ++ t) = some ⟨[], w, t⟩ := by
  obtain ⟨c, w, rfl⟩ := List.exists_cons_of_ne_nil hw
  have hpos : m n (c :: (w ++ t)) ≠ 0 := by
    intro h
    simp [h] at hm
  simp only [List.cons_append] at hm ⊢
  rw [Measure.first?, if_neg hpos, hm]
  simp

end Measure

namespace Scanned

variable {m : Measure} {n : Nat} {t : Text} {ps : List Piece}

/-- No character is lost or added. -/
theorem flatMap_text (h : Scanned m n t ps) : ps.flatMap Piece.text = t := by
  induction h with
  | nil => rfl
  | plain _ _ ih => simp [ih]
  | hit _ _ _ ih => simp [ih]

theorem any_hit (h : Scanned m n t ps) :
    (ps.any fun piece => piece.hit?.isSome) = (m.first? n t).isSome := by
  induction h with
  | nil => rfl
  | plain hm _ ih => simpa [Measure.first?, hm] using ih
  | hit hw hm _ _ => simp [Measure.first?_hit hw hm]

theorem head?_hits (h : Scanned m n t ps) :
    (Pieces.hits ps).head?.map (·.text) = (m.first? n t).map (·.hit) := by
  induction h with
  | nil => rfl
  | plain hm _ ih =>
      rw [Measure.first?, if_pos hm, Option.map_map]
      exact ih
  | hit hw hm _ _ => simp [Measure.first?_hit hw hm]

theorem fillFirst_eq (h : Scanned m n t ps) (fill : Hit → Text) :
    Pieces.fillFirst fill ps =
      match m.first? n t with
      | none => t
      | some f => f.before ++ fill ⟨f.hit, []⟩ ++ f.after := by
  induction h with
  | nil => rfl
  | @plain n c t ps hm _ ih =>
      rw [Pieces.fillFirst, ih, Measure.first?, if_pos hm]
      cases m.first? (n + 1) t <;> rfl
  | hit hw hm hrest _ => simp [Pieces.fillFirst, Measure.first?_hit hw hm, hrest.flatMap_text]

/-- Where matches do not depend on the place, neither do the pieces. -/
theorem move {f : Text → Nat} (h : Scanned (fun _ t => f t) n t ps) (k : Nat) :
    Scanned (fun _ t => f t) k t ps := by
  induction h generalizing k with
  | nil => exact .nil
  | plain hm _ ih => exact .plain hm (ih (k + 1))
  | hit hw hm _ ih => exact .hit hw hm (ih _)

/-- Every text has pieces if no measure goes beyond its end. -/
theorem exists_of_bound (hbound : ∀ n t, m n t ≤ t.length) (n : Nat) (t : Text) :
    ∃ ps, Scanned m n t ps := by
  induction hk : t.length using Nat.strongRecOn generalizing n t with
  | ind k ih =>
      cases t with
      | nil => exact ⟨[], .nil⟩
      | cons c t =>
          by_cases hm : m n (c :: t) = 0
          · obtain ⟨ps, hps⟩ := ih t.length (by simp [← hk]) (n + 1) t rfl
            exact ⟨_, .plain hm hps⟩
          · have hsplit := List.take_append_drop (m n (c :: t)) (c :: t)
            have hlength := List.length_take_of_le (hbound n (c :: t))
            obtain ⟨ps, hps⟩ := ih ((c :: t).drop (m n (c :: t))).length
              (by rw [List.length_drop, hk]; rw [List.length_cons] at hk; omega)
              (n + ((c :: t).take (m n (c :: t))).length) _ rfl
            have hw : (c :: t).take (m n (c :: t)) ≠ [] := List.ne_nil_of_length_pos (by omega)
            have hhit := Scanned.hit hw (by rw [hsplit, hlength]) hps
            rw [hsplit] at hhit
            exact ⟨_, hhit⟩

end Scanned

namespace Pattern

structure MeasuredBy (p : Pattern) (m : Measure) : Prop where
  bound : ∀ n t, m n t ≤ t.length
  matchAt : ∀ n t, p.matchAt? n t false = if m n t = 0 then none else some ⟨t.take (m n t), []⟩

namespace MeasuredBy

variable {p : Pattern} {m : Measure}

/-- The run of the searches finds the pieces that are measured. -/
theorem exists_run (h : p.MeasuredBy m) {t u : Text} {n : Nat} {ps : List Piece}
    (hs : Scanned m n u ps) (hn : n ≤ t.length) (hu : t.drop n = u) :
    ∃ os, p.engine.Run t n false os ∧ Pieces.around t n os = ps := by
  induction hs with
  | @nil n =>
      obtain rfl : n = t.length := Nat.le_antisymm hn (List.drop_eq_nil_iff.mp hu)
      refine ⟨[], .of_none_at_end ?_, by rw [Pieces.around, hu]; rfl⟩
      have hmatch := h.matchAt t.length []
      rwa [if_pos (Nat.le_zero.mp (h.bound _ [])), ← hu] at hmatch
  | @plain n c u ps hm _ ih =>
      have hlt : n < t.length := by
        have hlength := congrArg List.length hu
        simp at hlength
        omega
      have hdrop : t.drop (n + 1) = u := by rw [← List.drop_drop, hu]; rfl
      obtain ⟨os, hrun, rfl⟩ := ih hlt hdrop
      have hmatch := h.matchAt n (c :: u)
      rw [if_pos hm, ← hu] at hmatch
      exact ⟨os, hrun.of_none hlt hmatch, hrun.around_of_drop hlt hu⟩
  | @hit n w u ps hw hm _ ih =>
      have hlength := congrArg List.length hu
      simp at hlength
      have hdrop : t.drop (n + w.length) = u := by rw [← List.drop_drop, hu, List.drop_left]
      obtain ⟨os, hrun, rfl⟩ := ih (by omega) hdrop
      have hmatch := h.matchAt n (w ++ u)
      rw [if_neg (by rw [hm]; simpa using hw), hm, List.take_left, ← hu] at hmatch
      refine ⟨⟨n, ⟨w, []⟩⟩ :: os, .of_match hn hmatch ?_, ?_⟩
      · have hempty : w.isEmpty = false := by simpa using hw
        rwa [hempty]
      · rw [Pieces.around, Text.slice_self]
        rfl

theorem pieces_eq_of_scanned (h : p.MeasuredBy m) {t : Text} {ps : List Piece}
    (hs : Scanned m 0 t ps) : p.pieces t = ps := by
  obtain ⟨os, hrun, rfl⟩ := h.exists_run hs (Nat.zero_le _) rfl
  exact Engine.pieces_eq_of_run hrun

theorem scanned_pieces (h : p.MeasuredBy m) (t : Text) : Scanned m 0 t (p.pieces t) := by
  obtain ⟨ps, hs⟩ := Scanned.exists_of_bound h.bound 0 t
  rwa [h.pieces_eq_of_scanned hs]

theorem pieces_nil (h : p.MeasuredBy m) : p.pieces [] = [] := h.pieces_eq_of_scanned .nil

theorem pieces_plain {f : Text → Nat} (h : p.MeasuredBy fun _ t => f t) {c : Char} {t : Text}
    (hm : f (c :: t) = 0) : p.pieces (c :: t) = .plain c :: p.pieces t :=
  h.pieces_eq_of_scanned (.plain hm ((h.scanned_pieces t).move 1))

/-- Characters at which no match begins are pieces of their own. -/
theorem pieces_append {f : Text → Nat} (h : p.MeasuredBy fun _ t => f t) {w : Text}
    (hw : ∀ c ∈ w, ∀ t, f (c :: t) = 0) (t : Text) :
    p.pieces (w ++ t) = w.map .plain ++ p.pieces t := by
  induction w with
  | nil => rfl
  | cons c w ih =>
      have hrest := ih fun x hx => hw x (by simp [hx])
      rw [List.cons_append, h.pieces_plain (hw c (by simp) _), hrest]
      rfl

theorem pieces_hit {f : Text → Nat} (h : p.MeasuredBy fun _ t => f t) {w t : Text} (hw : w ≠ [])
    (hm : f (w ++ t) = w.length) : p.pieces (w ++ t) = .hit ⟨w, []⟩ :: p.pieces t :=
  h.pieces_eq_of_scanned (.hit hw hm ((h.scanned_pieces t).move _))

theorem detect_eq (h : p.MeasuredBy m) (t : Text) : p.detect t = (m.first? 0 t).isSome :=
  (p.detect_eq_pieces t).trans (h.scanned_pieces t).any_hit

theorem matchFirst?_eq (h : p.MeasuredBy m) (t : Text) :
    p.matchFirst? t = (m.first? 0 t).map (·.hit) :=
  (p.matchFirst?_eq_pieces t).trans (h.scanned_pieces t).head?_hits

theorem removeFirst_eq (h : p.MeasuredBy m) (t : Text) :
    p.removeFirst t =
      match m.first? 0 t with
      | none => t
      | some f => f.before ++ f.after := by
  rw [removeFirst, replaceFirst_eq_pieces, (h.scanned_pieces t).fillFirst_eq]
  cases m.first? 0 t with
  | none => rfl
  | some f => simp [Replacement.expand]

end MeasuredBy

end Pattern

/-! ## Measures -/

namespace Measure

def AtStart (m : Measure) : Prop := ∀ n t, n ≠ 0 → m n t = 0

theorem first?_of_no_match {m : Measure} {n : Nat} (h : ∀ k t, n ≤ k → m k t = 0) (t : Text) :
    m.first? n t = none := by
  induction t generalizing n with
  | nil => rfl
  | cons c t ih =>
      have hrest := ih (n := n + 1) fun k t hk => h k t (by omega)
      rw [first?, if_pos (h n _ (Nat.le_refl n)), hrest]
      rfl

theorem AtStart.first?_eq {m : Measure} (h : m.AtStart) (t : Text) :
    m.first? 0 t =
      if t = [] ∨ m 0 t = 0 then none else some ⟨[], t.take (m 0 t), t.drop (m 0 t)⟩ := by
  cases t with
  | nil => simp [first?]
  | cons c t =>
      have hrest := first?_of_no_match (m := m) (n := 1) (fun k t hk => h k t (by omega)) t
      simp [first?, hrest]

/-- After the first place only characters are left. -/
theorem AtStart.pieces_of_ne_zero {m : Measure} (h : m.AtStart) {n : Nat} (hn : n ≠ 0) {t : Text}
    {ps : List Piece} (hs : Scanned m n t ps) : ps = t.map .plain := by
  induction hs with
  | nil => rfl
  | plain _ _ ih => rw [ih (by omega), List.map_cons]
  | @hit n w t _ hw hm _ _ =>
      rw [h n _ hn] at hm
      exact absurd (List.length_eq_zero_iff.mp hm.symm) hw

end Measure

namespace Pattern.MeasuredBy

variable {p : Pattern} {m : Measure}

theorem removeFirst_atStart (h : p.MeasuredBy m) (hm : m.AtStart) (t : Text) :
    p.removeFirst t = t.drop (m 0 t) := by
  rw [h.removeFirst_eq, hm.first?_eq]
  by_cases ht : t = [] ∨ m 0 t = 0
  · rcases ht with rfl | ht
    · simp
    · simp [ht]
  · rw [if_neg ht]
    simp

theorem matchFirst?_atStart (h : p.MeasuredBy m) (hm : m.AtStart) (t : Text) :
    p.matchFirst? t = if m 0 t = 0 then none else some (t.take (m 0 t)) := by
  rw [h.matchFirst?_eq, hm.first?_eq]
  have hnil : m 0 [] = 0 := Nat.le_zero.mp (h.bound 0 [])
  by_cases ht : m 0 t = 0
  · simp [ht]
  · have hne : t ≠ [] := by
      intro heq
      subst heq
      exact ht hnil
    simp [ht, hne]

end Pattern.MeasuredBy

end Hypertag
