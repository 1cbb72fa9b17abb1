import Hypertag.Proofs.Scan.Search

/-!
# Searches for a literal

A literal is measured by itself where it stands. Each loop over its places takes the pieces of the text
one after the other, and a turn for each match is no more than a turn for each character.
-/

namespace Hypertag.Literal

def measure (p : Text) : Measure := fun _ t => if p.isPrefixOf t then p.length else 0

theorem measure_le (p : Text) (n : Nat) (t : Text) : measure p n t ≤ t.length := by
  rw [measure]
  split
  · next hpre => exact (List.isPrefixOf_iff_prefix.mp hpre).length_le
  · exact Nat.zero_le _

theorem exists_scanned (p t : Text) : ∃ ps, Scanned (measure p) 0 t ps :=
  Scanned.exists_of_bound (measure_le p) 0 t

/-! ## One cut -/

section Cut

variable {p : Text} (hp : p ≠ []) {n : Nat} {c : Char} {t : Text}

include hp

theorem cut?_nil : cut? p [] = none := by
  rw [cut?, if_neg (by simpa using hp)]

theorem cut?_plain (hm : measure p n (c :: t) = 0) :
    cut? p (c :: t) = (cut? p t).map fun (before, after) => (c :: before, after) := by
  have hpre : ¬ p.isPrefixOf (c :: t) = true := by
    intro hpre
    rw [measure, if_pos hpre, List.length_eq_zero_iff] at hm
    exact hp hm
  rw [cut?, if_neg hpre]

theorem cut?_hit (t : Text) : cut? p (p ++ t) = some ([], t) := by
  obtain ⟨c, q, rfl⟩ := List.exists_cons_of_ne_nil hp
  rw [List.cons_append, cut?, if_pos (by simp)]
  simp

/-! The loops go over a character that no match covers. -/

theorem countFrom_plain (hm : measure p n (c :: t) = 0) (turns : Nat) :
    countFrom p turns (c :: t) = countFrom p turns t := by
  cases turns with
  | zero => rfl
  | succ turns =>
      rw [countFrom, countFrom, cut?_plain hp hm]
      cases cut? p t <;> rfl

theorem replaceFrom_plain (hm : measure p n (c :: t) = 0) (r : Text) (turns : Nat)
    (most : Option Nat) :
    replaceFrom p r turns most (c :: t) = c :: replaceFrom p r turns most t := by
  cases turns with
  | zero => rfl
  | succ turns =>
      rw [replaceFrom, replaceFrom, cut?_plain hp hm]
      split
      · rfl
      · cases cut? p t <;> rfl

theorem splitFrom_plain (hm : measure p n (c :: t) = 0) {turns : Nat} {part : Text}
    {parts : List Text} (h : splitFrom p turns t = part :: parts) :
    splitFrom p turns (c :: t) = (c :: part) :: parts := by
  cases turns with
  | zero =>
      obtain ⟨rfl, rfl⟩ := List.cons.inj h
      rfl
  | succ turns =>
      rw [splitFrom] at h
      rw [splitFrom, cut?_plain hp hm]
      cases hcut : cut? p t with
      | none =>
          rw [hcut] at h
          obtain ⟨rfl, rfl⟩ := List.cons.inj h
          rfl
      | some cut =>
          rw [hcut] at h
          obtain ⟨rfl, rfl⟩ := List.cons.inj h
          rfl

end Cut

/-- Where the literal stands a loop has a turn, and turns enough for what stands after it. -/
theorem exists_turns {p t : Text} {turns : Nat} (hp : p ≠ []) (hturns : (p ++ t).length ≤ turns) :
    ∃ k, turns = k + 1 ∧ t.length ≤ k := by
  have hpos := List.length_pos_iff.mpr hp
  rw [List.length_append] at hturns
  exact ⟨turns - 1, by omega, by omega⟩

/-- What is measured is the literal itself. -/
theorem eq_of_measure {p w t : Text} {n : Nat} (hw : w ≠ [])
    (hm : measure p n (w ++ t) = w.length) : w = p := by
  rw [measure] at hm
  split at hm
  · next hpre =>
      have hbegins := List.prefix_iff_eq_take.mp (List.isPrefixOf_iff_prefix.mp hpre)
      rw [hm, List.take_left] at hbegins
      exact hbegins.symm
  · exact absurd (List.length_eq_zero_iff.mp hm.symm) hw

/-! ## The loops -/

section Loops

variable {p : Text} (hp : p ≠ []) {n : Nat} {t : Text} {ps : List Piece}
  (h : Scanned (measure p) n t ps)

include h

/-- Every match is the literal. -/
theorem hits_of_scanned : Pieces.hits ps = List.replicate (Pieces.hits ps).length ⟨p, []⟩ := by
  induction h with
  | nil => rfl
  | plain _ _ ih => exact ih
  | hit hw hm _ ih =>
      obtain rfl := eq_of_measure hw hm
      rw [Pieces.hits_hit, List.length_cons, List.replicate_succ, ← ih]

include hp

theorem isSome_cut? : (cut? p t).isSome = ps.any fun piece => piece.hit?.isSome := by
  induction h with
  | nil => rw [cut?_nil hp]; rfl
  | plain hm _ ih => rw [cut?_plain hp hm, Option.isSome_map, ih]; rfl
  | hit hw hm _ _ =>
      obtain rfl := eq_of_measure hw hm
      rw [cut?_hit hp]
      rfl

variable {turns : Nat}

theorem countFrom_eq (hturns : t.length ≤ turns) :
    countFrom p turns t = (Pieces.hits ps).length := by
  induction h generalizing turns with
  | nil =>
      cases turns with
      | zero => rfl
      | succ turns => rw [countFrom, cut?_nil hp]; rfl
  | plain hm _ ih =>
      rw [countFrom_plain hp hm]
      exact ih (Nat.le_of_succ_le hturns)
  | hit hw hm _ ih =>
      obtain rfl := eq_of_measure hw hm
      obtain ⟨k, rfl, hk⟩ := exists_turns hp hturns
      rw [countFrom, cut?_hit hp, Pieces.hits_hit, List.length_cons, ← ih hk]

theorem replaceFrom_all (r : Text) (hturns : t.length ≤ turns) :
    replaceFrom p r turns none t = Pieces.fillAll (fun _ => r) ps := by
  induction h generalizing turns with
  | nil =>
      cases turns with
      | zero => rfl
      | succ turns => rw [replaceFrom, if_neg nofun, cut?_nil hp]; rfl
  | plain hm _ ih =>
      rw [replaceFrom_plain hp hm, ih (Nat.le_of_succ_le hturns)]
      rfl
  | hit hw hm _ ih =>
      obtain rfl := eq_of_measure hw hm
      obtain ⟨k, rfl, hk⟩ := exists_turns hp hturns
      rw [replaceFrom, if_neg nofun, cut?_hit hp, Pieces.fillAll_hit, ← ih hk]
      rfl

/-- When one place was replaced the loop copies what is left. -/
theorem replaceFrom_one (r : Text) (hturns : t.length ≤ turns) :
    replaceFrom p r turns (some 1) t = Pieces.fillFirst (fun _ => r) ps := by
  induction h generalizing turns with
  | nil =>
      cases turns with
      | zero => rfl
      | succ turns => rw [replaceFrom, if_neg (by simp), cut?_nil hp]; rfl
  | plain hm _ ih =>
      rw [replaceFrom_plain hp hm, ih (Nat.le_of_succ_le hturns)]
      rfl
  | hit hw hm hrest _ =>
      obtain rfl := eq_of_measure hw hm
      obtain ⟨k, rfl, -⟩ := exists_turns hp hturns
      rw [replaceFrom, if_neg (by simp), cut?_hit hp, Pieces.fillFirst, hrest.flatMap_text]
      cases k <;> rfl

theorem splitFrom_eq (hturns : t.length ≤ turns) :
    splitFrom p turns t = Pieces.between ps := by
  induction h generalizing turns with
  | nil =>
      cases turns with
      | zero => rfl
      | succ turns => rw [splitFrom, cut?_nil hp]; rfl
  | @plain _ _ _ ps hm _ ih =>
      obtain ⟨part, parts, hparts⟩ := Pieces.exists_between ps
      have hrest := (ih (Nat.le_of_succ_le hturns)).trans hparts
      rw [splitFrom_plain hp hm hrest, Pieces.between_plain hparts]
  | hit hw hm _ ih =>
      obtain rfl := eq_of_measure hw hm
      obtain ⟨k, rfl, hk⟩ := exists_turns hp hturns
      rw [splitFrom, cut?_hit hp, Pieces.between_hit, ← ih hk]

end Loops

/-! ## The scans of a literal with a character -/

section Scans

variable {p : Text} (hp : p ≠ []) {t : Text} {ps : List Piece} (h : Scanned (measure p) 0 t ps)

include hp h

theorem detect_eq_pieces : detect p t = ps.any fun piece => piece.hit?.isSome := isSome_cut? hp h

theorem matchFirst?_eq_pieces : matchFirst? p t = (Pieces.hits ps).head?.map (·.text) := by
  rw [matchFirst?, detect_eq_pieces hp h, Pieces.any_hit, hits_of_scanned h]
  cases (Pieces.hits ps).length <;> rfl

theorem matchAll_eq_pieces : matchAll p t = (Pieces.hits ps).map (·.text) := by
  rw [matchAll, if_neg (by simpa using hp), countFrom_eq hp h (Nat.le_refl _), hits_of_scanned h,
    List.map_replicate, List.length_replicate]

theorem replaceFirst_eq_pieces (r : Text) :
    replaceFirst p r t = Pieces.fillFirst (fun _ => r) ps := by
  rw [replaceFirst, replace, if_neg (by simpa using hp), replaceFrom_one hp h r (Nat.le_refl _)]

theorem replaceAll_eq_pieces (r : Text) : replaceAll p r t = Pieces.fillAll (fun _ => r) ps := by
  rw [replaceAll, replace, if_neg (by simpa using hp), replaceFrom_all hp h r (Nat.le_refl _)]

theorem split?_eq_pieces : split? p t = some (Pieces.between ps) := by
  rw [split?, if_neg (by simpa using hp), splitFrom_eq hp h (Nat.le_refl _)]

end Scans

/-! ## The first place -/

theorem detect_eq {p : Text} (hp : p ≠ []) (t : Text) :
    detect p t = ((measure p).first? 0 t).isSome := by
  obtain ⟨ps, hs⟩ := exists_scanned p t
  rw [detect_eq_pieces hp hs, hs.any_hit]

theorem replaceFirst_eq {p : Text} (hp : p ≠ []) (r t : Text) :
    replaceFirst p r t =
      match (measure p).first? 0 t with
      | none => t
      | some f => f.before ++ r ++ f.after := by
  obtain ⟨ps, hs⟩ := exists_scanned p t
  refine (replaceFirst_eq_pieces hp hs r).trans ((hs.fillFirst_eq _).trans ?_)
  cases (measure p).first? 0 t <;> rfl

theorem detect_singleton_iff (c : Char) (t : Text) : detect [c] t = true ↔ c ∈ t := by
  rw [detect_eq (by simp)]
  generalize 0 = n
  induction t generalizing n with
  | nil => simp [Measure.first?]
  | cons d t ih =>
      by_cases hd : c = d
      · simp [Measure.first?, measure, hd]
      · simp [Measure.first?, measure, hd, ih]

end Hypertag.Literal
