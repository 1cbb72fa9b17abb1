import Hypertag.Proofs.Scan.Measures
import Mathlib.Data.List.DropRight

/-!
# Trimming

Trimming by pattern takes off exactly the blanks at the ends. On either side the search finds one match
or none. On the left `^` holds before the first character alone, and the match is the longest run of
blanks there. On the right a run of blanks is a match only if it reaches the end; a newline that ends
the text is itself a blank, so `$` before it cuts no run short.
-/

namespace Hypertag

theorem rdropWhile_cons (c : Char) (t : Text) :
    (c :: t).rdropWhile isBlank =
      if (c :: t).dropWhile isBlank = [] then [] else c :: t.rdropWhile isBlank := by
  have hblank : t.reverse.dropWhile isBlank = [] ↔ t.dropWhile isBlank = [] := by
    simp [List.dropWhile_eq_nil_iff]
  rw [List.rdropWhile, List.rdropWhile, List.reverse_cons, List.dropWhile_append]
  by_cases ht : t.dropWhile isBlank = []
  · by_cases hc : isBlank c <;> simp [hblank.mpr ht, ht, hc]
  · have hne : (c :: t).dropWhile isBlank ≠ [] := by
      by_cases hc : isBlank c <;> simp [hc, ht]
    simp [hblank, ht, hne]

theorem rtakeWhile_cons {c : Char} {t : Text} (h : (c :: t).dropWhile isBlank ≠ []) :
    (c :: t).rtakeWhile isBlank = t.rtakeWhile isBlank := by
  have hwhole := List.rdropWhile_append_rtakeWhile (p := isBlank) (l := c :: t)
  have hrest := List.rdropWhile_append_rtakeWhile (p := isBlank) (l := t)
  rw [rdropWhile_cons, if_neg h, List.cons_append, List.cons.injEq] at hwhole
  exact List.append_cancel_left (hwhole.2.trans hrest.symm)

/-! ## The search for blanks at an end -/

namespace Pieces

/-- A run as the one match that it is, if it has a character. -/
def ofRun (run : Text) : List Piece := if run = [] then [] else [.hit ⟨run, []⟩]

theorem fillAll_ofRun (run : Text) : fillAll (fun _ => []) (ofRun run) = [] := by
  rw [ofRun]
  split <;> rfl

theorem hits_ofRun (run : Text) :
    (hits (ofRun run)).map (·.text) = if run = [] then [] else [run] := by
  rw [ofRun]
  split <;> rfl

end Pieces

namespace Pattern

theorem measuredBy_blanks :
    blanks.MeasuredBy fun _ t => (t.takeWhile isBlank).length :=
  measuredBy_run (.named .blank)

theorem measuredBy_leadingBlanks :
    leadingBlanks.MeasuredBy fun n t => if n = 0 then (t.takeWhile isBlank).length else 0 :=
  measuredBy_atStart_run (.named .blank)

private theorem pieces_of_leading {t : Text} {ps : List Piece}
    (h : Scanned (fun n t => if n = 0 then (t.takeWhile isBlank).length else 0) 0 t ps) :
    ps = Pieces.ofRun (t.takeWhile isBlank) ++ (t.dropWhile isBlank).map .plain := by
  have hstart : Measure.AtStart fun n t => if n = 0 then (t.takeWhile isBlank).length else 0 :=
    fun n t hn => if_neg hn
  cases h with
  | nil => rfl
  | @plain n c t ps hm hrest =>
      have hc : ¬ isBlank c = true := by
        intro hc
        simp [hc] at hm
      rw [hstart.pieces_of_ne_zero (by omega) hrest, List.takeWhile_cons_of_neg hc,
        List.dropWhile_cons_of_neg hc]
      rfl
  | @hit n w t ps hw hm hrest =>
      have hpos := List.length_pos_iff.mpr hw
      have hsplit := List.takeWhile_append_dropWhile (p := isBlank) (l := w ++ t)
      obtain ⟨hrun, hkept⟩ := List.append_inj hsplit hm
      rw [hstart.pieces_of_ne_zero (by omega) hrest, hrun, hkept, Pieces.ofRun, if_neg hw]
      rfl

private theorem pieces_of_trailing {n : Nat} {t : Text} {ps : List Piece}
    (h : Scanned (fun _ t => if t.dropWhile isBlank = [] then t.length else 0) n t ps) :
    ps = (t.rdropWhile isBlank).map .plain ++ Pieces.ofRun (t.rtakeWhile isBlank) := by
  induction h with
  | nil => rfl
  | @plain n c t ps hm _ ih =>
      have hne : (c :: t).dropWhile isBlank ≠ [] := by
        intro h
        simp [h] at hm
      rw [rdropWhile_cons, if_neg hne, rtakeWhile_cons hne, ih]
      rfl
  | @hit n w t ps hw hm _ ih =>
      have hpos := List.length_pos_iff.mpr hw
      by_cases hblank : (w ++ t).dropWhile isBlank = []
      · rw [if_pos hblank, List.length_append] at hm
        obtain rfl := List.length_eq_zero_iff.mp (show t.length = 0 by omega)
        -- The match reaches the end, so nothing is left to be searched.
        obtain rfl : ps = [] := ih
        rw [List.append_nil] at hblank ⊢
        have hall := List.dropWhile_eq_nil_iff.mp hblank
        rw [List.rdropWhile_eq_nil_iff.mpr hall, List.rtakeWhile_eq_self_iff.mpr hall, Pieces.ofRun,
          if_neg hw]
        rfl
      · rw [if_neg hblank] at hm
        omega

theorem read_leadingBlanks : Needle.read "^\\s+" false = .ok (.pattern leadingBlanks.engine) :=
  Needle.read_of_pattern (by decide)

theorem read_trailingBlanks : Needle.read "\\s+$" false = .ok (.pattern trailingBlanks.engine) :=
  Needle.read_of_pattern (by decide)

theorem pieces_leadingBlanks (t : Text) :
    leadingBlanks.pieces t =
      Pieces.ofRun (t.takeWhile isBlank) ++ (t.dropWhile isBlank).map .plain :=
  pieces_of_leading (measuredBy_leadingBlanks.scanned_pieces t)

theorem pieces_trailingBlanks (t : Text) :
    trailingBlanks.pieces t =
      (t.rdropWhile isBlank).map .plain ++ Pieces.ofRun (t.rtakeWhile isBlank) :=
  pieces_of_trailing (measuredBy_trailingBlanks.scanned_pieces t)

theorem removeAll_leadingBlanks (t : Text) : leadingBlanks.removeAll t = t.dropWhile isBlank := by
  rw [removeAll, replaceAll_eq_pieces, pieces_leadingBlanks, Pieces.fillAll_append,
    Pieces.fillAll_map_plain]
  exact congrArg (· ++ t.dropWhile isBlank) (Pieces.fillAll_ofRun _)

theorem removeAll_trailingBlanks (t : Text) : trailingBlanks.removeAll t = t.rdropWhile isBlank := by
  rw [removeAll, replaceAll_eq_pieces, pieces_trailingBlanks, Pieces.fillAll_append,
    Pieces.fillAll_map_plain]
  exact (congrArg (t.rdropWhile isBlank ++ ·) (Pieces.fillAll_ofRun _)).trans (List.append_nil _)

theorem matchAll_leadingBlanks (t : Text) :
    leadingBlanks.matchAll t = if t.takeWhile isBlank = [] then [] else [t.takeWhile isBlank] := by
  rw [matchAll_eq_pieces, pieces_leadingBlanks, Pieces.hits_append, Pieces.hits_map_plain,
    List.append_nil, Pieces.hits_ofRun]

theorem matchAll_trailingBlanks (t : Text) :
    trailingBlanks.matchAll t =
      if t.rtakeWhile isBlank = [] then [] else [t.rtakeWhile isBlank] := by
  rw [matchAll_eq_pieces, pieces_trailingBlanks, Pieces.hits_append, Pieces.hits_map_plain,
    List.nil_append, Pieces.hits_ofRun]

end Pattern

namespace Text

theorem trimLeft_eq (t : Text) : t.trimLeft = t.dropWhile isBlank :=
  Pattern.removeAll_leadingBlanks t

theorem trimRight_eq (t : Text) : t.trimRight = t.rdropWhile isBlank :=
  Pattern.removeAll_trailingBlanks t

theorem strip_eq (t : Text) : t.strip = (t.dropWhile isBlank).rdropWhile isBlank := rfl

/-- Only blanks are taken off. -/
theorem exists_strip (t : Text) :
    ∃ a b : Text, (∀ c ∈ a, isBlank c = true) ∧ (∀ c ∈ b, isBlank c = true) ∧
      t = a ++ t.strip ++ b := by
  refine ⟨t.takeWhile isBlank, (t.dropWhile isBlank).rtakeWhile isBlank,
    fun c hc => List.mem_takeWhile_imp hc, fun c hc => List.mem_rtakeWhile_imp hc, ?_⟩
  rw [strip_eq, List.append_assoc, List.rdropWhile_append_rtakeWhile,
    List.takeWhile_append_dropWhile]

theorem trim_both (t : Text) : t.trim .both = t.strip := by
  rw [trim, trimLeft_eq, trimRight_eq, strip_eq]

/-! ## What is left -/

structure Trimmed (t : Text) : Prop where
  first : ∀ c, t.head? = some c → isBlank c = false
  last : ∀ c, t.getLast? = some c → isBlank c = false

theorem not_blank_of_head?_dropWhile {t : Text} {c : Char} (h : (t.dropWhile isBlank).head? = some c) :
    isBlank c = false := by
  have hstop := List.head?_dropWhile_not isBlank t
  simpa [h] using hstop

theorem not_blank_of_getLast?_rdropWhile {t : Text} {c : Char}
    (h : (t.rdropWhile isBlank).getLast? = some c) : isBlank c = false := by
  obtain ⟨rest, hrest⟩ := List.getLast?_eq_some_iff.mp h
  have hne : t.rdropWhile isBlank ≠ [] := by simp [hrest]
  have hstop := List.rdropWhile_last_not isBlank t hne
  simpa [hrest] using hstop

theorem trimmed_strip (t : Text) : t.strip.Trimmed := by
  rw [strip_eq]
  refine ⟨fun c hc => ?_, fun c hc => not_blank_of_getLast?_rdropWhile hc⟩
  obtain ⟨more, hmore⟩ := List.rdropWhile_prefix isBlank (t.dropWhile isBlank)
  refine not_blank_of_head?_dropWhile (t := t) ?_
  rw [← hmore, List.head?_append, hc]
  rfl

theorem Trimmed.dropWhile_eq {t : Text} (h : t.Trimmed) : t.dropWhile isBlank = t := by
  cases t with
  | nil => rfl
  | cons c t => exact List.dropWhile_cons_of_neg (by simp [h.first c rfl])

theorem Trimmed.rdropWhile_eq {t : Text} (h : t.Trimmed) : t.rdropWhile isBlank = t := by
  refine List.rdropWhile_eq_self_iff.mpr fun hne => ?_
  simp [h.last _ (List.getLast?_eq_some_getLast hne)]

theorem rdropWhile_append_blanks {b : Text} (hb : ∀ c ∈ b, isBlank c = true) (t : Text) :
    (t ++ b).rdropWhile isBlank = t.rdropWhile isBlank := by
  have hreverse : ∀ c ∈ b.reverse, isBlank c = true := fun c hc => hb c (List.mem_reverse.mp hc)
  rw [List.rdropWhile, List.reverse_append, List.dropWhile_append_of_pos hreverse, List.rdropWhile]

/-- However blanks are taken off, it is the same text that is left when neither of its ends is blank. -/
theorem Trimmed.strip_append {a s b : Text} (h : s.Trimmed) (ha : ∀ c ∈ a, isBlank c = true)
    (hb : ∀ c ∈ b, isBlank c = true) : (a ++ s ++ b).strip = s := by
  rw [strip_eq, List.append_assoc, List.dropWhile_append_of_pos ha]
  cases s with
  | nil =>
      rw [List.nil_append, List.dropWhile_eq_nil_iff.mpr hb]
      rfl
  | cons c s =>
      have hc : ¬ isBlank c = true := by simp [h.first c rfl]
      rw [List.cons_append, List.dropWhile_cons_of_neg hc, ← List.cons_append,
        rdropWhile_append_blanks hb, h.rdropWhile_eq]

theorem Trimmed.strip_eq {s : Text} (h : s.Trimmed) : s.strip = s := by
  rw [Text.strip_eq, h.dropWhile_eq, h.rdropWhile_eq]

/-! ## The longest runs at the ends -/

structure BlankStart (t run : Text) : Prop where
  blank : ∀ c ∈ run, isBlank c = true
  begins : run <+: t
  longest : ∀ w, (∀ c ∈ w, isBlank c = true) → w <+: t → w <+: run

structure BlankEnd (t run : Text) : Prop where
  blank : ∀ c ∈ run, isBlank c = true
  ends : run <:+ t
  longest : ∀ w, (∀ c ∈ w, isBlank c = true) → w <:+ t → w <:+ run

theorem blankStart_takeWhile (t : Text) : t.BlankStart (t.takeWhile isBlank) := by
  refine ⟨fun c hc => List.mem_takeWhile_imp hc, List.takeWhile_prefix isBlank, ?_⟩
  rintro w hw ⟨rest, rfl⟩
  rw [List.takeWhile_append_of_pos hw]
  exact List.prefix_append w _

theorem blankEnd_rtakeWhile (t : Text) : t.BlankEnd (t.rtakeWhile isBlank) := by
  refine ⟨fun c hc => List.mem_rtakeWhile_imp hc, List.rtakeWhile_suffix isBlank t, ?_⟩
  rintro w hw ⟨rest, rfl⟩
  have hblank : ∀ c ∈ w.reverse, isBlank c = true := fun c hc => hw c (List.mem_reverse.mp hc)
  rw [List.rtakeWhile, List.reverse_append, List.takeWhile_append_of_pos hblank,
    List.reverse_append, List.reverse_reverse]
  exact List.suffix_append _ w

/-! ## Sides in any order -/

theorem strip_eq_dropWhile_rdropWhile (t : Text) :
    t.strip = (t.rdropWhile isBlank).dropWhile isBlank := by
  have hkept : Trimmed ((t.rdropWhile isBlank).dropWhile isBlank) := by
    refine ⟨fun c hc => not_blank_of_head?_dropWhile hc, fun c hc => ?_⟩
    obtain ⟨more, hmore⟩ := List.dropWhile_suffix (l := t.rdropWhile isBlank) isBlank
    refine not_blank_of_getLast?_rdropWhile (t := t) ?_
    rw [← hmore, List.getLast?_append, hc]
    rfl
  have hstrip := hkept.strip_append (a := (t.rdropWhile isBlank).takeWhile isBlank)
    (b := t.rtakeWhile isBlank) (fun c hc => List.mem_takeWhile_imp hc)
    fun c hc => List.mem_rtakeWhile_imp hc
  rwa [List.takeWhile_append_dropWhile, List.rdropWhile_append_rtakeWhile] at hstrip

theorem trim_trim (t : Text) (side : Side) : (t.trim side).trim side = t.trim side := by
  cases side with
  | both => rw [trim_both, trim_both, (trimmed_strip t).strip_eq]
  | left => rw [trim, trim, trimLeft_eq, trimLeft_eq, List.dropWhile_idempotent]
  | right => rw [trim, trim, trimRight_eq, trimRight_eq, List.rdropWhile_idempotent]

/-- Trimming is done by removing all matches of two patterns, and takes off exactly the blanks at the
ends: what is left is in the text between blanks, and neither of its ends is blank. On one side all that
the search finds is the longest run of blanks there. So the sides may be trimmed in any order, and what
is trimmed stays as it is. -/
theorem trim_takes_blank_ends (t : Text) :
    (∃ u v : Text, (∀ c ∈ u, isBlank c = true) ∧ (∀ c ∈ v, isBlank c = true) ∧
      t = u ++ t.trim .both ++ v) ∧
    (t.trim .both).Trimmed ∧
    (∃ leading run, Needle.read "^\\s+" false = .ok leading ∧
      leading.removeAll t = .ok (t.trim .left) ∧
      leading.matchAll t = (if run = [] then [] else [run]) ∧
      t.BlankStart run ∧ t = run ++ t.trim .left) ∧
    (∃ trailing run, Needle.read "\\s+$" false = .ok trailing ∧
      trailing.removeAll t = .ok (t.trim .right) ∧
      trailing.matchAll t = (if run = [] then [] else [run]) ∧
      t.BlankEnd run ∧ t = t.trim .right ++ run) ∧
    t.trim .both = (t.trim .left).trim .right ∧
    t.trim .both = (t.trim .right).trim .left ∧
    ∀ side, (t.trim side).trim side = t.trim side := by
  have hleft : t.trim .left = t.dropWhile isBlank := trimLeft_eq t
  have hright : t.trim .right = t.rdropWhile isBlank := trimRight_eq t
  refine ⟨?_, ?_, ⟨_, t.takeWhile isBlank, Pattern.read_leadingBlanks, rfl,
    Pattern.matchAll_leadingBlanks t, blankStart_takeWhile t, ?_⟩,
    ⟨_, t.rtakeWhile isBlank, Pattern.read_trailingBlanks, rfl,
    Pattern.matchAll_trailingBlanks t, blankEnd_rtakeWhile t, ?_⟩, rfl, ?_, trim_trim t⟩
  · rw [trim_both]
    exact exists_strip t
  · rw [trim_both]
    exact trimmed_strip t
  · rw [hleft, List.takeWhile_append_dropWhile]
  · rw [hright, List.rdropWhile_append_rtakeWhile]
  · rw [trim_both, hright, trim, trimLeft_eq, strip_eq_dropWhile_rdropWhile]

end Text

end Hypertag
