import Hypertag.Proofs.Pattern.Escape
import Hypertag.Proofs.Scan.Measures

/-!
# The two paths of a literal

Plain text is searched for by comparing it with the text at each place, in loops of its own. The pattern
that it is written as finds the same pieces, so every operation gives the same either way.
-/

namespace Hypertag

/-! ## Matching a row of characters -/

namespace Pattern

open Node

theorem matchThen_sequence_cons (node : Node) (nodes : List Node) (c : Cursor)
    (next : Continuation) :
    (sequence (node :: nodes)).matchThen c next =
      node.matchThen c fun d => (sequence nodes).matchThen d next := by
  cases nodes <;> rfl

theorem matchThen_exactly (p : Text) (n : Nat) (t : Text) (captured : List (Nat × Text))
    (next : Continuation) :
    (exactly p).matchThen ⟨n, t, captured⟩ next =
      if p.isPrefixOf t then next ⟨n + p.length, t.drop p.length, captured⟩ else none := by
  induction p generalizing n t with
  | nil => rfl
  | cons c p ih =>
      rw [exactly, List.map_cons, matchThen_sequence_cons]
      cases t with
      | nil => rfl
      | cons d t =>
          rw [matchThen_one_cons, ← exactly, ih, List.length_cons, List.drop_succ_cons,
            Nat.add_assoc, Nat.add_comm 1]
          by_cases hd : d = c
          · simp [hd, CharTest.holds]
          · simp [hd, Ne.symm hd, CharTest.holds]

theorem measuredBy_exactly {p : Text} (hp : p ≠ []) :
    MeasuredBy ⟨exactly p, []⟩ (Literal.measure p) := by
  refine measuredBy_of_matchThen (Literal.measure_le p) fun n t => ?_
  rw [matchThen_exactly, Literal.measure]
  by_cases hpre : p.isPrefixOf t <;> simp [hpre, hp]

/-- Matches that overlap an earlier one are passed over alike. -/
theorem scanned_exactly {p : Text} (hp : p ≠ []) (t : Text) :
    Scanned (Literal.measure p) 0 t (pieces ⟨exactly p, []⟩ t) :=
  (measuredBy_exactly hp).scanned_pieces t

end Pattern

/-! ## Both paths -/

namespace Needle

open Pattern (escape doubled exactly scanned_exactly)

theorem read_escape (p : Text) :
    read (escape p) false = .ok (.pattern (Pattern.engine ⟨exactly p, []⟩)) :=
  read_of_pattern (Pattern.read_escape p)

theorem readTemplate_doubled (e : Engine) (r : Text) :
    readTemplate e (doubled r) = .ok (r.map fun c => .text [c]) := by
  rw [readTemplate, Pattern.Replacement.read_doubled]
  rfl

section Exactly

variable {p : Text} (hp : p ≠ []) (t : Text)

include hp

theorem detect_exactly :
    (pattern (Pattern.engine ⟨exactly p, []⟩)).detect t = (literal p).detect t := by
  rw [detect, detect, Engine.detect_eq_pieces, Literal.detect_eq_pieces hp (scanned_exactly hp t)]

theorem matchFirst?_exactly :
    (pattern (Pattern.engine ⟨exactly p, []⟩)).matchFirst? t = (literal p).matchFirst? t := by
  rw [matchFirst?, matchFirst?, Engine.matchFirst?_eq_pieces,
    Literal.matchFirst?_eq_pieces hp (scanned_exactly hp t)]

theorem matchAll_exactly :
    (pattern (Pattern.engine ⟨exactly p, []⟩)).matchAll t = (literal p).matchAll t := by
  rw [matchAll, matchAll, Engine.matchAll_eq_pieces,
    Literal.matchAll_eq_pieces hp (scanned_exactly hp t)]

theorem exists_split_exactly :
    ∃ parts, (literal p).split t = .ok parts ∧
      (pattern (Pattern.engine ⟨exactly p, []⟩)).split t = .ok parts := by
  refine ⟨(Pieces.between (Pattern.pieces ⟨exactly p, []⟩ t)).map some, ?_, ?_⟩
  · rw [split, Literal.split?_eq_pieces hp (scanned_exactly hp t)]
  · rw [split, Engine.split_eq_pieces]
    exact congrArg Except.ok (Pieces.withGroups_zero _)

theorem replaceFirst_exactly (r : Text) :
    (pattern (Pattern.engine ⟨exactly p, []⟩)).replaceFirst (doubled r) t =
      .ok (Literal.replaceFirst p r t) := by
  rw [replaceFirst, readTemplate_doubled, Except.map, Engine.replace_one_eq_pieces,
    funext (Pattern.Replacement.expand_map_text r),
    Literal.replaceFirst_eq_pieces hp (scanned_exactly hp t)]

theorem replaceAll_exactly (r : Text) :
    (pattern (Pattern.engine ⟨exactly p, []⟩)).replaceAll (doubled r) t =
      .ok (Literal.replaceAll p r t) := by
  rw [replaceAll, readTemplate_doubled, Except.map, Engine.replace_all_eq_pieces,
    funext (Pattern.Replacement.expand_map_text r),
    Literal.replaceAll_eq_pieces hp (scanned_exactly hp t)]

/-- A literal with a character and the pattern it is written as give the same result of every scan, and
neither refuses anything. -/
theorem literal_agrees_with_escaped :
    ∃ l n, read p true = .ok l ∧ read (escape p) false = .ok n ∧ ∀ t,
      n.detect t = l.detect t ∧ n.matchFirst? t = l.matchFirst? t ∧ n.matchAll t = l.matchAll t ∧
      (∃ parts, l.split t = .ok parts ∧ n.split t = .ok parts) ∧
      (∃ u, l.removeFirst t = .ok u ∧ n.removeFirst t = .ok u) ∧
      (∃ u, l.removeAll t = .ok u ∧ n.removeAll t = .ok u) ∧
      ∀ r, (∃ u, l.replaceFirst r t = .ok u ∧ n.replaceFirst (doubled r) t = .ok u) ∧
        ∃ u, l.replaceAll r t = .ok u ∧ n.replaceAll (doubled r) t = .ok u := by
  refine ⟨.literal p, .pattern (Pattern.engine ⟨exactly p, []⟩), rfl, read_escape p, fun t => ?_⟩
  refine ⟨detect_exactly hp t, matchFirst?_exactly hp t, matchAll_exactly hp t,
    exists_split_exactly hp t, ?_, ?_, fun r => ⟨?_, ?_⟩⟩
  · exact ⟨_, rfl, replaceFirst_exactly hp t []⟩
  · exact ⟨_, rfl, replaceAll_exactly hp t []⟩
  · exact ⟨_, rfl, replaceFirst_exactly hp t r⟩
  · exact ⟨_, rfl, replaceAll_exactly hp t r⟩

end Exactly

/-- A literal that overlaps itself and is written with backslashes, and a replacement that would be a
reference without one. -/
theorem dots_written_as_pattern :
    "..".toList ≠ [] ∧ ∃ n, read "\\.\\.".toList false = .ok n ∧
      n.matchAll "x.....".toList = ["..".toList, "..".toList] ∧
      n.split "x.....".toList = .ok [some ['x'], some [], some ['.']] ∧
      n.replaceAll "\\\\1".toList "x.....".toList = .ok "x\\1\\1.".toList := by
  have hp : "..".toList ≠ [] := by decide
  have hescape : escape "..".toList = "\\.\\.".toList := by decide
  have hdoubled : doubled "\\1".toList = "\\\\1".toList := by decide
  obtain ⟨l, n, hl, hn, hsame⟩ := literal_agrees_with_escaped hp
  obtain rfl := Except.ok.inj hl
  obtain ⟨-, -, hall, ⟨parts, hparts, hsplit⟩, -, -, hreplaced⟩ := hsame "x.....".toList
  obtain ⟨-, u, hu, hreplace⟩ := hreplaced "\\1".toList
  rw [hescape] at hn
  rw [hdoubled] at hreplace
  refine ⟨hp, n, hn, hall.trans (by decide), hsplit.trans ?_, hreplace.trans ?_⟩
  · exact hparts.symm.trans rfl
  · exact hu.symm.trans rfl

end Needle

end Hypertag
