import Hypertag.Proofs.Pattern.Run
import Hypertag.Proofs.Scan.Cuts

/-!
# Measures of simple patterns

The patterns that read selectors are runs of characters, single characters and anchors in a row. For
each such form the measure is a function of the text alone, with `takeWhile` for a run.
-/

namespace Hypertag.Pattern

open Node

theorem measuredBy_of_matchThen {p : Pattern} {m : Measure} (hbound : ∀ n t, m n t ≤ t.length)
    (h : ∀ n t, p.root.matchThen ⟨n, t, []⟩ some =
      if m n t = 0 then none else some ⟨n + m n t, t.drop (m n t), []⟩) : p.MeasuredBy m := by
  refine ⟨hbound, fun n t => ?_⟩
  have haccept : (fun d : Cursor => if (false && d.position == n) = true then none else some d) =
      some := by
    funext d
    simp
  rw [matchAt?]
  simp only [haccept, h]
  split <;> simp [Cursor.since]

/-! ## Runs -/

def runLength (test : CharTest) (t : Text) : Nat := (t.takeWhile test.holds).length

theorem runLength_le (test : CharTest) (t : Text) : runLength test t ≤ t.length :=
  (List.takeWhile_sublist _).length_le

theorem dropWhile_eq_drop (test : CharTest) (t : Text) :
    t.dropWhile test.holds = t.drop (runLength test t) := by
  induction t with
  | nil => rfl
  | cons c t ih =>
      by_cases hc : test.holds c
      · simpa [runLength, hc] using ih
      · simp [runLength, hc]

theorem matchThen_run_some (test : CharTest) (n : Nat) (t : Text) :
    (run test).matchThen ⟨n, t, []⟩ some =
      if runLength test t = 0 then none
      else some ⟨n + runLength test t, t.drop (runLength test t), []⟩ := by
  cases t with
  | nil => rfl
  | cons c t =>
      by_cases hc : test.holds c
      · have hrun := takeRun_eq_some test some [] (n + 1) t rfl
        rw [dropWhile_eq_drop] at hrun
        simp [hc, hrun, runLength, Nat.add_assoc, Nat.add_comm 1]
      · simp [hc, runLength]

theorem measuredBy_run (test : CharTest) :
    MeasuredBy ⟨run test, []⟩ fun _ t => runLength test t :=
  measuredBy_of_matchThen (fun _ t => runLength_le test t) fun n t => matchThen_run_some test n t

theorem measuredBy_atStart_run (test : CharTest) :
    MeasuredBy ⟨.sequence [.atStart, .run test], []⟩ fun n t =>
      if n = 0 then runLength test t else 0 := by
  refine measuredBy_of_matchThen (fun n t => ?_) fun n t => ?_
  · have hle := runLength_le test t
    split <;> omega
  · rw [Node.sequence, Node.sequence, matchThen, matchThen]
    by_cases hn : n = 0
    · simp [hn, matchThen_run_some]
    · simp [hn]

def markedLength (mark : Char) (test : CharTest) : Text → Nat
  | [] => 0
  | c :: t => if c = mark ∧ runLength test t ≠ 0 then runLength test t + 1 else 0

theorem measuredBy_marked (mark : Char) (test : CharTest) :
    MeasuredBy ⟨.sequence [.one (.exactly mark), .run test], []⟩ fun _ t =>
      markedLength mark test t := by
  refine measuredBy_of_matchThen (fun _ t => ?_) fun n t => ?_
  · cases t with
    | nil => simp [markedLength]
    | cons c t =>
        have hle := runLength_le test t
        simp only [markedLength, List.length_cons]
        split <;> omega
  · rw [Node.sequence, Node.sequence, matchThen]
    cases t with
    | nil => rfl
    | cons c t =>
        by_cases hc : c = mark
        · by_cases hrun : runLength test t = 0
          · simp [hc, hrun, matchThen_run_some, markedLength, CharTest.holds]
          · simp [hc, hrun, matchThen_run_some, markedLength, CharTest.holds, Nat.add_assoc,
              Nat.add_comm 1]
        · simp [hc, markedLength, CharTest.holds]

/-! ## Single characters at an anchor -/

theorem matchThen_atEnd (n : Nat) (t : Text) (captured : List (Nat × Text)) (next : Continuation) :
    atEnd.matchThen ⟨n, t, captured⟩ next =
      if t = [] ∨ t = ['\n'] then next ⟨n, t, captured⟩ else none := by
  simp [matchThen]

theorem measuredBy_atStart_one (mark : Char) :
    MeasuredBy ⟨.sequence [.atStart, .one (.exactly mark)], []⟩ fun n t =>
      if n = 0 ∧ t.head? = some mark then 1 else 0 := by
  refine measuredBy_of_matchThen (fun n t => ?_) fun n t => ?_
  · cases t with
    | nil => simp
    | cons c t => split <;> simp
  · rw [Node.sequence, Node.sequence, matchThen, matchThen]
    cases t with
    | nil => simp
    | cons c t =>
        by_cases hn : n = 0
        · by_cases hc : c = mark <;> simp [hn, hc, CharTest.holds]
        · simp [hn]

theorem measuredBy_one_atEnd (mark : Char) :
    MeasuredBy ⟨.sequence [.one (.exactly mark), .atEnd], []⟩ fun _ t =>
      if t = [mark] ∨ t = [mark, '\n'] then 1 else 0 := by
  refine measuredBy_of_matchThen (fun n t => ?_) fun n t => ?_
  · split
    · next h => rcases h with rfl | rfl <;> simp
    · exact Nat.zero_le _
  · rw [Node.sequence, Node.sequence, matchThen]
    cases t with
    | nil => simp
    | cons c t =>
        by_cases hc : c = mark
        · by_cases ht : t = [] ∨ t = ['\n']
          · rcases ht with rfl | rfl <;> simp [hc, matchThen_atEnd, CharTest.holds]
          · simp only [not_or] at ht
            simp [hc, ht, matchThen_atEnd, CharTest.holds]
        · simp [hc, CharTest.holds]

/-! ## Blanks -/

theorem holds_blank : (CharTest.named .blank).holds = isBlank := rfl

/-- Blanks up to the end; a newline at the end is a blank, so the end is never taken to be before
it. -/
private theorem takeRun_blank_atEnd (n : Nat) (t : Text) :
    takeRun (.named .blank) (fun d => atEnd.matchThen d some) [] n t =
      if t.dropWhile isBlank = [] then some ⟨n + t.length, [], []⟩ else none := by
  induction t generalizing n with
  | nil => simp [takeRun, matchThen_atEnd]
  | cons c t ih =>
      rw [takeRun, holds_blank]
      by_cases hc : isBlank c
      · by_cases ht : t.dropWhile isBlank = []
        · simp [hc, ih, ht, Nat.add_assoc, Nat.add_comm 1]
        · have hne : t ≠ [] := by
            intro heq
            subst heq
            exact ht rfl
          simp [hc, ih, ht, matchThen_atEnd, hne]
      · have hnewline : c ≠ '\n' := by
          intro heq
          subst heq
          exact hc (by decide)
        simp [hc, matchThen_atEnd, hnewline]

theorem measuredBy_trailingBlanks :
    MeasuredBy trailingBlanks fun _ t => if t.dropWhile isBlank = [] then t.length else 0 := by
  refine measuredBy_of_matchThen (fun n t => ?_) fun n t => ?_
  · split <;> simp
  · rw [trailingBlanks, Node.sequence, Node.sequence, matchThen]
    cases t with
    | nil => simp
    | cons c t =>
        rw [matchThen_run_cons, holds_blank]
        by_cases hc : isBlank c
        · rw [if_pos hc, takeRun_blank_atEnd, List.dropWhile_cons_of_pos hc]
          split <;> simp [Nat.add_assoc, Nat.add_comm 1]
        · simp [hc]

end Hypertag.Pattern
