import Hypertag.Pattern.Matcher

/-!
# Runs of characters

A repetition of a test on one character takes the longest run of characters that pass and gives back
one after the other while what follows does not fit. Fuel and the rule against empty repetitions
play no part in it: each repetition takes a character, and there is fuel for all of them.
-/

namespace Hypertag.Node

/-- The run from a place on, then what follows it, tried at the end of the run first. -/
def takeRun (test : CharTest) (next : Continuation) (captured : List (Nat × Text)) :
    Nat → Text → Option Cursor
  | position, [] => next ⟨position, [], captured⟩
  | position, c :: rest =>
      if test.holds c then
        (takeRun test next captured (position + 1) rest).orElse
          fun _ => next ⟨position, c :: rest, captured⟩
      else next ⟨position, c :: rest, captured⟩

variable (test : CharTest) (next : Continuation) (captured : List (Nat × Text))

@[simp] theorem matchThen_one_nil (position : Nat) :
    (one test).matchThen ⟨position, [], captured⟩ next = none := rfl

@[simp] theorem matchThen_one_cons (position : Nat) (c : Char) (rest : Text) :
    (one test).matchThen ⟨position, c :: rest, captured⟩ next =
      if test.holds c then next ⟨position + 1, rest, captured⟩ else none := rfl

theorem further_eq_takeRun (fuel : Text) (last : Option Nat) (position : Nat) (rest : Text)
    (hfuel : rest.length < fuel.length) (hlast : last ≠ some position) :
    Step.further (one test).matchThen false next fuel none last ⟨position, rest, captured⟩ =
      takeRun test next captured position rest := by
  induction rest generalizing fuel last position with
  | nil =>
      cases fuel with
      | nil => simp at hfuel
      | cons f fuel => simp [Step.further, takeRun]
  | cons c rest ih =>
      cases fuel with
      | nil => simp at hfuel
      | cons f fuel =>
          have hshort : rest.length < fuel.length := by simpa using hfuel
          have hmoved : some position ≠ some (position + 1) := by simp
          rw [Step.further, takeRun]
          by_cases hc : test.holds c
          · simp [hc, hlast, ih fuel _ _ hshort hmoved]
          · simp [hc]

/-- Any number of characters. -/
theorem matchThen_star (position : Nat) (rest : Text) :
    (repeated (one test) 0 none .greedy).matchThen ⟨position, rest, captured⟩ next =
      takeRun test next captured position rest := by
  rw [matchThen, Step.repeated, Step.times]
  exact further_eq_takeRun test next captured _ none position rest
    (by simp only [List.length_cons]; omega) (by simp)

@[simp] theorem matchThen_run_nil (position : Nat) :
    (run test).matchThen ⟨position, [], captured⟩ next = none := rfl

/-- At least one character. -/
@[simp] theorem matchThen_run_cons (position : Nat) (c : Char) (rest : Text) :
    (run test).matchThen ⟨position, c :: rest, captured⟩ next =
      if test.holds c then takeRun test next captured (position + 1) rest else none := by
  have hrest := further_eq_takeRun test next captured (' ' :: ' ' :: rest) none (position + 1) rest
    (by simp only [List.length_cons]; omega) (by simp)
  rw [run, matchThen, Step.repeated, Step.times, matchThen_one_cons]
  simp only [Step.times, Option.map_none, hrest]

/-- When what follows fits at the end of the run, that is the match. -/
theorem takeRun_eq_some (n : Nat) (rest : Text) {d : Cursor}
    (h : next ⟨n + (rest.takeWhile test.holds).length, rest.dropWhile test.holds, captured⟩ =
      some d) :
    takeRun test next captured n rest = some d := by
  induction rest generalizing n with
  | nil => simpa [takeRun] using h
  | cons c rest ih =>
      by_cases hc : test.holds c
      · have hrec := ih (n + 1) (by
          simpa [hc, Nat.add_assoc, Nat.add_comm 1] using h)
        simp [takeRun, hc, hrec]
      · simpa [takeRun, hc] using h

/-- When what follows never begins with a character of the run, nothing is given back. -/
theorem takeRun_of_refused
    (hrefused : ∀ position c rest, test.holds c = true →
      next ⟨position, c :: rest, captured⟩ = none)
    (position : Nat) (rest : Text) :
    takeRun test next captured position rest =
      next ⟨position + (rest.takeWhile test.holds).length, rest.dropWhile test.holds,
        captured⟩ := by
  induction rest generalizing position with
  | nil => simp [takeRun]
  | cons c rest ih =>
      by_cases hc : test.holds c
      · simp [takeRun, hc, ih, hrefused position c rest hc, Nat.add_assoc, Nat.add_comm 1]
      · simp [takeRun, hc]

end Hypertag.Node
