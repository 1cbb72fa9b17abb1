import Hypertag.Proofs.Report
import Hypertag.Proofs.Results
import Hypertag.Proofs.Workspace.Files

/-!
# Checking and loading settings

Settings are accepted from a file's content alone. Checking gives a verdict on the file, and loading
raises what the verdict says.
-/

namespace Hypertag.Config

variable {w : Workspace} {p : Path}

theorem exists?_of_read {content : Bytes} (h : w.read p = .ok content) : w.exists? p = .ok true := by
  rw [Workspace.exists?, (Workspace.read_eq_ok_iff w p content).mp h]

theorem check_eq_ok_iff (w : Workspace) (p : Path) (c : Config) :
    check w p = .ok (.ok c) ↔ ∃ content, w.read p = .ok content ∧ ofBytes content = .ok c := by
  constructor
  · intro h
    rw [check] at h
    obtain ⟨there, -, h⟩ := exists_of_bind_ok h
    cases there with
    | false => cases h
    | true =>
        obtain ⟨content, hread, h⟩ := exists_of_bind_ok h
        refine ⟨content, mapError_eq_ok_iff.mp hread, ?_⟩
        split at h
        · cases h
        · exact Except.ok.inj h
  · rintro ⟨content, hread, hcontent⟩
    rw [check, exists?_of_read hread, hread]
    simp [Except.mapError, bind, Except.bind, hcontent, pure, Except.pure]

/-! ## The verdict -/

theorem validate_of_check {r : Except Rejection Config} (h : check w p = .ok r) :
    validate w p = .ok (.of r) := by
  rw [validate, h]
  rfl

theorem message_ne_nil (r : Rejection) : r.message ≠ [] := by
  unfold Rejection.message
  split <;> simp

theorem load_of_accepted {c : Config} (h : check w p = .ok (.ok c)) : load w p = .ok c := by
  rw [load, validate_of_check h]
  rfl

/-- A refusal is reported with the message that checking gives. -/
theorem load_of_refused {r : Rejection} (h : check w p = .ok (.error r)) :
    load w p = .error (.report (.ofSettings r.message p)) := by
  rw [load, validate_of_check h]
  cases hmessage : r.message with
  | nil => exact absurd hmessage (message_ne_nil r)
  | cons c rest => simp [Verdict.of, hmessage, Except.mapError, bind, Except.bind]

theorem load_of_obstacle {o : Obstacle} (h : check w p = .error o) :
    load w p = .error (.obstacle o) := by
  rw [load, validate, h]
  rfl

/-- Loading gives settings exactly where checking accepts them. -/
theorem load_eq_ok_iff (w : Workspace) (p : Path) (c : Config) :
    load w p = .ok c ↔ check w p = .ok (.ok c) := by
  refine ⟨fun h => ?_, load_of_accepted⟩
  cases hcheck : check w p with
  | error o =>
      rw [load_of_obstacle hcheck] at h
      cases h
  | ok r =>
      cases r with
      | error r =>
          rw [load_of_refused hcheck] at h
          cases h
      | ok d =>
          rw [load_of_accepted hcheck] at h
          rw [Except.ok.inj h]

/-- A verdict comes with settings exactly where checking accepts them, and then with no message. -/
theorem validate_eq_accepted_iff (w : Workspace) (p : Path) (c : Config) :
    validate w p = .ok ⟨true, none, some c⟩ ↔ check w p = .ok (.ok c) := by
  refine ⟨fun h => ?_, validate_of_check⟩
  obtain ⟨r, hcheck, hverdict⟩ := exists_of_map_ok h
  cases r with
  | error r => cases hverdict
  | ok d =>
      obtain rfl := Option.some.inj (Verdict.mk.inj hverdict).2.2
      exact hcheck

end Hypertag.Config
