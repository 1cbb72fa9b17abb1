import Hypertag.Command.Run

/-!
# Where arguments lead

The arguments of a run, after those of its groups and the settings they name, lead to one command with
arguments of its own. What the command does is then what the run does, and how it ends decides the
outcome.
-/

namespace Hypertag.Command

def begun (s : Session) : Session := { s with console := .command, commandConsole := [] }

/-- The arguments lead to a command: under which settings, with which arguments of its own, and in which
session, after the settings were taken. -/
inductive LeadsTo (arguments : List Text) (s : Session) :
    Root → Verb → Config → List Text → Session → Prop where
  | selector {v : Verb} {rest : List Text}
      (named : reached .selector s.files .selector arguments = .ok (v, rest)) :
      LeadsTo arguments s .selector v .default rest s
  | template {v : Verb} {rest : List Text}
      (named : reached .template s.files .template arguments = .ok (v, rest)) :
      LeadsTo arguments s .template v .default rest s
  | program {p : Parsed Key} {v group : Verb} {inner rest : List Text} {config : Config} {t : Session}
      (options : readGroup .program s.files .program arguments = .ok p)
      (member : resolve .program s.files .program p.operands = .ok (group, inner))
      (settings : loadConfig s.files (p.value? .config) = .ok config)
      (configured : configure config (p.has .verbose) s = (.ok (), t))
      (named : reached .program t.files group inner = .ok (v, rest)) :
      LeadsTo arguments s .program v config rest t

section

variable {root : Root} {stdin : Bytes} {arguments rest : List Text} {s t after : Session} {v : Verb}
  {config : Config}

theorem execute_of_leadsTo (h : LeadsTo arguments s root v config rest t) :
    execute root stdin arguments s = runCommand root v config stdin rest t := by
  cases h with
  | selector named =>
      rw [execute, runGroup, named]
  | template named =>
      rw [execute, runGroup, named]
  | program options member settings configured named =>
      rw [execute, runProgram, options]
      simp only [bind, Except.bind, member, settings, pure, Except.pure, configured]
      rw [runGroup, named]

section Program

variable {p : Parsed Key} {group : Verb} {inner : List Text} {halt : Halt}

theorem runProgram_of_unread
    (hread : readGroup .program s.files .program arguments = .error halt) :
    runProgram stdin arguments s = (.error halt, s) := by
  rw [runProgram, hread]
  rfl

theorem runProgram_of_unresolved (hread : readGroup .program s.files .program arguments = .ok p)
    (hresolve : resolve .program s.files .program p.operands = .error halt) :
    runProgram stdin arguments s = (.error halt, s) := by
  rw [runProgram, hread]
  simp only [bind, Except.bind, hresolve]

theorem runProgram_of_unloaded (hread : readGroup .program s.files .program arguments = .ok p)
    (hresolve : resolve .program s.files .program p.operands = .ok (group, inner))
    (hconfig : loadConfig s.files (p.value? .config) = .error halt) :
    runProgram stdin arguments s = (.error halt, s) := by
  rw [runProgram, hread]
  simp only [bind, Except.bind, hresolve, hconfig]

theorem runProgram_of_loaded (hread : readGroup .program s.files .program arguments = .ok p)
    (hresolve : resolve .program s.files .program p.operands = .ok (group, inner))
    (hconfig : loadConfig s.files (p.value? .config) = .ok config) :
    runProgram stdin arguments s =
      match configure config (p.has .verbose) s with
      | (.error halt, t) => (.error halt, t)
      | (.ok (), t) => runGroup .program group config stdin inner t := by
  rw [runProgram, hread]
  rcases hconfigure : configure config (p.has .verbose) s with ⟨r, t⟩
  cases r with
  | error halt =>
      simp only [bind, Except.bind, hresolve, hconfig, pure, Except.pure, hconfigure]
  | ok _ =>
      simp only [bind, Except.bind, hresolve, hconfig, pure, Except.pure, hconfigure]

end Program

/-- All but what the consoles show is decided by the result. -/
theorem outcome_of_result {arguments' : List Text} {s' : Session}
    (h : (execute root stdin arguments' (begun s')).1 = (execute root stdin arguments (begun s)).1) :
    (run root stdin arguments' s').1.stdout = (run root stdin arguments s).1.stdout ∧
      (run root stdin arguments' s').1.exitCode = (run root stdin arguments s).1.exitCode ∧
      (run root stdin arguments' s').1.crash = (run root stdin arguments s).1.crash := by
  unfold begun at h
  unfold run
  generalize execute root stdin arguments { s with console := .command, commandConsole := [] } = x at h
  generalize execute root stdin arguments' { s' with console := .command, commandConsole := [] } = y
    at h
  obtain ⟨r, t⟩ := x
  obtain ⟨r', t'⟩ := y
  obtain rfl : r' = r := h
  cases r' with
  | ok output => exact ⟨rfl, rfl, rfl⟩
  | error halt => exact ⟨rfl, rfl, rfl⟩

theorem run_of_output {output : Text}
    (h : execute root stdin arguments (begun s) = (.ok output, after)) :
    (run root stdin arguments s).1.exitCode = 0 ∧ (run root stdin arguments s).1.stdout = output ∧
      (run root stdin arguments s).1.crash = none := by
  unfold begun at h
  unfold run
  rw [h]
  exact ⟨rfl, rfl, rfl⟩

theorem run_of_abort {message : Text}
    (h : execute root stdin arguments (begun s) = (.error (.abort message), after)) :
    (run root stdin arguments s).1.exitCode = 1 ∧ (run root stdin arguments s).1.stdout = [] ∧
      (run root stdin arguments s).1.crash = none := by
  unfold begun at h
  unfold run
  rw [h]
  exact ⟨rfl, rfl, rfl⟩

end

end Hypertag.Command
