import Hypertag.Proofs.Command.Arguments
import Hypertag.Proofs.Command.Leading
import Hypertag.Proofs.Selector.SameTokens

/-!
# How words are cut

Words are joined before they are read. So it does not matter where one ends and the next begins, nor
which blanks stand in them: command lines whose words have the same tokens end alike.
-/

namespace Hypertag.Command

/-- Both steps give the same output, or both halt in the same way after the same notes. -/
inductive EndAlike : Step Text → Step Text → Prop where
  | output (output : Text) (after after' : Session) :
      EndAlike (.ok output, after) (.ok output, after')
  | halted (halt : Halt) (after : Session) : EndAlike (.error halt, after) (.error halt, after)

theorem EndAlike.result {x y : Step Text} (h : EndAlike x y) : y.1 = x.1 := by
  cases h <;> rfl

/-- Runs that end alike are told apart by their notes at most, when they succeed. -/
theorem outcome_of_endAlike {root : Root} {stdin : Bytes} {arguments arguments' : List Text}
    {s : Session}
    (h : EndAlike (execute root stdin arguments (begun s)) (execute root stdin arguments' (begun s))) :
    (run root stdin arguments' s).1.stdout = (run root stdin arguments s).1.stdout ∧
      (run root stdin arguments' s).1.exitCode = (run root stdin arguments s).1.exitCode ∧
      (run root stdin arguments' s).1.crash = (run root stdin arguments s).1.crash ∧
      ((run root stdin arguments s).1.exitCode ≠ 0 →
        (run root stdin arguments' s).1.stderr = (run root stdin arguments s).1.stderr) := by
  obtain ⟨hstdout, hcode, hcrash⟩ := outcome_of_result h.result
  refine ⟨hstdout, hcode, hcrash, ?_⟩
  unfold begun at h
  unfold run
  generalize execute root stdin arguments { s with console := .command, commandConsole := [] } = x at h
  generalize execute root stdin arguments' { s with console := .command, commandConsole := [] } = y
    at h
  cases h with
  | output => exact fun hfailed => absurd rfl hfailed
  | halted => exact fun _ => rfl

/-- What stands before the words on a command line that has them parsed: settings of the program, when
it is called as a whole, and options of the command, of which none waits for a value. -/
structure WordLine where
  root : Root
  settings : List Text
  options : List Text
  parses : root ≠ .template
  given : ∃ read, parse Verb.program.specs false settings = .ok ⟨read, []⟩
  whole : ∀ name, parse Verb.parse.specs true options ≠ .error (.needsValue name)

namespace WordLine

variable {root : Root} {settings : List Text} {read : List (Key × Text)} {s : Session}

def own (l : WordLine) (words : List Text) : List Text := l.options ++ ['-', '-'] :: words

def arguments (l : WordLine) (words : List Text) : List Text :=
  match l.root with
  | .program => l.settings ++ "selector".toList :: "parse".toList :: l.own words
  | .selector | .template => "parse".toList :: l.own words

/-! ## How the words reach the command -/

theorem exists_readOptions (l : WordLine) (root : Root) :
    ∃ r : Except Halt (Parsed Key), ∀ words,
      readOptions root .parse (l.own words) = r.map fun p => ⟨p.options, p.operands ++ words⟩ := by
  obtain ⟨r, hr⟩ := exists_parse_marked l.whole
  refine ⟨accept root .parse r, fun words => ?_⟩
  rw [readOptions_eq_accept rfl]
  exact (congrArg (accept root .parse) (hr words)).trans
    (accept_map_operands root .parse r (· ++ words))

/-- Operands before the mark are words as well. -/
theorem exists_readParse (l : WordLine) (root : Root) :
    ∃ r : Except Halt (Option OutputFormat × List Text), ∀ words, words ≠ [] →
      readParse root (l.own words) = r.map fun (format, lead) => (format, lead ++ words) := by
  obtain ⟨r, hr⟩ := l.exists_readOptions root
  cases r with
  | error halt =>
      refine ⟨.error halt, fun words _ => ?_⟩
      rw [readParse, hr]
      rfl
  | ok p =>
      refine ⟨(readFormat .parse p).map fun format => (format, p.operands), fun words hwords => ?_⟩
      have hempty : (p.operands ++ words).isEmpty = false := by simp [hwords]
      have hformat : readFormat .parse ⟨p.options, p.operands ++ words⟩ = readFormat .parse p := rfl
      rw [readParse, hr]
      simp only [bind, Except.bind, Except.map, hformat, hempty]
      cases readFormat .parse p with
      | error halt => rfl
      | ok format => rfl

/-- The settings are taken before the group is looked at. -/
theorem exists_readGroup (h : parse Verb.program.specs false settings = .ok ⟨read, []⟩)
    (w : Workspace) :
    ∃ r : Except Halt Unit, ∀ rest,
      readGroup .program w .program (settings ++ "selector".toList :: rest) =
        r.map fun _ => ⟨read, "selector".toList :: rest⟩ := by
  have hoptions : ∀ rest, readOptions .program .program (settings ++ "selector".toList :: rest) =
      accept .program .program (.ok ⟨read, "selector".toList :: rest⟩) := by
    intro rest
    rw [readOptions_eq_accept (by simp)]
    exact congrArg (accept .program .program) (parse_append_operands h rfl)
  cases hshown : shown? .program .program read with
  | some halt =>
      refine ⟨.error halt, fun rest => ?_⟩
      rw [readGroup_eq_check, hoptions]
      simp only [accept, hshown, Except.map]
  | none =>
      refine ⟨checkSettings w (Parsed.value? ⟨read, []⟩ .config), fun rest => ?_⟩
      rw [readGroup_eq_check, hoptions]
      simp only [accept, hshown]
      rfl

/-- What comes of the settings does not depend on what stands behind the group. -/
theorem exists_runProgram (h : parse Verb.program.specs false settings = .ok ⟨read, []⟩)
    (stdin : Bytes) (s : Session) :
    (∃ halt t, ∀ rest,
      runProgram stdin (settings ++ "selector".toList :: rest) s = (.error halt, t)) ∨
    ∃ config t, ∀ rest, runProgram stdin (settings ++ "selector".toList :: rest) s =
      runGroup .program .selector config stdin rest t := by
  obtain ⟨r, hgroup⟩ := exists_readGroup h s.files
  cases r with
  | error halt => exact .inl ⟨halt, s, fun rest => runProgram_of_unread (hgroup rest)⟩
  | ok _ =>
      cases hconfig : loadConfig s.files (Parsed.value? ⟨read, []⟩ .config) with
      | error halt =>
          exact .inl ⟨halt, s, fun rest => runProgram_of_unloaded (hgroup rest) rfl hconfig⟩
      | ok config =>
          rcases hconfigure : configure config (Parsed.has ⟨read, []⟩ Key.verbose) s with ⟨r, t⟩
          have hsame : ∀ rest, configure config
              (Parsed.has ⟨read, "selector".toList :: rest⟩ Key.verbose) s = (r, t) :=
            fun _ => hconfigure
          cases r with
          | error halt =>
              refine .inl ⟨halt, t, fun rest => ?_⟩
              rw [runProgram_of_loaded (hgroup rest) rfl hconfig, hsame]
          | ok _ =>
              refine .inr ⟨config, t, fun rest => ?_⟩
              rw [runProgram_of_loaded (hgroup rest) rfl hconfig, hsame]

theorem exists_runGroup (l : WordLine) (root : Root) (config : Config) (stdin : Bytes) (t : Session) :
    (∃ halt, ∀ words, words ≠ [] →
      runGroup root .selector config stdin ("parse".toList :: l.own words) t = (.error halt, t)) ∨
    ∃ format lead, ∀ words, words ≠ [] →
      runGroup root .selector config stdin ("parse".toList :: l.own words) t =
        runParse format (lead ++ words) t := by
  have hreached : ∀ words, reached root t.files .selector ("parse".toList :: l.own words) =
      .ok (.parse, l.own words) := fun _ => rfl
  obtain ⟨r, hr⟩ := l.exists_readParse root
  cases r with
  | error halt =>
      refine .inl ⟨halt, fun words hwords => ?_⟩
      simp only [runGroup, hreached, runCommand, hr words hwords, Except.map]
  | ok read =>
      obtain ⟨format, lead⟩ := read
      refine .inr ⟨format.getD config.outputFormat, lead, fun words hwords => ?_⟩
      simp only [runGroup, hreached, runCommand, hr words hwords, Except.map]

/-- A run halts before it looks at the words, or parses them behind those that stand before the
mark. -/
theorem exists_execute (l : WordLine) (stdin : Bytes) (s : Session) :
    (∃ halt t, ∀ words, words ≠ [] →
      execute l.root stdin (l.arguments words) s = (.error halt, t)) ∨
    ∃ format lead t, ∀ words, words ≠ [] →
      execute l.root stdin (l.arguments words) s = runParse format (lead ++ words) t := by
  cases hroot : l.root with
  | template => exact absurd hroot l.parses
  | selector =>
      rcases l.exists_runGroup .selector .default stdin s with ⟨halt, h⟩ | ⟨format, lead, h⟩
      · refine .inl ⟨halt, s, fun words hwords => ?_⟩
        simp only [arguments, hroot, execute, h words hwords]
      · refine .inr ⟨format, lead, s, fun words hwords => ?_⟩
        simp only [arguments, hroot, execute, h words hwords]
  | program =>
      obtain ⟨read, hread⟩ := l.given
      rcases exists_runProgram hread stdin s with ⟨halt, t, hrun⟩ | ⟨config, t, hrun⟩
      · refine .inl ⟨halt, t, fun words _ => ?_⟩
        simp only [arguments, hroot, execute, hrun]
      · rcases l.exists_runGroup .program config stdin t with ⟨halt, h⟩ | ⟨format, lead, h⟩
        · refine .inl ⟨halt, t, fun words hwords => ?_⟩
          simp only [arguments, hroot, execute, hrun, h words hwords]
        · refine .inr ⟨format, lead, t, fun words hwords => ?_⟩
          simp only [arguments, hroot, execute, hrun, h words hwords]

/-! ## How the run ends -/

variable {P Q : List Text} {format : OutputFormat}

/-- The message of a refusal is all that a run makes of it. -/
theorem endAlike_runParse (h : P.flatMap Chain.tokens = Q.flatMap Chain.tokens)
    (format : OutputFormat) (t : Session) :
    EndAlike (runParse format P t) (runParse format Q t) := by
  unfold runParse Session.readQuery
  obtain ⟨q, hQ, hP⟩ | ⟨e', e, hQ, hP, hmessage⟩ :=
    alike_of_mapError_eq (Query.ofValue_words_of_same_tokens h)
  · rw [hP, hQ]
    exact .output _ _ _
  · rw [hP, hQ]
    simp only [Session.noteQuery, hmessage]
    exact .halted _ _

/-- However the words of a query are cut and spaced, a run ends in the same way: with the same output
and exit code, and when it fails with the same complaint. -/
theorem outcome_of_same_tokens (l : WordLine) (hP : P ≠ []) (hQ : Q ≠ [])
    (h : P.flatMap Chain.tokens = Q.flatMap Chain.tokens) (stdin : Bytes) (s : Session) :
    let outcome := (run l.root stdin (l.arguments P) s).1
    let outcome' := (run l.root stdin (l.arguments Q) s).1
    outcome'.stdout = outcome.stdout ∧ outcome'.exitCode = outcome.exitCode ∧
      outcome'.crash = outcome.crash ∧
      (outcome.exitCode ≠ 0 → outcome'.stderr = outcome.stderr) := by
  apply outcome_of_endAlike
  rcases l.exists_execute stdin (begun s) with ⟨halt, t, hexecute⟩ | ⟨format, lead, t, hexecute⟩
  · rw [hexecute P hP, hexecute Q hQ]
    exact .halted halt t
  · rw [hexecute P hP, hexecute Q hQ]
    apply endAlike_runParse
    rw [List.flatMap_append, List.flatMap_append, h]

def verboseJson : WordLine where
  root := .program
  settings := ["--verbose"]
  options := ["--format", "json"]
  parses := by decide
  given := ⟨_, rfl⟩
  whole := by
    have hread : parse Verb.parse.specs true ["--format", "json"] =
        .ok ⟨[(.format, "json")], []⟩ := rfl
    intro name hwaits
    rw [hread] at hwaits
    cases hwaits

/-- Marks may stand in words of their own or not; a refused token is refused in any word. -/
theorem outcome_of_two_cuts :
    ((run .program [] (verboseJson.arguments ["div>", " > p"])
        (.initial (.empty ["home"]))).1.stdout =
      (run .program [] (verboseJson.arguments ["div", ">>", "", "p"])
        (.initial (.empty ["home"]))).1.stdout) ∧
    (run .program [] (verboseJson.arguments ["a,b >", "c"])
        (.initial (.empty ["home"]))).1.exitCode = 1 ∧
    (run .program [] (verboseJson.arguments ["a,b >", "c"])
        (.initial (.empty ["home"]))).1.stderr =
      (run .program [] (verboseJson.arguments [" a,b", ">c"])
        (.initial (.empty ["home"]))).1.stderr := by
  have haccepted : (["div", ">>", "", "p"] : List Text).flatMap Chain.tokens =
      (["div>", " > p"] : List Text).flatMap Chain.tokens := by decide
  have hrefused : ([" a,b", ">c"] : List Text).flatMap Chain.tokens =
      (["a,b >", "c"] : List Text).flatMap Chain.tokens := by decide
  have hcode : (run .program [] (verboseJson.arguments [" a,b", ">c"])
      (.initial (.empty ["home"]))).1.exitCode = 1 := by rfl
  have houtcome := outcome_of_same_tokens verboseJson (List.cons_ne_nil _ _) (List.cons_ne_nil _ _)
    hrefused [] (.initial (.empty ["home"]))
  refine ⟨?_, ?_, ?_⟩
  · exact (outcome_of_same_tokens verboseJson (List.cons_ne_nil _ _) (List.cons_ne_nil _ _) haccepted
      [] (.initial (.empty ["home"]))).1
  · exact houtcome.2.1.trans hcode
  · exact houtcome.2.2.2 (ne_of_eq_of_ne hcode Nat.one_ne_zero)

end WordLine

end Hypertag.Command
