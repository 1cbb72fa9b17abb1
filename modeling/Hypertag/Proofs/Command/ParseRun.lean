import Hypertag.Proofs.Command.Leading
import Hypertag.Proofs.Selector.Document

/-!
# Runs that parse words

After `--` all arguments are the words of a query. A run that comes to parse them ends with the query
on the output, or with nothing on it and a failure. As JSON the output gives the query back.
-/

namespace Hypertag.Command

/-! ## How the words reach the command -/

def wordArguments (format : OutputFormat) (words : List Text) : List Text :=
  "--format" :: format.name :: "--" :: words

/-- The command line with these arguments; the whole program names the group first. -/
def parseLine (root : Root) (format : OutputFormat) (words : List Text) : List Text :=
  match root with
  | .program => "selector" :: "parse" :: wordArguments format words
  | .selector | .template => "parse" :: wordArguments format words

section

variable {root : Root} {stdin : Bytes} {format : OutputFormat} {words : List Text} {s : Session}

theorem readOptions_words (root : Root) (format : OutputFormat) (words : List Text) :
    readOptions root .parse (wordArguments format words) = .ok ⟨[(.format, format.name)], words⟩ :=
  rfl

theorem readParse_words (h : words ≠ []) :
    readParse root (wordArguments format words) = .ok (some format, words) := by
  have hempty : words.isEmpty = false := by simpa using h
  have hformat : readFormat .parse ⟨[(.format, format.name)], words⟩ = .ok (some format) := by
    cases format <;> rfl
  unfold readParse
  rw [readOptions_words]
  simp only [bind, Except.bind, hformat, hempty]
  rfl

/-- Nothing can fail in setting up the journal without a file. -/
theorem exists_configure_default (verbose : Bool) (s : Session) :
    ∃ t, configure .default verbose s = (.ok (), t) := by
  cases verbose <;> exact ⟨_, rfl⟩

theorem exists_leadsTo_parse (hroot : root ≠ .template) (format : OutputFormat) (words : List Text)
    (s : Session) :
    ∃ config t, LeadsTo (parseLine root format words) s root .parse config
      (wordArguments format words) t := by
  cases root with
  | program =>
      obtain ⟨t, hconfigured⟩ := exists_configure_default false s
      exact ⟨.default, t, .program rfl rfl rfl hconfigured rfl⟩
  | selector => exact ⟨.default, s, .selector rfl⟩
  | template => exact absurd rfl hroot

/-- The words are parsed as they are, whatever they look like. -/
theorem exists_execute_parseLine (hroot : root ≠ .template) (hwords : words ≠ []) (stdin : Bytes)
    (format : OutputFormat) (s : Session) :
    ∃ t, execute root stdin (parseLine root format words) s = runParse format words t := by
  obtain ⟨config, t, hleads⟩ := exists_leadsTo_parse hroot format words s
  refine ⟨t, ?_⟩
  rw [execute_of_leadsTo hleads]
  simp only [runCommand, readParse_words hwords, Option.getD_some]

/-! ## How the run ends -/

theorem run_parseLine_of_query (hroot : root ≠ .template) (hwords : words ≠ []) {q : Query}
    (h : Query.ofValue (.list (words.map .text)) = .ok q) :
    (run root stdin (parseLine root format words) s).1.exitCode = 0 ∧
      (run root stdin (parseLine root format words) s).1.stdout = selectorOutput format q ∧
      (run root stdin (parseLine root format words) s).1.crash = none := by
  obtain ⟨t, hexecute⟩ := exists_execute_parseLine hroot hwords stdin format (begun s)
  apply run_of_output
  rw [hexecute, runParse, Session.readQuery, h]

theorem run_parseLine_of_refused (hroot : root ≠ .template) (hwords : words ≠ []) {e : SelectorError}
    (h : Query.ofValue (.list (words.map .text)) = .error e) :
    (run root stdin (parseLine root format words) s).1.exitCode = 1 ∧
      (run root stdin (parseLine root format words) s).1.stdout = [] ∧
      (run root stdin (parseLine root format words) s).1.crash = none := by
  obtain ⟨t, hexecute⟩ := exists_execute_parseLine hroot hwords stdin format (begun s)
  apply run_of_abort
  rw [hexecute, runParse, Session.readQuery, h]

end

/-! ## The output as a document -/

theorem read_selectorOutput (q : Query) :
    Json.read (selectorOutput .json q) = .ok (selectorDocument q) := by
  obtain ⟨t, hwrite, -, hread⟩ :=
    Json.exists_read_write_closing (Query.isDocument_selectorDocument q) (by decide) .ascii
  have hclosing : Json.IsBlankText ['\n'] := by simp [Json.IsBlankText, Json.Place.isJsonBlank]
  have houtput : selectorOutput .json q = t ++ ['\n'] := by
    unfold selectorOutput
    rw [hwrite]
    rfl
  rw [houtput]
  exact hread _ hclosing

/-- Words that are accepted end in success, and the document on the output holds the canonical text and
describes the query that was read. Words that are refused leave no output. -/
theorem parsed_words_on_stdout {root : Root} (hroot : root ≠ .template) (stdin : Bytes)
    {words : List Text} (hwords : words ≠ []) (s : Session) :
    let outcome := (run root stdin (parseLine root .json words) s).1
    (∀ q, Query.ofValue (.list (words.map .text)) = .ok q →
      outcome.exitCode = 0 ∧ outcome.crash = none ∧
      ∃ document, Json.read outcome.stdout = .ok document ∧
        document.field? "formatted" = some (.text q.format) ∧
        Query.ofDocument? document = some q) ∧
    ∀ e, Query.ofValue (.list (words.map .text)) = .error e →
      outcome.exitCode = 1 ∧ outcome.stdout = [] ∧ outcome.crash = none := by
  intro outcome
  constructor
  · intro q hq
    obtain ⟨hcode, hstdout, hcrash⟩ := run_parseLine_of_query hroot hwords hq
    refine ⟨hcode, hcrash, selectorDocument q, ?_, ?_, ?_⟩
    · exact (congrArg Json.read hstdout).trans (read_selectorOutput q)
    · exact Query.formatted_selectorDocument q
    · exact Query.ofDocument?_selectorDocument q
  · intro e he
    exact run_parseLine_of_refused hroot hwords he

theorem chain_on_stdout_and_refusal :
    (∃ document,
      Json.read (run .program [] (parseLine .program .json ["p", ">", "#😀.x"])
        (.initial (.empty ["home"]))).1.stdout = .ok document ∧
      document.field? "formatted" = some (.text "p > #😀.x") ∧
      Query.ofDocument? document = some (.list ⟨⟨.regular ⟨some "p", none, []⟩, .descendant⟩,
        [⟨.regular ⟨none, some "😀", ["x"]⟩, .child⟩]⟩)) ∧
    (run .selector [] (parseLine .selector .json ["--help", "a,b"])
      (.initial (.empty ["home"]))).1.exitCode = 1 := by
  have haccepted : Query.ofValue (.list ((["p", ">", "#😀.x"] : List Text).map .text)) =
      .ok (.list ⟨⟨.regular ⟨some "p", none, []⟩, .descendant⟩,
        [⟨.regular ⟨none, some "😀", ["x"]⟩, .child⟩]⟩) := rfl
  have hrefused : Query.ofValue (.list ((["--help", "a,b"] : List Text).map .text)) =
      .error (.unsupported .group "--help a,b") := rfl
  constructor
  · have hroot : Root.program ≠ .template := by decide
    obtain ⟨-, -, document, hread, hformatted, hquery⟩ :=
      (parsed_words_on_stdout hroot [] (List.cons_ne_nil _ _) _).1 _ haccepted
    refine ⟨document, hread, ?_, hquery⟩
    rw [hformatted]
    rfl
  · have hroot : Root.selector ≠ .template := by decide
    exact ((parsed_words_on_stdout hroot [] (List.cons_ne_nil _ _) _).2 _ hrefused).1

end Hypertag.Command
