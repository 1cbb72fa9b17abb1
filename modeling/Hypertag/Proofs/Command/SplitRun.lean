import Hypertag.Proofs.Command.Leading
import Hypertag.Proofs.Command.Segments
import Hypertag.Proofs.Results
import Hypertag.Proofs.Template.Splitting

/-!
# Runs that split a template

A run that comes to split a text ends with all of its segments on the output, or with none and a
failure. The output determines the text that was read.
-/

namespace Hypertag.Command

open Template (split segmentsOf)

/-! ## Which runs split -/

/-- The arguments call for a template to be split: in which format, what its source holds, and the
session in which it is split, after the settings were taken. -/
inductive AsksToSplit (stdin : Bytes) (arguments : List Text) (s : Session) :
    Root → OutputFormat → Bytes → Session → Prop where
  | template {rest : List Text} {format? : Option OutputFormat} {format : OutputFormat}
      {content : Bytes} (named : reached .template s.files .template arguments = .ok (.split, rest))
      (source : readSplit .template s.files stdin rest = .ok (format?, content))
      (chosen : format?.getD Config.default.outputFormat = format) :
      AsksToSplit stdin arguments s .template format content s
  | program {p : Parsed Key} {group rest : List Text} {config : Config} {t : Session}
      {format? : Option OutputFormat} {format : OutputFormat} {content : Bytes}
      (options : readGroup .program s.files .program arguments = .ok p)
      (member : resolve .program s.files .program p.operands = .ok (.template, group))
      (settings : loadConfig s.files (p.value? .config) = .ok config)
      (configured : configure config (p.has .verbose) s = (.ok (), t))
      (named : reached .program t.files .template group = .ok (.split, rest))
      (source : readSplit .program t.files stdin rest = .ok (format?, content))
      (chosen : format?.getD config.outputFormat = format) :
      AsksToSplit stdin arguments s .program format content t

section Runs

variable {root : Root} {stdin content : Bytes} {arguments : List Text} {s t : Session}
  {format : OutputFormat}

theorem execute_of_asksToSplit (h : AsksToSplit stdin arguments s root format content t) :
    execute root stdin arguments s = runSplit format content t := by
  cases h with
  | template named source chosen =>
      rw [execute_of_leadsTo (.template named)]
      simp only [runCommand, source, chosen]
  | program options member settings configured named source chosen =>
      rw [execute_of_leadsTo (.program options member settings configured named)]
      simp only [runCommand, source, chosen]

end Runs

structure SplitRun where
  root : Root
  stdin : Bytes
  arguments : List Text
  session : Session
  format : OutputFormat
  content : Bytes
  ready : Session
  asks : AsksToSplit stdin arguments (begun session) root format content ready
  text : Text
  decoded : (Encoding.decode content).map Text.unifyNewlines = .ok text

namespace SplitRun

def outcome (r : SplitRun) : Outcome := (run r.root r.stdin r.arguments r.session).1

/-! ## How they end -/

variable {r : SplitRun} {after : Session} {pieces : List Text}

theorem outcome_of_output {output : Text}
    (h : runSplit r.format r.content r.ready = (.ok output, after)) :
    r.outcome.exitCode = 0 ∧ r.outcome.stdout = output ∧ r.outcome.crash = none :=
  run_of_output ((execute_of_asksToSplit r.asks).trans h)

theorem outcome_of_abort {message : Text}
    (h : runSplit r.format r.content r.ready = (.error (.abort message), after)) :
    r.outcome.exitCode = 1 ∧ r.outcome.stdout = [] ∧ r.outcome.crash = none :=
  run_of_abort ((execute_of_asksToSplit r.asks).trans h)

theorem outcome_of_split (h : split r.text = .ok pieces) :
    r.outcome.exitCode = 0 ∧ r.outcome.stdout = segmentsOutput r.format (segmentsOf pieces) ∧
      r.outcome.crash = none := by
  obtain ⟨t, hdecode, htext⟩ := exists_of_map_ok r.decoded
  have hvalue : Template.splitValue (.text t.unifyNewlines) = .ok pieces := by
    rw [htext]
    exact h
  apply outcome_of_output
  rw [runSplit, hdecode]
  simp only [Session.splitTemplate, hvalue]
  rfl

theorem outcome_of_refused {e : Template.TemplateError} (h : split r.text = .error e) :
    r.outcome.exitCode = 1 ∧ r.outcome.stdout = [] ∧ r.outcome.crash = none := by
  obtain ⟨t, hdecode, htext⟩ := exists_of_map_ok r.decoded
  have hvalue : Template.splitValue (.text t.unifyNewlines) = .error e := by
    rw [htext]
    exact h
  apply outcome_of_abort
  rw [runSplit, hdecode]
  simp only [Session.splitTemplate, hvalue]
  rfl

theorem ne_nil_of_canonical (h : Template.Canonical pieces) : pieces ≠ [] := by
  cases h <;> exact List.cons_ne_nil _ _

/-- The output of a text that is accepted gives it back. -/
theorem text_of_stdout {other : SplitRun} {pieces' : List Text} (h : split r.text = .ok pieces)
    (h' : split other.text = .ok pieces') (hformat : other.format = r.format)
    (hstdout : other.outcome.stdout = r.outcome.stdout) : other.text = r.text := by
  obtain ⟨hcanonical, htext⟩ := Template.canonical_of_split h
  obtain ⟨hcanonical', htext'⟩ := Template.canonical_of_split h'
  rw [(outcome_of_split h).2.1, (outcome_of_split h').2.1, hformat] at hstdout
  have hpieces : pieces' = pieces := segmentsOutput_inj r.format (ne_nil_of_canonical hcanonical')
    (ne_nil_of_canonical hcanonical) hstdout
  rw [← htext, ← htext', hpieces]

/-- A text that is accepted ends in success, with an output that no other text of the same format
gives; as text, it has one line for each segment. A text that is refused leaves no output. -/
theorem stdout_determines_text (r : SplitRun) :
    (∀ pieces, split r.text = .ok pieces →
      r.outcome.exitCode = 0 ∧ r.outcome.crash = none ∧
      (∀ other : SplitRun, other.format = r.format → (∃ pieces', split other.text = .ok pieces') →
        other.outcome.stdout = r.outcome.stdout → other.text = r.text) ∧
      (r.format = .text →
        ∃ lines : List Text, lines.length = pieces.length ∧
          r.outcome.stdout = lines.flatMap (· ++ ['\n']) ∧
          ∀ line ∈ lines, ∀ c ∈ line, c ∉ Text.lineBoundaries)) ∧
    ∀ e, split r.text = .error e →
      r.outcome.exitCode = 1 ∧ r.outcome.stdout = [] ∧ r.outcome.crash = none := by
  constructor
  · intro pieces h
    obtain ⟨hcode, hstdout, hcrash⟩ := outcome_of_split h
    refine ⟨hcode, hcrash, ?_, ?_⟩
    · rintro other hformat ⟨pieces', h'⟩ hsame
      exact text_of_stdout h h' hformat hsame
    · intro hformat
      refine ⟨(segmentsOf pieces).map segmentBody, ?_, ?_, ?_⟩
      · simp [segmentsOf]
      · rw [hstdout, hformat, List.flatMap_map]
        rfl
      · intro line hline
        obtain ⟨segment, -, rfl⟩ := List.mem_map.mp hline
        exact segmentBody_oneLine segment
  · intro e h
    exact outcome_of_refused h

/-- A template on the standard input whose segments hold ends of lines. -/
def linesInside : SplitRun where
  root := .template
  stdin := Encoding.encode "a\r\n\x7b\x7b 'b\u2028' \x7d\x7d\x0c"
  arguments := ["split"]
  session := .initial (.empty ["home"])
  format := .text
  content := Encoding.encode "a\r\n\x7b\x7b 'b\u2028' \x7d\x7d\x0c"
  ready := begun (.initial (.empty ["home"]))
  asks := .template rfl rfl rfl
  text := "a\n\x7b\x7b 'b\u2028' \x7d\x7d\x0c"
  decoded := by rw [Encoding.decode_encode]; rfl

def openCode : SplitRun where
  root := .program
  stdin := Encoding.encode "a\x7b\x7b b"
  arguments := ["template", "split", "--format", "json"]
  session := .initial (.empty ["home"])
  format := .json
  content := Encoding.encode "a\x7b\x7b b"
  ready := (configure .default false (begun (.initial (.empty ["home"])))).2
  asks := .program rfl rfl rfl rfl rfl rfl rfl
  text := "a\x7b\x7b b"
  decoded := by rw [Encoding.decode_encode]; rfl

theorem stdout_of_accepted_and_refused :
    (linesInside.outcome.exitCode = 0 ∧
      linesInside.outcome.stdout =
        "[0] literal: 'a\\n'\n[1] code: \" 'b\\u2028' \"\n[2] literal: '\\x0c'\n") ∧
    openCode.outcome.exitCode = 1 ∧ openCode.outcome.stdout = [] := by
  have haccepted : split linesInside.text = .ok ["a\n", " 'b\u2028' ", "\x0c"] := rfl
  have hrefused : split openCode.text = .error (.unterminated .code (some 1)) := rfl
  refine ⟨⟨((stdout_determines_text linesInside).1 _ haccepted).1, ?_⟩, ?_⟩
  · refine (outcome_of_split haccepted).2.1.trans ?_
    decide +kernel
  · exact ⟨((stdout_determines_text openCode).2 _ hrefused).1,
      ((stdout_determines_text openCode).2 _ hrefused).2.1⟩

end SplitRun

end Hypertag.Command
