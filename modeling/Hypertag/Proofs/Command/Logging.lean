import Hypertag.Proofs.Command.Arguments
import Hypertag.Proofs.Command.Leading
import Hypertag.Proofs.Config.Storing
import Hypertag.Proofs.Journal.Reach

/-!
# What logging leaves alone

The level of the log decides which records are written, and records reach the consoles and the log file
alone. So runs that differ in whether they are verbose and in the configured level give the same output
and the same exit code, unless the log file is what they split.
-/

namespace Hypertag.Command

open Workspace (SameShape)

/-! ## Setting up -/

section Configuring

variable {s s' : Session} {config config' : Config}

theorem exists_readLevel (level : LogLevel) : ∃ n, Journal.readLevel (.text level.name) = .ok n := by
  cases level <;> exact ⟨_, rfl⟩

/-- How setting up ends: the log file is not opened, or nothing changes but what opening it and writing
to it changes. -/
inductive Configures (config : Config) (verbose : Bool) (s : Session) : Prop where
  | refused {e : FileError} {files : Workspace} {t : Session}
      (opened : s.opens config.logFile = (.error e, files))
      (result : configure config verbose s = (.error (.crash (.file e)), t))
  | done {place? : Option Place} {files : Workspace} {t : Session}
      (opened : s.opens config.logFile = (.ok place?, files))
      (result : configure config verbose s = (.ok (), t)) (shape : SameShape files t.files)
      (contents : ∀ q, place? ≠ some q → t.files.content q = s.files.content q)

theorem configures (config : Config) (verbose : Bool) (s : Session) : Configures config verbose s := by
  obtain ⟨n, hlevel⟩ := exists_readLevel (if verbose then .debug else config.logLevel)
  have hsetup := Session.setUp_setupLogging s
    (.text (if verbose then LogLevel.debug else config.logLevel).name) config.logFile
  generalize hr : s.setupLogging
    (.text (if verbose then LogLevel.debug else config.logLevel).name) config.logFile = r at hsetup
  cases hsetup with
  | @refused e files opened =>
      have result : configure config verbose s =
          (.error (.crash (.file e)), { s.release with files }) := by
        simp only [configure, hr]
      exact .refused opened result
  | unleveled _ unread => cases hlevel.symm.trans unread
  | @done level place? files opened read =>
      obtain ⟨hshape, hcontents⟩ := Session.note_calling opened level .debug
        ("Loaded configuration: " ++ config.toValue.display)
      refine .done opened ?_ hshape hcontents
      simp only [configure, hr]

/-- Both fail alike, or both are set up in workspaces of one shape, in which only the log file holds
something else than before. -/
inductive ConfigureAlike (config config' : Config) (verbose verbose' : Bool) (s s' : Session) : Prop where
  | refused {halt : Halt} {t t' : Session} (h : configure config verbose s = (.error halt, t))
      (h' : configure config' verbose' s' = (.error halt, t'))
  | done {t t' : Session} (h : configure config verbose s = (.ok (), t))
      (h' : configure config' verbose' s' = (.ok (), t')) (shape : SameShape t.files t'.files)
      (contents : ∀ q, (∀ file, config.logFile = some file →
          t.files.locate (Path.ofText file) ≠ .ok q) →
        t.files.content q = s.files.content q ∧ t'.files.content q = s'.files.content q)

theorem configureAlike (config config' : Config) (hfile : config'.logFile = config.logFile)
    (verbose verbose' : Bool) (h : SameShape s.files s'.files) :
    ConfigureAlike config config' verbose verbose' s s' := by
  have hopens : (s'.opens config'.logFile).1 = (s.opens config.logFile).1 ∧
      SameShape (s.opens config.logFile).2 (s'.opens config'.logFile).2 := by
    rw [hfile]
    exact Session.opens_eq h config.logFile
  cases configures config verbose s with
  | refused opened result =>
      cases configures config' verbose' s' with
      | refused opened' result' =>
          rw [opened, opened'] at hopens
          obtain rfl := Except.error.inj hopens.1
          exact .refused result result'
      | done opened' =>
          rw [opened, opened'] at hopens
          cases hopens.1
  | done opened result shape contents =>
      cases configures config' verbose' s' with
      | refused opened' =>
          rw [opened, opened'] at hopens
          cases hopens.1
      | @done place? _ _ opened' result' shape' contents' =>
          rw [opened, opened'] at hopens
          obtain ⟨hplace, hshape⟩ := hopens
          obtain rfl := Except.ok.inj hplace
          refine .done result result' ((shape.symm.trans hshape).trans shape') fun q hq => ?_
          have hother : place? ≠ some q := by
            rintro rfl
            obtain ⟨name, hname, hlocate⟩ := Session.locate_of_opens opened
            exact hq name hname ((shape.locate_eq _).trans hlocate)
          exact ⟨contents q hother, contents' q hother⟩

end Configuring

/-! ## Reading the arguments -/

section Arguments

variable {w w' : Workspace} {root : Root} {v : Verb}

theorem checkConfigPath_eq (h : SameShape w w') (t : Text) :
    checkConfigPath w' t = checkConfigPath w t := by
  rw [checkConfigPath, checkConfigPath, h.isDirectory_eq]

theorem readGroup_eq (h : SameShape w w') (root : Root) (v : Verb) (arguments : List Text) :
    readGroup root w' v arguments = readGroup root w v arguments := by
  simp only [readGroup, checkConfigPath_eq h]

theorem resolve_eq (h : SameShape w w') (root : Root) (v : Verb) (operands : List Text) :
    resolve root w' v operands = resolve root w v operands := by
  simp only [resolve, readGroup_eq h]

theorem reached_eq (h : SameShape w w') (root : Root) (v : Verb) (arguments : List Text) :
    reached root w' v arguments = reached root w v arguments := by
  simp only [reached, readGroup_eq h, resolve_eq h]

theorem readSource_eq (h : SameShape w w') (stdin : Bytes) {source : Text}
    (hsource : source ≠ ['-'] → ∀ q, w.locate (Path.ofText source) = .ok q →
      w'.content q = w.content q) :
    readSource w' stdin source = readSource w stdin source := by
  by_cases hdash : source = ['-']
  · rw [readSource, readSource, if_pos hdash, if_pos hdash]
  · simp only [readSource, h.read_eq (hsource hdash)]

theorem readSplit_eq (h : SameShape w w') (root : Root) (stdin : Bytes) {arguments : List Text}
    (hsource : ∀ p, readOptions root .split arguments = .ok p →
      p.operands.head?.getD ['-'] ≠ ['-'] →
      ∀ q, w.locate (Path.ofText (p.operands.head?.getD ['-'])) = .ok q →
        w'.content q = w.content q) :
    readSplit root w' stdin arguments = readSplit root w stdin arguments := by
  unfold readSplit
  cases hoptions : readOptions root .split arguments with
  | error halt => rfl
  | ok p =>
      simp only [bind, Except.bind]
      rw [readSource_eq h stdin (hsource p hoptions)]

end Arguments

/-! ## Results -/

section Results

variable {t t' : Session}

/-- What is parsed is read from the words alone. -/
theorem result_runParse (format : OutputFormat) (words : List Text) (t t' : Session) :
    (runParse format words t').1 = (runParse format words t).1 := by
  unfold runParse Session.readQuery
  cases Query.ofValue (.list (words.map .text)) with
  | ok q => rfl
  | error e => rfl

theorem result_splitTemplate (v : Value) (t t' : Session) :
    (t'.splitTemplate v).1 = (t.splitTemplate v).1 := by
  unfold Session.splitTemplate
  cases Template.splitValue v with
  | error e => rfl
  | ok texts => cases v <;> rfl

theorem result_runSplit (format : OutputFormat) (content : Bytes) (t t' : Session) :
    (runSplit format content t').1 = (runSplit format content t).1 := by
  unfold runSplit
  cases Encoding.decode content with
  | error e => rfl
  | ok text =>
      have hresult := result_splitTemplate (.text text.unifyNewlines) t t'
      rcases hr : t.splitTemplate (.text text.unifyNewlines) with ⟨r, u⟩
      rcases hr' : t'.splitTemplate (.text text.unifyNewlines) with ⟨r', u'⟩
      rw [hr, hr'] at hresult
      obtain rfl : r' = r := hresult
      cases r' with
      | error e => simp only [hr, hr']
      | ok texts => simp only [hr, hr']

theorem result_runCommand {config config' : Config}
    (houtput : config'.outputFormat = config.outputFormat) {root : Root} {v : Verb} {stdin : Bytes}
    {rest : List Text}
    (hsource : v = .split → readSplit root t'.files stdin rest = readSplit root t.files stdin rest) :
    (runCommand root v config' stdin rest t').1 = (runCommand root v config stdin rest t).1 := by
  by_cases hv : v = .split
  · subst hv
    simp only [runCommand, hsource rfl, houtput]
    cases readSplit root t.files stdin rest with
    | error halt => rfl
    | ok read => exact result_runSplit _ _ t t'
  · simp only [runCommand, houtput]
    cases readParse root rest with
    | error halt => rfl
    | ok read => exact result_runParse _ _ t t'

end Results

/-! ## Command lines -/

def Parsed.quiet (p : Parsed Key) : Parsed Key :=
  { p with options := p.options.filter (·.1 != .verbose) }

structure SameButVerbose (arguments arguments' : List Text) : Prop where
  empty : arguments'.isEmpty = arguments.isEmpty
  read : (parse Verb.program.specs false arguments').map Parsed.quiet =
    (parse Verb.program.specs false arguments).map Parsed.quiet

def settingsNamed (arguments : List Text) : Option Text :=
  (parse Verb.program.specs false arguments).toOption.bind (·.value? .config)

/-- The command line comes to split a file: which one, and in which session. -/
inductive SplitsFile (arguments : List Text) (s : Session) : Text → Session → Prop where
  | intro {config : Config} {rest : List Text} {t : Session} {p : Parsed Key}
      (leads : LeadsTo arguments s .program .split config rest t)
      (options : readOptions .program .split rest = .ok p)
      (file : p.operands.head?.getD ['-'] ≠ ['-']) :
      SplitsFile arguments s (p.operands.head?.getD ['-']) t

section Lines

variable {arguments arguments' : List Text} {s s' : Session} {config : Config} {level : LogLevel}

theorem shown?_quiet (root : Root) (v : Verb) (options : List (Key × Text)) :
    shown? root v (options.filter (·.1 != .verbose)) = shown? root v options := by
  induction options with
  | nil => rfl
  | cons option rest ih =>
      obtain ⟨key, value⟩ := option
      cases key with
      | verbose => exact ih
      | help => rfl
      | version => rfl
      | config => exact ih
      | format => exact ih

theorem value?_quiet (p : Parsed Key) : p.quiet.value? .config = p.value? .config := by
  have hkey : ∀ option : Key × Text,
      (option.1 == Key.config && option.1 != Key.verbose) = (option.1 == Key.config) := by
    rintro ⟨key, value⟩
    cases key <;> rfl
  simp only [Parsed.value?, Parsed.values, Parsed.quiet, List.filter_filter, hkey]

theorem map_quiet_accept (root : Root) (v : Verb) (r : Except OptionFault (Parsed Key)) :
    (accept root v r).map Parsed.quiet = accept root v (r.map Parsed.quiet) := by
  cases r with
  | error e => rfl
  | ok p =>
      have hshown : shown? root v p.quiet.options = shown? root v p.options :=
        shown?_quiet root v p.options
      simp only [accept, Except.map, hshown]
      cases shown? root v p.options with
      | some halt => rfl
      | none => rfl

theorem map_quiet_readOptions (h : SameButVerbose arguments arguments') :
    (readOptions .program .program arguments').map Parsed.quiet =
      (readOptions .program .program arguments).map Parsed.quiet := by
  cases hempty : arguments.isEmpty with
  | true =>
      have hempty' := h.empty.trans hempty
      rw [List.isEmpty_iff] at hempty hempty'
      rw [hempty, hempty']
  | false =>
      have hempty' := h.empty.trans hempty
      rw [readOptions_eq_accept (by rw [hempty', Bool.and_false]),
        readOptions_eq_accept (by rw [hempty, Bool.and_false]), map_quiet_accept, map_quiet_accept]
      exact congrArg (accept .program .program) h.read

/-- Whether it is to be verbose does not matter to the settings file. -/
theorem map_quiet_readGroup (h : SameButVerbose arguments arguments') (w : Workspace) :
    (readGroup .program w .program arguments').map Parsed.quiet =
      (readGroup .program w .program arguments).map Parsed.quiet := by
  rw [readGroup_eq_check, readGroup_eq_check]
  obtain ⟨halt, hp', hp⟩ | ⟨p', p, hp', hp, hquiet⟩ := alike_of_map_eq (map_quiet_readOptions h)
  · rw [hp, hp']
  · have hvalue : p'.value? .config = p.value? .config := by
      rw [← value?_quiet, hquiet, value?_quiet]
    simp only [hp, hp', hvalue]
    cases checkSettings w (p.value? .config) with
    | error halt => rfl
    | ok _ => exact congrArg Except.ok hquiet

theorem settingsNamed_of_readGroup {w : Workspace} {p : Parsed Key}
    (h : readGroup .program w .program arguments = .ok p) :
    settingsNamed arguments = p.value? .config := by
  have hparse : parse Verb.program.specs false arguments = .ok p := parse_of_readGroup h
  rw [settingsNamed, hparse]
  rfl

theorem parse_verbose {flag : Text} (hflag : flag = "--verbose".toList ∨ flag = "-v".toList)
    (rest : List Text) :
    parse Verb.program.specs false (flag :: rest) =
      (parse Verb.program.specs false rest).map (Parsed.append ⟨[(.verbose, [])], []⟩) := by
  rcases hflag with rfl | rfl
  · rw [parse.eq_def]
    rfl
  · rw [parse.eq_def]
    rfl

/-- The flag may be put wherever an option of the program is read. -/
theorem sameButVerbose_insert {before after : List Text} {flag : Text}
    {options : List (Key × Text)}
    (hflag : flag = "--verbose".toList ∨ flag = "-v".toList)
    (hbefore : parse Verb.program.specs false before = .ok ⟨options, []⟩)
    (hread : parse Verb.program.specs false (before ++ [flag]) =
      .ok ⟨options ++ [(.verbose, [])], []⟩)
    (hempty : before ++ after ≠ []) :
    SameButVerbose (before ++ after) (before ++ flag :: after) := by
  have hsome : (before ++ flag :: after).isEmpty = false := by cases before <;> rfl
  refine ⟨hsome.trans (List.isEmpty_eq_false_iff.mpr hempty).symm, ?_⟩
  have hwaits : ∀ name, parse Verb.program.specs false before ≠ .error (.needsValue name) := by
    rw [hbefore]
    exact fun _ hname => by cases hname
  have hcontinues := continues hwaits
  rw [hbefore] at hcontinues
  cases hcontinues with
  | ended _ read =>
      -- Behind operands the flag would be one of them.
      simp [read] at hread
  | goes _ read =>
      rw [read, read, parse_verbose hflag]
      cases parse Verb.program.specs false after with
      | error e => rfl
      | ok p =>
          refine congrArg Except.ok ?_
          simp [Parsed.quiet, Parsed.append]

inductive ReadAlike (arguments arguments' : List Text) (w w' : Workspace) : Prop where
  | refused {halt : Halt} (h : readGroup .program w .program arguments = .error halt)
      (h' : readGroup .program w' .program arguments' = .error halt)
  | read {p p' : Parsed Key} (h : readGroup .program w .program arguments = .ok p)
      (h' : readGroup .program w' .program arguments' = .ok p')
      (operands : p'.operands = p.operands)
      (named : p'.value? .config = p.value? .config)

theorem readAlike {w w' : Workspace} (h : SameButVerbose arguments arguments')
    (hw : SameShape w w') : ReadAlike arguments arguments' w w' := by
  have hgroup := map_quiet_readGroup h w
  rw [← readGroup_eq hw .program .program arguments'] at hgroup
  obtain ⟨halt, hp', hp⟩ | ⟨p', p, hp', hp, hquiet⟩ := alike_of_map_eq hgroup
  · exact .refused hp hp'
  · have hoperands : p'.quiet.operands = p.quiet.operands := by rw [hquiet]
    have hnamed : p'.quiet.value? .config = p.quiet.value? .config := by rw [hquiet]
    rw [value?_quiet, value?_quiet] at hnamed
    exact .read hp hp' hoperands hnamed

end Lines

/-! ## Runs -/

section Runs

variable {stdin : Bytes} {arguments arguments' inner : List Text} {s s' t t' : Session}
  {config config' : Config} {level : LogLevel} {group : Verb}

theorem result_runGroup (h : SameShape t.files t'.files)
    (houtput : config'.outputFormat = config.outputFormat)
    (hsource : ∀ rest, reached .program t.files group inner = .ok (.split, rest) →
      ∀ p, readOptions .program .split rest = .ok p → p.operands.head?.getD ['-'] ≠ ['-'] →
      ∀ q, t.files.locate (Path.ofText (p.operands.head?.getD ['-'])) = .ok q →
        t'.files.content q = t.files.content q) :
    (runGroup .program group config' stdin inner t').1 =
      (runGroup .program group config stdin inner t).1 := by
  rw [runGroup, runGroup, reached_eq h]
  cases hnamed : reached .program t.files group inner with
  | error halt => rfl
  | ok named =>
      obtain ⟨v, rest⟩ := named
      refine result_runCommand houtput fun hv => ?_
      subst hv
      exact readSplit_eq h .program stdin (hsource rest hnamed)

/-- Two lines and two sessions that differ in nothing but what the log is told. -/
theorem result_runProgram (h : SameButVerbose arguments arguments')
    (hs : SameShape s.files s'.files)
    (hconfig : loadConfig s.files (settingsNamed arguments) = .ok config)
    (hconfig' : loadConfig s'.files (settingsNamed arguments) =
      .ok { config with logLevel := level })
    (hsource : ∀ source t, SplitsFile arguments s source t →
      ∀ q, t.files.locate (Path.ofText source) = .ok q →
        s'.files.content q = s.files.content q ∧
        ∀ file, config.logFile = some file → t.files.locate (Path.ofText file) ≠ .ok q) :
    (runProgram stdin arguments' s').1 = (runProgram stdin arguments s).1 := by
  cases readAlike h hs with
  | refused hread hread' => rw [runProgram_of_unread hread, runProgram_of_unread hread']
  | @read p p' hread hread' hoperands hnamed =>
      rw [settingsNamed_of_readGroup hread] at hconfig hconfig'
      rw [← hnamed] at hconfig'
      have hresolve' := resolve_eq hs .program .program p.operands
      rw [← hoperands] at hresolve'
      cases hresolve : resolve .program s.files .program p.operands with
      | error halt =>
          rw [hoperands, hresolve, ← hoperands] at hresolve'
          rw [runProgram_of_unresolved hread hresolve, runProgram_of_unresolved hread' hresolve']
      | ok named =>
          obtain ⟨group, inner⟩ := named
          rw [hoperands, hresolve, ← hoperands] at hresolve'
          cases configureAlike config { config with logLevel := level } rfl (p.has .verbose)
            (p'.has .verbose) hs with
          | refused hrefused hrefused' =>
              rw [runProgram_of_loaded hread hresolve hconfig, hrefused,
                runProgram_of_loaded hread' hresolve' hconfig', hrefused']
          | @done t t' hconfigured hconfigured' shape contents =>
              rw [runProgram_of_loaded hread hresolve hconfig, hconfigured,
                runProgram_of_loaded hread' hresolve' hconfig', hconfigured']
              refine result_runGroup shape rfl fun rest hnamed p hoptions hfile q hlocate => ?_
              have hsplits : SplitsFile arguments s (p.operands.head?.getD ['-']) t :=
                .intro (.program hread hresolve hconfig hconfigured hnamed) hoptions hfile
              obtain ⟨hinput, hlog⟩ := hsource _ t hsplits q hlocate
              obtain ⟨hleft, hright⟩ := contents q hlog
              rw [hleft, hright, hinput]

/-- Whether a run is verbose, and which level its settings name, changes neither its output nor its exit
code, as long as it is given the same input, and that is not in its log file. -/
theorem outcome_of_other_logging (h : SameButVerbose arguments arguments')
    (hs : SameShape s.files s'.files)
    (hconfig : loadConfig s.files (settingsNamed arguments) = .ok config)
    (hconfig' : loadConfig s'.files (settingsNamed arguments) =
      .ok { config with logLevel := level })
    (hsource : ∀ source t, SplitsFile arguments (begun s) source t →
      ∀ q, t.files.locate (Path.ofText source) = .ok q →
        s'.files.content q = s.files.content q ∧
        ∀ file, config.logFile = some file → t.files.locate (Path.ofText file) ≠ .ok q)
    (stdin : Bytes) :
    (run .program stdin arguments' s').1.stdout = (run .program stdin arguments s).1.stdout ∧
      (run .program stdin arguments' s').1.exitCode = (run .program stdin arguments s).1.exitCode ∧
      (run .program stdin arguments' s').1.crash = (run .program stdin arguments s).1.crash :=
  outcome_of_result (result_runProgram h hs hconfig hconfig' hsource)

end Runs

/-! ## A louder run -/

def fileSettings (level : LogLevel) : Config := ⟨level, some "a.log", .text⟩

def document (level : LogLevel) : Bytes :=
  Encoding.encode (Json.write .unicode (fileSettings level).toValue).text

def withTemplate (settings : Bytes) : Workspace :=
  ⟨["home"], [(["home", "c.json"], .file settings),
    (["home", "t.html"], .file (Encoding.encode "a\x7b\x7b 'b' \x7d\x7d"))]⟩

theorem sameShape_withTemplate (settings settings' : Bytes) :
    SameShape (withTemplate settings) (withTemplate settings') := by
  have hfile : (withTemplate settings).IsFile ["home", "c.json"] := ⟨settings, rfl⟩
  exact Workspace.sameShape_set_file hfile settings'

theorem content_withTemplate (settings settings' : Bytes) :
    (withTemplate settings').content ["home", "t.html"] =
      (withTemplate settings).content ["home", "t.html"] := rfl

theorem read_withTemplate (settings : Bytes) :
    (withTemplate settings).read (Path.ofText "c.json") = .ok settings := rfl

def splitLine (flags : List Text) : List Text :=
  "--config".toList :: "c.json".toList :: (flags ++ ["template".toList, "split".toList, "t.html".toList])

theorem locate_of_splitLine {settings : Bytes} {level : LogLevel} {source : Text} {t : Session}
    (hconfig : loadConfig (withTemplate settings) (some "c.json".toList) = .ok (fileSettings level))
    (h : SplitsFile (splitLine []) (begun (.initial (withTemplate settings))) source t) :
    t.files.locate (Path.ofText source) = .ok ["home", "t.html"] ∧
      t.files.locate (Path.ofText "a.log") = .ok ["home", "a.log"] := by
  cases h with
  | @intro config rest _ p leads options file =>
      cases leads with
      | @program p' _ group inner _ _ _ hread hresolve hloaded hconfigured hreached =>
          have hgroup : readGroup .program (withTemplate settings) .program (splitLine []) =
              .ok ⟨[(.config, "c.json")], ["template", "split", "t.html"]⟩ := rfl
          obtain rfl := Except.ok.inj (hread.symm.trans hgroup)
          cases hresolve
          cases hreached
          cases options
          obtain rfl := Except.ok.inj (hloaded.symm.trans hconfig)
          have hopens : Session.opens (begun (.initial (withTemplate settings)))
              (fileSettings level).logFile = (.ok (some ["home", "a.log"]),
                (withTemplate settings).set ["home", "a.log"] (.file [])) := rfl
          cases configures (fileSettings level) false (begun (.initial (withTemplate settings))) with
          | refused opened => cases hopens.symm.trans opened
          | done opened result shape =>
              cases result.symm.trans hconfigured
              cases hopens.symm.trans opened
              rw [shape.locate_eq, shape.locate_eq]
              exact ⟨rfl, rfl⟩

/-- Settings are loaded from the document that they are saved as. -/
theorem loadConfig_of_document (config : Config) {w : Workspace} {t : Text}
    (h : w.read (Path.ofText t) =
      .ok (Encoding.encode (Json.write .unicode config.toValue).text)) :
    loadConfig w (some t) = .ok config := by
  obtain ⟨u, hwrite, hline, hread⟩ :=
    Json.exists_read_write (Config.Settings.ofConfig config).isDocument (by decide) .unicode
  have hbytes : Config.ofBytes (Encoding.encode (Json.write .unicode config.toValue).text) =
      (Config.ofEntries config.entries).mapError .invalid := by
    have htext : (Json.write .unicode config.toValue).text = u := congrArg Json.Emission.text hwrite
    rw [htext, Config.ofBytes_encode hline hread, Config.Settings.value, Config.ofDocument,
      Config.namedEntries_named]
    rfl
  rw [loadConfig, Config.check_of_read h hbytes, Config.ofEntries_entries]
  rfl

theorem outcome_of_louder_run :
    (run .program [] (splitLine ["--verbose"])
        (.initial (withTemplate (document .error)))).1.stdout =
      (run .program [] (splitLine []) (.initial (withTemplate (document .info)))).1.stdout := by
  have hsettings : parse Verb.program.specs false ["--config", "c.json"] =
      .ok ⟨[(.config, "c.json")], []⟩ := rfl
  have hlines : SameButVerbose (splitLine []) (splitLine ["--verbose"]) :=
    sameButVerbose_insert (.inl rfl) hsettings rfl (List.cons_ne_nil _ _)
  have hnamed : settingsNamed (splitLine []) = some "c.json".toList := rfl
  have hloaded : ∀ level, loadConfig (withTemplate (document level)) (some "c.json".toList) =
      .ok (fileSettings level) := fun level =>
    loadConfig_of_document (fileSettings level) (read_withTemplate _)
  have hconfig : loadConfig (Session.initial (withTemplate (document .info))).files
      (settingsNamed (splitLine [])) = .ok (fileSettings .info) := by
    rw [hnamed]
    exact hloaded .info
  have hconfig' : loadConfig (Session.initial (withTemplate (document .error))).files
      (settingsNamed (splitLine [])) = .ok { fileSettings .info with logLevel := .error } := by
    rw [hnamed]
    exact hloaded .error
  have hsource : ∀ source t,
      SplitsFile (splitLine []) (begun (.initial (withTemplate (document .info)))) source t →
      ∀ q, t.files.locate (Path.ofText source) = .ok q →
        (withTemplate (document .error)).content q = (withTemplate (document .info)).content q ∧
        ∀ file, (fileSettings .info).logFile = some file →
          t.files.locate (Path.ofText file) ≠ .ok q := by
    intro source t hsplits q hlocate
    obtain ⟨htemplate, hlog⟩ := locate_of_splitLine (hloaded .info) hsplits
    obtain rfl := Except.ok.inj (htemplate.symm.trans hlocate)
    refine ⟨content_withTemplate _ _, fun file hfile => ?_⟩
    obtain rfl : "a.log".toList = file := Option.some.inj hfile
    rw [hlog]
    decide
  exact (outcome_of_other_logging hlines (sameShape_withTemplate _ _) hconfig hconfig' hsource []).1

end Hypertag.Command
