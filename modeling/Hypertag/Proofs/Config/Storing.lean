import Hypertag.Proofs.Config.Saving
import Hypertag.Proofs.Json.RoundTrip

/-!
# Settings that were saved

Whatever settings are saved, the file is judged as the settings themselves are: accepted with the same
result, or refused with the same problems. Accepted settings are saved and loaded without a change.
-/

namespace Hypertag.Config

variable {w w' : Workspace} {p : Path}

/-! ## Settings and where they are kept -/

inductive IsPlain : Value → Prop where
  | null : IsPlain .null
  | bool (b : Bool) : IsPlain (.bool b)
  | text (t : Text) : IsPlain (.text t)

/-- Named values, each name once. They need not be acceptable. -/
structure Settings where
  entries : List (Text × Value)
  nodup : (entries.map Prod.fst).Nodup
  plain : ∀ entry ∈ entries, IsPlain entry.2

def Settings.value (s : Settings) : Value := .dict (Json.named s.entries)

def Storable (w : Workspace) (p : Path) : Prop :=
  ∃ between place, w.makeDirectories p.parent = (.ok (), between) ∧ between.writable p = .ok place

theorem isDocument_of_isPlain {v : Value} (h : IsPlain v) : Json.IsDocument 0 v := by
  cases h with
  | null => exact .null
  | bool b => exact .bool b
  | text t => exact .text t

theorem Settings.isDocument (s : Settings) : Json.IsDocument 1 s.value :=
  .dict s.nodup fun entry hentry => isDocument_of_isPlain (s.plain entry hentry)

theorem namedEntries_named (entries : List (Text × Value)) :
    namedEntries (Json.named entries) = entries := by
  rw [namedEntries, Json.named, List.map_map]
  exact List.map_id entries

/-! ## Through the file -/

theorem unifyNewlines_of_notMem {t : Text} (h : '\r' ∉ t) : t.unifyNewlines = t := by
  induction t with
  | nil => rfl
  | cons c t ih =>
      rw [List.mem_cons, not_or] at h
      rw [Text.unifyNewlines.eq_3 _ _ fun _ hc => absurd hc.symm h.1, ih h.2]
      simp [Ne.symm h.1]

/-- The document of some settings is judged as they are. -/
theorem ofBytes_encode {t : Text} {v : Value} (hline : '\r' ∉ t) (hread : Json.read t = .ok v) :
    ofBytes (Encoding.encode t) = ofDocument v := by
  rw [ofBytes, Encoding.decode_encode]
  simp only [Except.mapError, bind, Except.bind, unifyNewlines_of_notMem hline, hread]

/-- A file that is read is judged by its content. -/
theorem check_of_read {content : Bytes} {r : Except (List Problem) Config}
    (hread : w.read p = .ok content) (hcontent : ofBytes content = r.mapError .invalid) :
    check w p = .ok (r.mapError .invalid) := by
  rw [check, exists?_of_read hread, hread]
  cases r <;> simp [Except.mapError, bind, Except.bind, hcontent, pure, Except.pure]

/-- Settings are saved wherever a file can be written, and checked as they are by themselves. -/
theorem check_save (s : Settings) (h : Storable w p) :
    ∃ w', save w s.value p = (.ok (), w') ∧
      check w' p = .ok ((ofEntries s.entries).mapError .invalid) := by
  obtain ⟨between, place, hmade, hopened⟩ := h
  obtain ⟨t, hwrite, hline, hread⟩ := Json.exists_read_write s.isDocument (by decide) .unicode
  have hwritten : between.write p (Encoding.encode t) =
      .ok (between.set place (.file (Encoding.encode t))) := by
    rw [Workspace.write, hopened]
    rfl
  refine ⟨between.set place (.file (Encoding.encode t)), ?_, ?_⟩
  · rw [save, hmade]
    simp only [hwrite, Json.Emission.ofText, hwritten]
    rfl
  · apply check_of_read (Workspace.read_of_write hwritten)
    rw [ofBytes_encode hline hread, Settings.value, ofDocument, namedEntries_named]

/-! ## Accepted settings -/

theorem readLevel_name (l : LogLevel) : readLevel (.text l.name) = .ok l := by
  cases l <;> rfl

theorem readFormat_name (f : OutputFormat) : readFormat (.text f.name) = .ok f := by
  cases f <;> rfl

theorem ofEntries_entries (c : Config) : ofEntries c.entries = .ok c := by
  have hlevel : readField c.entries "log_level" default.logLevel readLevel = .ok c.logLevel := by
    show (readLevel (.text c.logLevel.name)).mapError _ = _
    rw [readLevel_name]
    rfl
  have hfile : readField c.entries "log_file" default.logFile readLogFile = .ok c.logFile := by
    show (readLogFile ((c.logFile.map Value.text).getD .null)).mapError _ = _
    cases c.logFile <;> rfl
  have hformat :
      readField c.entries "output_format" default.outputFormat readFormat = .ok c.outputFormat := by
    show (readFormat (.text c.outputFormat.name)).mapError _ = _
    rw [readFormat_name]
    rfl
  have hunknown : unknownFields c.entries = [] := rfl
  simp only [ofEntries, hlevel, hfile, hformat, hunknown]

def Settings.ofConfig (c : Config) : Settings where
  entries := c.entries
  nodup := by
    show ["log_level".toList, "log_file".toList, "output_format".toList].Nodup
    decide
  plain := by
    intro entry hentry
    simp only [Config.entries, List.mem_cons, List.not_mem_nil, or_false] at hentry
    rcases hentry with rfl | rfl | rfl
    · exact .text _
    · cases c.logFile with
      | none => exact .null
      | some t => exact .text t
    · exact .text _

/-- The file of accepted settings gives them back. -/
theorem load_save (c : Config) (h : Storable w p) :
    ∃ w', save w c.toValue p = (.ok (), w') ∧ check w' p = .ok (.ok c) := by
  have hsaved := check_save (Settings.ofConfig c) h
  rwa [show (Settings.ofConfig c).entries = c.entries from rfl, ofEntries_entries] at hsaved

/-- What comes of settings that were saved: checking and loading the file accepts them with what they
are by themselves, or refuses them with their problems, which is what the report of loading tells. What
was accepted is saved and loaded again without a change, at any place that can be written to. -/
theorem validate_and_load_saved (s : Settings) (h : Storable w p) :
    ∃ w', save w s.value p = (.ok (), w') ∧
      (∀ c, ofEntries s.entries = .ok c →
        validate w' p = .ok ⟨true, none, some c⟩ ∧ load w' p = .ok c) ∧
      (∀ problems, ofEntries s.entries = .error problems →
        validate w' p = .ok ⟨false, some ("Validation error: " ++ problemsMessage problems), none⟩ ∧
        ∃ report, load w' p = .error (.report report) ∧
          report.Tells .configuration ("Validation error: " ++ problemsMessage problems)
            "CONFIGURATION_ERROR" [("path", .text p.text)] [("config_key", .null)]) ∧
      ∀ (c : Config) u q, Storable u q →
        ∃ u', save u c.toValue q = (.ok (), u') ∧
          validate u' q = .ok ⟨true, none, some c⟩ ∧ load u' q = .ok c := by
  obtain ⟨w', hsaved, hchecked⟩ := check_save s h
  refine ⟨w', hsaved, ?_, ?_, ?_⟩
  · intro c haccepted
    rw [haccepted] at hchecked
    exact ⟨validate_of_check hchecked, load_of_accepted hchecked⟩
  · intro problems hrefused
    rw [hrefused] at hchecked
    exact ⟨validate_of_check hchecked, _, load_of_refused hchecked, Report.tells_ofSettings _ p⟩
  · intro c u q hu
    obtain ⟨u', hsaved, hchecked⟩ := load_save c hu
    exact ⟨u', hsaved, validate_of_check hchecked, load_of_accepted hchecked⟩

/-- A level with blanks around it and a file name of characters that are written in several ways. -/
def unevenSettings : Settings where
  entries := [("log_level", .text "\tdebug\r\n"), ("log_file", .text "a\"\\\r\n\x00\u2028😀")]
  nodup := by decide
  plain := List.forall_mem_cons.mpr ⟨.text _, List.forall_mem_singleton.mpr (.text _)⟩

/-- A truth value where there should be a text, and a name that no field has. -/
def refusedSettings : Settings where
  entries := [("log_level", .bool true), ("a.b", .null)]
  nodup := by decide
  plain := List.forall_mem_cons.mpr ⟨.bool true, List.forall_mem_singleton.mpr .null⟩

theorem storable_settingsPath : Storable (homeWith "\x7b\x7d") settingsPath :=
  ⟨homeWith "\x7b\x7d", ["home", "c.json"], rfl, rfl⟩

/-- Settings that are accepted in another form, and settings that are refused. -/
theorem uneven_and_refused_settings_saved :
    (∃ w', save (homeWith "\x7b\x7d") unevenSettings.value settingsPath = (.ok (), w') ∧
      load w' settingsPath = .ok ⟨.debug, some "a\"\\\r\n\x00\u2028😀", .text⟩) ∧
    ∃ w', save (homeWith "\x7b\x7d") refusedSettings.value settingsPath = (.ok (), w') ∧
      ∃ problems report, ofEntries refusedSettings.entries = .error problems ∧
        problems.length = 2 ∧ load w' settingsPath = .error (.report report) ∧
        report.category = .configuration ∧
        report.message = .text ("Validation error: " ++ problemsMessage problems) := by
  constructor
  · obtain ⟨w', hsaved, haccepted, -⟩ := validate_and_load_saved unevenSettings storable_settingsPath
    exact ⟨w', hsaved, (haccepted _ rfl).2⟩
  · obtain ⟨w', hsaved, -, hrefused, -⟩ :=
      validate_and_load_saved refusedSettings storable_settingsPath
    obtain ⟨-, report, hload, htells⟩ := hrefused _ rfl
    exact ⟨w', hsaved, _, report, rfl, rfl, hload, htells.category, htells.message⟩

end Hypertag.Config
