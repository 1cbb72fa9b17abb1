import Hypertag.Proofs.Config.Checking
import Hypertag.Proofs.Json.Emission
import Hypertag.Proofs.Text.Encoding

/-!
# Settings after a save that failed

A save fails before it touches the file, when there is no directory for it or the path cannot be
written to, or it fails at a value that has no JSON form. The first leaves every file as it was. The
second leaves the part that was written before the value, and no settings are read from it.
-/

namespace Hypertag.Config

variable {w w' : Workspace} {p : Path} {v : Value}

/-! ## Documents cut off -/

/-- What is left of a document that was cut off is refused. -/
theorem ofBytes_of_fault (h : (Json.write .unicode v).fault ≠ none) (c : Config) :
    ofBytes (Encoding.encode (Json.write .unicode v).text) ≠ .ok c := by
  intro hbytes
  rw [ofBytes, Encoding.decode_encode] at hbytes
  obtain ⟨t, ht, hbytes⟩ := exists_of_bind_ok hbytes
  obtain rfl := Except.ok.inj ht
  obtain ⟨document, hread, -⟩ := exists_of_bind_ok hbytes
  rw [Json.read, mapError_eq_ok_iff, mapError_eq_ok_iff] at hread
  exact Json.not_readDocument_of_fault h document hread

theorem check_ne_of_fault (h : (Json.write .unicode v).fault ≠ none)
    (hread : w.read p = .ok (Encoding.encode (Json.write .unicode v).text)) (c : Config) :
    check w p ≠ .ok (.ok c) := by
  intro hcheck
  obtain ⟨content, hcontent, hbytes⟩ := (check_eq_ok_iff w p c).mp hcheck
  obtain rfl := Except.ok.inj (hread.symm.trans hcontent)
  exact ofBytes_of_fault h c hbytes

/-! ## Saving -/

inductive FailedSave (w : Workspace) (v : Value) (p : Path) : SaveError → Workspace → Prop where
  | directory {e : FileError} {w' : Workspace}
      (made : w.makeDirectories p.parent = (.error e, w')) : FailedSave w v p (.file e) w'
  | opening {fault : FileFault} {w' : Workspace}
      (made : w.makeDirectories p.parent = (.ok (), w'))
      (refused : w'.write p (Encoding.encode (Json.write .unicode v).text) = .error fault) :
      FailedSave w v p (.file ⟨fault, p.text⟩) w'
  | writing {fault : Json.WriteFault} {between w' : Workspace}
      (made : w.makeDirectories p.parent = (.ok (), between))
      (written : between.write p (Encoding.encode (Json.write .unicode v).text) = .ok w')
      (stopped : (Json.write .unicode v).fault = some fault) : FailedSave w v p (.write fault) w'

theorem failedSave_of_save {e : SaveError} (h : save w v p = (.error e, w')) :
    FailedSave w v p e w' := by
  rw [save] at h
  dsimp only at h
  split at h
  · next made =>
      obtain ⟨he, rfl⟩ := Prod.mk.inj h
      obtain rfl := Except.error.inj he
      exact .directory made
  · next between made =>
      split at h
      · next refused =>
          obtain ⟨he, rfl⟩ := Prod.mk.inj h
          obtain rfl := Except.error.inj he
          exact .opening made refused
      · next written =>
          obtain ⟨he, rfl⟩ := Prod.mk.inj h
          cases hfault : (Json.write .unicode v).fault with
          | none =>
              rw [Json.Emission.result, hfault] at he
              cases he
          | some fault =>
              rw [Json.Emission.result, hfault] at he
              obtain rfl := Except.error.inj he
              exact .writing made written hfault

/-- The directory of a file that can be read is there, and making it does nothing. -/
theorem makeDirectories_of_read {content : Bytes} (h : w.read p = .ok content) :
    w.makeDirectories p.parent = (.ok (), w) :=
  Workspace.makeDirectories_of_status
    (Workspace.status_parent ((Workspace.read_eq_ok_iff w p content).mp h))

/-- A fault of the file system means that there is no file, before or after. -/
theorem FailedSave.not_read {e : FileError} (h : FailedSave w v p (.file e) w') (content : Bytes) :
    w.read p ≠ .ok content ∧ w'.read p ≠ .ok content := by
  cases h with
  | directory made =>
      refine ⟨fun hread => ?_, fun hread => ?_⟩
      · rw [makeDirectories_of_read hread] at made
        cases made
      · exact Workspace.not_directory_of_makeDirectories made
          (Workspace.status_parent ((Workspace.read_eq_ok_iff w' p content).mp hread))
  | opening made refused =>
      have hafter : ∀ content, w'.read p ≠ .ok content := by
        intro content hread
        obtain ⟨_, hwrite⟩ := Workspace.exists_write_of_read hread
          (Encoding.encode (Json.write .unicode v).text)
        rw [hwrite] at refused
        cases refused
      refine ⟨fun hread => ?_, hafter content⟩
      rw [makeDirectories_of_read hread] at made
      obtain rfl := (Prod.mk.inj made).2
      exact hafter content hread

/-- A fault of the file system changes no file. -/
theorem FailedSave.sameFiles {e : FileError} (h : FailedSave w v p (.file e) w') :
    Workspace.SameFiles w w' := by
  cases h with
  | directory made | opening made => exact Workspace.sameFiles_of_makeDirectories made

/-- A fault of the value leaves what was written before it, and changes no other file. -/
theorem FailedSave.writing_cases {fault : Json.WriteFault} (h : FailedSave w v p (.write fault) w') :
    (Json.write .unicode v).fault = some fault ∧
      w'.read p = .ok (Encoding.encode (Json.write .unicode v).text) ∧
      ∀ q content, w'.locate p ≠ .ok q →
        (w'.entry? q = some (.file content) ↔ w.entry? q = some (.file content)) := by
  cases h with
  | writing made written stopped =>
      refine ⟨stopped, Workspace.read_of_write written, fun q content hq => ?_⟩
      obtain ⟨target, hlocate, hentry, rfl⟩ := Workspace.exists_of_write written
      have hne : q ≠ target := by
        rintro rfl
        exact hq (Workspace.locate_set hentry hlocate)
      rw [Workspace.entry?_set_of_ne hne]
      exact Workspace.sameFiles_of_makeDirectories made q content

/-! ## What stands after a failure -/

/-- Nothing that can be read is lost to a fault of the file system, and what could be loaded still can. A
fault of the value costs the file that was to be saved, and no other. -/
theorem files_after_failed_save {e : SaveError} (h : save w v p = (.error e, w')) :
    (∀ fault, e = .file fault →
      Workspace.SameFiles w w' ∧
      (∀ content, w'.read p = .ok content ↔ w.read p = .ok content) ∧
      ∀ c, (load w' p = .ok c ↔ load w p = .ok c) ∧
        (validate w' p = .ok ⟨true, none, some c⟩ ↔ validate w p = .ok ⟨true, none, some c⟩)) ∧
    (∀ fault, e = .write fault →
      (Json.write .unicode v).fault = some fault ∧
      w'.read p = .ok (Encoding.encode (Json.write .unicode v).text) ∧
      (∀ c, load w' p ≠ .ok c) ∧
      (∀ verdict, validate w' p = .ok verdict → verdict.valid = false ∧ verdict.config = none) ∧
      ∀ q content, w'.locate p ≠ .ok q →
        (w'.entry? q = some (.file content) ↔ w.entry? q = some (.file content))) := by
  have hfailed := failedSave_of_save h
  constructor
  · rintro fault rfl
    have hread : ∀ content, w'.read p = .ok content ↔ w.read p = .ok content := fun content =>
      iff_of_false (hfailed.not_read content).2 (hfailed.not_read content).1
    have hcheck : ∀ c, check w' p = .ok (.ok c) ↔ check w p = .ok (.ok c) := fun c => by
      simp only [check_eq_ok_iff, hread]
    refine ⟨hfailed.sameFiles, hread, fun c => ⟨?_, ?_⟩⟩
    · rw [load_eq_ok_iff, load_eq_ok_iff, hcheck]
    · rw [validate_eq_accepted_iff, validate_eq_accepted_iff, hcheck]
  · rintro fault rfl
    obtain ⟨hstopped, hread, hothers⟩ := hfailed.writing_cases
    have hcheck := check_ne_of_fault (by simp [hstopped]) hread
    refine ⟨hstopped, hread, fun c hload => ?_, fun verdict hvalidate => ?_, hothers⟩
    · exact hcheck c ((load_eq_ok_iff w' p c).mp hload)
    · obtain ⟨r, hr, rfl⟩ := exists_of_map_ok hvalidate
      cases r with
      | error r => exact ⟨rfl, rfl⟩
      | ok c => exact absurd hr (hcheck c)

def homeWith (settings : Text) : Workspace :=
  ⟨["home"], [(["home", "c.json"], .file (Encoding.encode settings))]⟩

def settingsPath : Path := ⟨[], ["c.json"]⟩

/-- Settings with a set among them, which JSON has no form for. -/
def unwritable : Value := .dict [(.text "log_level", .text "info"), (.text "x", .set [])]

def cutOff : Text := "\x7b\n  \"log_level\": \"info\",\n  \"x\": "

/-- A path through the file of settings, which is no directory, and through one that is not there. -/
def pathThroughFile : Path := ⟨[], ["d", "..", "c.json", "s.json"]⟩

theorem save_unwritable :
    save (homeWith "\x7b\x7d") unwritable settingsPath =
      (.error (.write (.noForm "set")), homeWith cutOff) := rfl

theorem save_throughFile :
    save (homeWith "\x7b\x7d") unwritable pathThroughFile =
      (.error (.file ⟨.exists, "d/../c.json"⟩), (homeWith "\x7b\x7d").set ["home", "d"] .directory) :=
  rfl

/-- A value refused in the middle of the settings, and a directory that cannot be made. -/
theorem files_after_two_failures :
    (save (homeWith "\x7b\x7d") unwritable settingsPath =
        (.error (.write (.noForm "set")), homeWith cutOff) ∧
      ∀ c, load (homeWith cutOff) settingsPath ≠ .ok c) ∧
    (save (homeWith "\x7b\x7d") unwritable pathThroughFile =
        (.error (.file ⟨.exists, "d/../c.json"⟩),
          (homeWith "\x7b\x7d").set ["home", "d"] .directory) ∧
      Workspace.SameFiles (homeWith "\x7b\x7d")
        ((homeWith "\x7b\x7d").set ["home", "d"] .directory)) :=
  ⟨⟨save_unwritable, ((files_after_failed_save save_unwritable).2 _ rfl).2.2.1⟩,
    save_throughFile, ((files_after_failed_save save_throughFile).1 _ rfl).1⟩

/-- Settings that were accepted are lost with a save that fails. -/
theorem settings_lost_in_failed_save :
    save (homeWith "\x7b\x7d") unwritable settingsPath =
        (.error (.write (.noForm "set")), homeWith cutOff) ∧
      load (homeWith "\x7b\x7d") settingsPath = .ok .default ∧
      (homeWith cutOff).read settingsPath ≠ (homeWith "\x7b\x7d").read settingsPath ∧
      ∀ c, load (homeWith cutOff) settingsPath ≠ .ok c := by
  have hread : (homeWith cutOff).read settingsPath = .ok (Encoding.encode cutOff) := rfl
  refine ⟨save_unwritable, rfl, by decide, fun c hload => ?_⟩
  exact check_ne_of_fault (by decide : (Json.write .unicode unwritable).fault ≠ none) hread c
    ((load_eq_ok_iff _ _ c).mp hload)

end Hypertag.Config
