import Hypertag.Proofs.Workspace.Contents
import Hypertag.Session

/-!
# Setting up the journal

A call takes the journal's own handlers away and closes their files, opens the log file, attaches new
handlers and sets the level, and may fail at the second and at the last of these steps. What a step did
before a failure is not undone.
-/

namespace Hypertag.Session

open Journal (Console Handler)

variable {s s' : Session} {level : Value} {file : Option Text}

def opens (s : Session) : Option Text → Except FileError (Option Place) × Workspace
  | none => (.ok none, s.files)
  | some file => ((s.openLog file).1.map some, (s.openLog file).2.files)

def ownHandlers (c : Console) (place? : Option Place) : List Handler :=
  .console c :: place?.toList.map .file

inductive Opening (s : Session) (file : Text) : Except FileError Place → Workspace → Prop where
  | directory {e : FileError} {files : Workspace}
      (made : s.files.makeDirectories (Path.ofText file).parent = (.error e, files)) :
      Opening s file (.error e) files
  | refused {fault : FileFault} {files : Workspace}
      (made : s.files.makeDirectories (Path.ofText file).parent = (.ok (), files))
      (opened : files.openAppend (Path.ofText file) = .error fault) :
      Opening s file (.error ⟨fault, s.absolute (Path.ofText file)⟩) files
  | opened {place : Place} {between files : Workspace}
      (made : s.files.makeDirectories (Path.ofText file).parent = (.ok (), between))
      (opened : between.openAppend (Path.ofText file) = .ok (place, files)) :
      Opening s file (.ok place) files

theorem opening_openLog (s : Session) (file : Text) :
    Opening s file (s.openLog file).1 (s.openLog file).2.files := by
  unfold openLog
  dsimp only
  split
  · next made => exact .directory made
  · next made =>
      split
      · next opened => exact .refused made opened
      · next opened => exact .opened made opened

/-- Opening looks at the files alone, and a file that is opened stays open. -/
theorem openLog_release (s : Session) (file : Text) :
    s.release.openLog file =
      ((s.openLog file).1,
        { s.release with
          files := (s.openLog file).2.files,
          streams := (s.openLog file).1.toOption.toList ++ s.release.streams }) := by
  unfold openLog
  dsimp only [release, absolute]
  split
  · rfl
  · split <;> rfl

theorem Opening.keepsFiles {file : Text} {r : Except FileError Place} {files : Workspace}
    (h : Opening s file r files) : s.files.KeepsFiles files := by
  cases h with
  | directory made | refused made _ => exact (Workspace.sameFiles_of_makeDirectories made).keepsFiles
  | opened made opened =>
      exact (Workspace.sameFiles_of_makeDirectories made).keepsFiles.trans
        (Workspace.keepsFiles_of_openAppend opened)

/-- The path of an opened file leads to it. -/
theorem Opening.locate {file : Text} {place : Place} {files : Workspace}
    (h : Opening s file (.ok place) files) :
    files.locate (Path.ofText file) = .ok place ∧
      files.entry? place = some (.file (s.files.content place)) := by
  cases h with
  | opened made opened =>
      obtain ⟨hlocate, hentry, rfl⟩ := Workspace.openAppend_eq_ok opened
      have hkept := (Workspace.sameFiles_of_makeDirectories made).keepsFiles
      refine ⟨Workspace.locate_set hentry hlocate, ?_⟩
      rw [Workspace.entry?_set_self hentry, hkept.contents]

theorem keepsFiles_opens (s : Session) (file : Option Text) : s.files.KeepsFiles (s.opens file).2 := by
  cases file with
  | none => exact .refl _
  | some file => exact (opening_openLog s file).keepsFiles

/-! ## Calls -/

def equipped (s : Session) (files : Workspace) (place? : Option Place) : Session :=
  { s.release with
    files,
    journal := s.journal.withoutOwn.attach (ownHandlers s.console place?),
    streams := place?.toList ++ s.release.streams }

def calling (s : Session) (files : Workspace) (n : Journal.Level) (place? : Option Place) : Session :=
  { s.equipped files place? with journal.level := n }

inductive SetUp (s : Session) (level : Value) (file : Option Text) :
    Except SetupError Unit × Session → Prop where
  | refused {e : FileError} {files : Workspace} (opened : s.opens file = (.error e, files)) :
      SetUp s level file (.error (.file e), { s.release with files })
  | unleveled {e : Journal.LevelError} {place? : Option Place} {files : Workspace}
      (opened : s.opens file = (.ok place?, files)) (unread : Journal.readLevel level = .error e) :
      SetUp s level file (.error (.level e), s.equipped files place?)
  | done {n : Journal.Level} {place? : Option Place} {files : Workspace}
      (opened : s.opens file = (.ok place?, files)) (read : Journal.readLevel level = .ok n) :
      SetUp s level file (.ok (), s.calling files n place?)

theorem setUp_install {place? : Option Place} {files : Workspace}
    (opened : s.opens file = (.ok place?, files)) :
    SetUp s level file
      (install { s.release with files, streams := place?.toList ++ s.release.streams }
        (ownHandlers s.console place?) level) := by
  unfold install
  dsimp only
  split
  · next unread => exact .unleveled opened unread
  · next read => exact .done opened read

theorem opens_of_openLog {file : Text} {r : Except FileError Place} (h : (s.openLog file).1 = r) :
    s.opens (some file) = (r.map some, (s.openLog file).2.files) := by
  rw [opens, h]

theorem setUp_setupLogging (s : Session) (level : Value) (file : Option Text) :
    SetUp s level file (s.setupLogging level file) := by
  cases file with
  | none =>
      have opened : s.opens none = (.ok none, s.files) := rfl
      exact setUp_install opened
  | some file =>
      rw [setupLogging]
      simp only [openLog_release]
      cases hopen : (s.openLog file).1 with
      | error e => exact .refused (opens_of_openLog hopen)
      | ok place => exact setUp_install (opens_of_openLog hopen)

/-! ## Open files -/

theorem places_release (s : Session) : s.release.journal.places = [] := by
  simp only [release, Journal.withoutOwn, Journal.places, List.filterMap_eq_nil_iff, List.mem_filter]
  rintro (_ | _ | _) ⟨-, hforeign⟩
  · rfl
  · cases hforeign
  · rfl

theorem places_ownHandlers (c : Console) (place? : Option Place) :
    (ownHandlers c place?).filterMap Handler.place? = place?.toList := by
  cases place? <;> rfl

theorem places_equipped (s : Session) (files : Workspace) (place? : Option Place) :
    (s.equipped files place?).journal.places = place?.toList := by
  have hleft := places_release s
  simp only [release, Journal.places] at hleft
  simp only [equipped, Journal.places, Journal.attach, List.filterMap_append, hleft, places_ownHandlers,
    List.nil_append]

theorem foldl_erase_self (places : List Place) : places.foldl List.erase places = [] := by
  induction places with
  | nil => rfl
  | cons place places ih => rwa [List.foldl_cons, List.erase_cons_head]

/-- When the open files are those of the handlers, a call leaves it so, also when it fails. -/
theorem streams_setupLogging (h : s.streams = s.journal.places) (level : Value) (file : Option Text) :
    (s.setupLogging level file).2.streams = (s.setupLogging level file).2.journal.places := by
  have hclosed : s.release.streams = [] := by rw [release, h, foldl_erase_self]
  have hequipped : ∀ files place?,
      (s.equipped files place?).streams = (s.equipped files place?).journal.places := by
    intro files place?
    rw [places_equipped, equipped, hclosed, List.append_nil]
  have hsetup := setUp_setupLogging s level file
  generalize s.setupLogging level file = r at hsetup ⊢
  cases hsetup with
  | refused => exact hclosed.trans (places_release s).symm
  | @unleveled _ place? files => exact hequipped files place?
  | @done _ place? files => exact hequipped files place?

/-! ## Failed calls -/

/-- One handler for the console in use, and one for the file that a name leads to. -/
inductive NewHandlers (s : Session) : Option Text → List Handler → Prop where
  | console : NewHandlers s none [.console s.console]
  | file {file : Text} {place : Place} (located : s.files.locate (Path.ofText file) = .ok place) :
      NewHandlers s (some file) [.console s.console, .file place]

theorem newHandlers_of_opens {place? : Option Place} {files : Workspace}
    (h : s.opens file = (.ok place?, files)) :
    NewHandlers (s.equipped files place?) file (ownHandlers s.console place?) := by
  cases file with
  | none =>
      obtain ⟨he, -⟩ := Prod.mk.inj h
      obtain rfl := Except.ok.inj he
      exact .console
  | some file =>
      obtain ⟨he, rfl⟩ := Prod.mk.inj h
      obtain ⟨place, hopen, rfl⟩ := exists_of_map_ok he
      have hopening := opening_openLog s file
      rw [hopen] at hopening
      exact .file hopening.locate.1

/-- A failed call leaves the level, the foreign handlers and the files' contents, but not the own
handlers of calls before it. They are gone and their files closed when the file cannot be opened, and
replaced when only the level is refused. No file is left open but those of the handlers. -/
theorem journal_after_failed_setup {e : SetupError}
    (h : s.setupLogging level file = (.error e, s')) :
    s'.journal.level = s.journal.level ∧
    s.files.KeepsFiles s'.files ∧
    (∀ fault, e = .file fault →
      s'.journal.handlers = s.journal.handlers.filter (!·.isOwn) ∧
      s'.streams = s.journal.places.foldl List.erase s.streams) ∧
    (∀ fault, e = .level fault →
      ∃ own, NewHandlers s' file own ∧
        s'.journal.handlers = s.journal.handlers.filter (!·.isOwn) ++ own ∧
        s'.streams =
          own.filterMap Handler.place? ++ s.journal.places.foldl List.erase s.streams) ∧
    (s.streams = s.journal.places → s'.streams = s'.journal.places) := by
  have hsetup := setUp_setupLogging s level file
  have hkept := keepsFiles_opens s file
  have hstreams := fun hopen => streams_setupLogging (s := s) hopen level file
  rw [h] at hsetup hstreams
  cases hsetup with
  | refused opened =>
      rw [opened] at hkept
      refine ⟨rfl, hkept, ?_, ?_, hstreams⟩
      · exact fun _ _ => ⟨rfl, rfl⟩
      · exact fun _ he => by cases he
  | unleveled opened =>
      rw [opened] at hkept
      refine ⟨rfl, hkept, ?_, ?_, hstreams⟩
      · exact fun _ he => by cases he
      · intro _ _
        refine ⟨_, newHandlers_of_opens opened, rfl, ?_⟩
        rw [places_ownHandlers]
        rfl

def logging : Session :=
  ((initial (.empty ["home"])).setupLogging (.text "INFO") (some "a.log")).2

/-- A path through the log file, which is no directory, and a level that is none. -/
theorem journal_after_two_failures :
    ((logging.setupLogging (.text "INFO") (some "a.log/b.log")).1 =
        .error (.file ⟨.exists, "a.log"⟩) ∧
      (logging.setupLogging (.text "INFO") (some "a.log/b.log")).2.journal.handlers = [] ∧
      (logging.setupLogging (.text "INFO") (some "a.log/b.log")).2.streams = []) ∧
    ((logging.setupLogging (.text "BOGUS") (some "b.log")).1 =
        .error (.level (.unknownName "BOGUS")) ∧
      (∃ own, NewHandlers (logging.setupLogging (.text "BOGUS") (some "b.log")).2 (some "b.log") own ∧
        (logging.setupLogging (.text "BOGUS") (some "b.log")).2.journal.handlers = own) ∧
      (logging.setupLogging (.text "BOGUS") (some "b.log")).2.streams =
        (logging.setupLogging (.text "BOGUS") (some "b.log")).2.journal.places) := by
  have hfile : logging.setupLogging (.text "INFO") (some "a.log/b.log") =
      (.error (.file ⟨.exists, "a.log"⟩), _) := rfl
  have hlevel : logging.setupLogging (.text "BOGUS") (some "b.log") =
      (.error (.level (.unknownName "BOGUS")), _) := rfl
  have hopen : logging.streams = logging.journal.places := rfl
  obtain ⟨-, -, hunopened, -, -⟩ := journal_after_failed_setup hfile
  obtain ⟨-, -, -, hunleveled, hstreams⟩ := journal_after_failed_setup hlevel
  obtain ⟨own, hown, hhandlers, -⟩ := hunleveled _ rfl
  exact ⟨⟨rfl, hunopened _ rfl⟩, rfl, ⟨own, hown, hhandlers⟩, hstreams hopen⟩

/-- The file's handler is lost in a call that fails, and its file is closed. -/
theorem handlers_lost_in_failed_setup :
    (logging.journal.handlers = [.console .session, .file ["home", "a.log"]] ∧
      logging.streams = [(["home", "a.log"] : Place)]) ∧
    (logging.setupLogging (.text "BOGUS") none).1 = .error (.level (.unknownName "BOGUS")) ∧
    (logging.setupLogging (.text "BOGUS") none).2.journal.handlers = [.console .session] ∧
    (logging.setupLogging (.text "BOGUS") none).2.journal.handlers ≠ logging.journal.handlers ∧
    (logging.setupLogging (.text "BOGUS") none).2.streams = [] := by
  refine ⟨⟨rfl, rfl⟩, rfl, rfl, ?_, rfl⟩
  decide

end Hypertag.Session
