import Hypertag.Proofs.Journal.Setup
import Mathlib.Data.List.Induction

/-!
# What a log holds

A run sets up the journal and logs records, in any order. A record that passes the level goes once to
the console and once to the file of the latest call, if that call attached them, and to no other file,
so every file ends with its entries in the order in which they were made.
-/

namespace Hypertag

open Journal (Console Handler Record)

/-! ## Runs -/

structure PackageLogger where
  name : Text
  belongs : Journal.isPackageLogger name = true

/-- What a run is made of. A call may fail; the run goes on. -/
inductive LogEvent where
  | setUp (level : Value) (file : Option Text)
  | record (logger : PackageLogger) (r : Record)

namespace LogEvent

/-- The events of a run, each with those before it. -/
def moments (before : List LogEvent) : List LogEvent → List (List LogEvent × LogEvent)
  | [] => []
  | e :: rest => (before, e) :: moments (before ++ [e]) rest

theorem moments_concat (before events : List LogEvent) (e : LogEvent) :
    moments before (events ++ [e]) = moments before events ++ [(before ++ events, e)] := by
  induction events generalizing before with
  | nil => simp [moments]
  | cons first rest ih => simp [moments, ih]

theorem flatMap_moments {α : Type} (f : List LogEvent × LogEvent → List α) (events : List LogEvent)
    (e : LogEvent) :
    (moments [] (events ++ [e])).flatMap f = (moments [] events).flatMap f ++ f (events, e) := by
  rw [moments_concat, List.flatMap_append, List.flatMap_singleton, List.nil_append]

/-- The file named in the latest call, with the events before the call. -/
def latestCall? (events : List LogEvent) : Option (List LogEvent × Option Text) :=
  (moments [] events).reverse.findSome? fun
    | (before, .setUp _ file) => some (before, file)
    | (_, .record ..) => none

theorem latestCall?_setUp (events : List LogEvent) (level : Value) (file : Option Text) :
    latestCall? (events ++ [.setUp level file]) = some (events, file) := by
  rw [latestCall?, moments_concat, List.reverse_append]
  rfl

theorem latestCall?_record (events : List LogEvent) (logger : PackageLogger) (r : Record) :
    latestCall? (events ++ [.record logger r]) = latestCall? events := by
  rw [latestCall?, moments_concat, List.reverse_append]
  rfl

end LogEvent

/-- Standard dispatch lets a record pass that has a positive level, which the journal's level does not
exceed. -/
def Journal.Passes (j : Journal) (r : Record) : Prop := 0 < r.level ∧ j.effectiveLevel ≤ r.level

instance (j : Journal) (r : Record) : Decidable (j.Passes r) := instDecidableAnd

namespace Session

open LogEvent

def step (s : Session) : LogEvent → Session
  | .setUp level file => (s.setupLogging level file).2
  | .record logger r => s.log logger.name r

def after (s : Session) (events : List LogEvent) : Session := events.foldl step s

theorem after_concat (s : Session) (events : List LogEvent) (e : LogEvent) :
    s.after (events ++ [e]) = (s.after events).step e :=
  List.foldl_concat step s e events

/-- What the latest call attached: nothing when it could not open its file, and otherwise a handler for
the console and perhaps one for a file. -/
def attached? (s : Session) (events : List LogEvent) : Option (Option Place) :=
  (latestCall? events).bind fun (before, file) => ((s.after before).opens file).1.toOption

def fileEntry (j : Journal) (attached : Option (Option Place)) (r : Record) (place : Place) : Bytes :=
  if j.Passes r ∧ attached = some (some place) then Encoding.encode (r.line ++ ['\n']) else []

/-- What the console gets of a record. Without any handler the message stands alone, when the record
has the default level or a higher one. -/
def consoleEntry (j : Journal) (attached : Option (Option Place)) (foreign : List Handler) (r : Record) :
    Text :=
  if j.Passes r then
    if attached.isSome then r.line ++ ['\n']
    else if foreign.isEmpty ∧ Journal.defaultLevel ≤ r.level then r.message ++ ['\n']
    else []
  else []

def entryAt (s : Session) (place : Place) : List LogEvent × LogEvent → Bytes
  | (before, .record _ r) => fileEntry (s.after before).journal (s.attached? before) r place
  | (_, .setUp ..) => []

def shownAt (s : Session) : List LogEvent × LogEvent → Text
  | (before, .record _ r) =>
      consoleEntry (s.after before).journal (s.attached? before) s.journal.handlers r
  | (_, .setUp ..) => []

def shown (s : Session) : Console → Text
  | .session => s.sessionConsole
  | .command => s.commandConsole

variable {s t : Session} {events : List LogEvent} {place q : Place} {line : Text}

/-! ## One call -/

def ownOf (c : Console) : Option (Option Place) → List Handler
  | none => []
  | some place? => ownHandlers c place?

/-- What a call does to a session: all but its level. -/
structure Replaced (s : Session) (file : Option Text) (t : Session) : Prop where
  console : t.console = s.console
  shown : ∀ c, t.shown c = s.shown c
  files : t.files = (s.opens file).2
  handlers : t.journal.handlers =
    s.journal.handlers.filter (!·.isOwn) ++ ownOf s.console (s.opens file).1.toOption

theorem replaced_setupLogging (s : Session) (level : Value) (file : Option Text) :
    Replaced s file (s.setupLogging level file).2 := by
  have hsetup := setUp_setupLogging s level file
  generalize s.setupLogging level file = r at hsetup ⊢
  cases hsetup with
  | refused opened =>
      refine ⟨rfl, fun c => by cases c <;> rfl, by rw [opened], ?_⟩
      rw [opened]
      exact (List.append_nil _).symm
  | unleveled opened | done opened =>
      refine ⟨rfl, fun c => by cases c <;> rfl, ?_, ?_⟩
      · rw [opened]
        rfl
      · rw [opened]
        rfl

theorem isFile_of_opens (h : (s.opens file).1.toOption = some (some place)) :
    (s.opens file).2.IsFile place := by
  cases file with
  | none => cases h
  | some file =>
      have hopening := opening_openLog s file
      cases hopen : (s.openLog file).1 with
      | error e => simp [opens, hopen, Except.map, Except.toOption] at h
      | ok opened =>
          simp only [opens, hopen, Except.map, Except.toOption, Option.some.injEq] at h
          subst h
          rw [hopen] at hopening
          exact ⟨_, hopening.locate.2⟩

/-! ## One record -/

@[simp] theorem shown_print (s : Session) (c d : Console) (t : Text) :
    (s.print c t).shown d = s.shown d ++ if d = c then t else [] := by
  cases c <;> cases d <;> simp [print, shown]

theorem shown_files (s : Session) (files : Workspace) (c : Console) :
    ({ s with files } : Session).shown c = s.shown c := by
  cases c <;> rfl

@[simp] theorem files_print (s : Session) (c : Console) (t : Text) : (s.print c t).files = s.files := by
  cases c <;> rfl

@[simp] theorem journal_print (s : Session) (c : Console) (t : Text) :
    (s.print c t).journal = s.journal := by
  cases c <;> rfl

@[simp] theorem streams_print (s : Session) (c : Console) (t : Text) :
    (s.print c t).streams = s.streams := by
  cases c <;> rfl

@[simp] theorem console_print (s : Session) (c : Console) (t : Text) :
    (s.print c t).console = s.console := by
  cases c <;> rfl

theorem foldl_deliver_foreign {hs : List Handler} (h : ∀ handler ∈ hs, handler.isOwn = false)
    (s : Session) (line : Text) : hs.foldl (fun s h => s.deliver line h) s = s := by
  induction hs with
  | nil => rfl
  | cons handler hs ih =>
      have hforeign := h handler List.mem_cons_self
      cases handler with
      | foreign => exact ih fun handler hmem => h handler (List.mem_cons_of_mem _ hmem)
      | console c | file place => cases hforeign

theorem kept_foldl_deliver (hs : List Handler) (s : Session) (line : Text) :
    (hs.foldl (fun s h => s.deliver line h) s).journal = s.journal ∧
      (hs.foldl (fun s h => s.deliver line h) s).streams = s.streams := by
  induction hs generalizing s with
  | nil => exact ⟨rfl, rfl⟩
  | cons handler hs ih =>
      obtain ⟨hjournal, hstreams⟩ := ih (s.deliver line handler)
      rw [List.foldl_cons, hjournal, hstreams]
      cases handler with
      | console c => exact ⟨journal_print s c _, streams_print s c _⟩
      | file place | foreign => exact ⟨rfl, rfl⟩

structure Logged (s : Session) (attached : Option (Option Place)) (foreign : List Handler) (r : Record)
    (t : Session) : Prop where
  console : t.console = s.console
  journal : t.journal = s.journal
  isFile : ∀ q, s.files.IsFile q → t.files.IsFile q
  contents : ∀ q, t.files.content q = s.files.content q ++ fileEntry s.journal attached r q
  shown : t.shown s.console = s.shown s.console ++ consoleEntry s.journal attached foreign r

section Records

variable {attached : Option (Option Place)} {foreign : List Handler} {r : Record}

/-- A record that is dropped, or that only other handlers get. -/
theorem logged_nowhere (hfile : ∀ q, fileEntry s.journal attached r q = [])
    (hconsole : consoleEntry s.journal attached foreign r = []) : Logged s attached foreign r s where
  console := rfl
  journal := rfl
  isFile _ h := h
  contents q := by rw [hfile, List.append_nil]
  shown := by rw [hconsole, List.append_nil]

theorem logged_console {text : Text} (hfile : ∀ q, fileEntry s.journal attached r q = [])
    (hconsole : consoleEntry s.journal attached foreign r = text) :
    Logged s attached foreign r (s.print s.console text) where
  console := console_print s s.console text
  journal := journal_print s s.console text
  isFile q h := by rwa [files_print]
  contents q := by rw [hfile, List.append_nil, files_print]
  shown := by rw [hconsole, shown_print, if_pos rfl]

theorem logged_file {text : Text} (hplace : s.files.IsFile place)
    (hfile : ∀ q, fileEntry s.journal attached r q = if q = place then Encoding.encode text else [])
    (hconsole : consoleEntry s.journal attached foreign r = text) :
    Logged s attached foreign r
      { s.print s.console text with files := s.files.append place (Encoding.encode text) } where
  console := console_print s s.console text
  journal := journal_print s s.console text
  isFile q h := Workspace.isFile_append hplace h
  contents q := by rw [hfile, Workspace.content_append hplace]
  shown := by rw [hconsole, shown_files, shown_print, if_pos rfl]

theorem log_of_package {logger : Text} (h : Journal.isPackageLogger logger = true) (s : Session)
    (r : Record) :
    s.log logger r =
      if s.journal.Passes r then
        if s.journal.handlers.isEmpty then
          if Journal.defaultLevel ≤ r.level then s.print s.console (r.message ++ ['\n']) else s
        else s.journal.handlers.foldl (fun s h => s.deliver r.line h) s
      else s := by
  have hdrop : (r.level ≤ 0 ∨ r.level < s.journal.effectiveLevel) ↔ ¬ s.journal.Passes r := by
    unfold Journal.Passes
    omega
  unfold log
  simp only [h, if_true, hdrop]
  by_cases hpass : s.journal.Passes r
  · rw [if_neg (not_not.mpr hpass), if_pos hpass]
  · rw [if_pos hpass, if_neg hpass]

/-- A record opens nothing and closes nothing. -/
theorem kept_log {logger : Text} (h : Journal.isPackageLogger logger = true) (s : Session)
    (r : Record) : (s.log logger r).journal = s.journal ∧ (s.log logger r).streams = s.streams := by
  rw [log_of_package h]
  split
  · split
    · split
      · exact ⟨journal_print _ _ _, streams_print _ _ _⟩
      · exact ⟨rfl, rfl⟩
    · exact kept_foldl_deliver s.journal.handlers s r.line
  · exact ⟨rfl, rfl⟩

/-- The own handlers each get the line once. -/
theorem foldl_deliver_own (hforeign : ∀ h ∈ foreign, h.isOwn = false) (s : Session) (line : Text)
    (c : Console) (place? : Option Place) :
    (foreign ++ ownHandlers c place?).foldl (fun s h => s.deliver line h) s =
      match place? with
      | none => s.print c (line ++ ['\n'])
      | some place =>
          { s.print c (line ++ ['\n']) with
            files := s.files.append place (Encoding.encode (line ++ ['\n'])) } := by
  rw [List.foldl_append, foldl_deliver_foreign hforeign]
  cases place? <;> cases c <;> rfl

theorem logged_log (logger : PackageLogger) (hforeign : ∀ h ∈ foreign, h.isOwn = false)
    (hhandlers : s.journal.handlers = foreign ++ ownOf s.console attached)
    (hfile : ∀ place, attached = some (some place) → s.files.IsFile place) :
    Logged s attached foreign r (s.log logger.name r) := by
  rw [log_of_package logger.belongs, hhandlers]
  by_cases hpass : s.journal.Passes r
  case neg =>
    rw [if_neg hpass]
    apply logged_nowhere
    · exact fun q => if_neg fun h => hpass h.1
    · exact if_neg hpass
  rw [if_pos hpass]
  -- Without own handlers the record may still go to other ones, which write nothing, or to none.
  cases attached with
  | none =>
      have hnowhere : ∀ q, fileEntry s.journal none r q = [] := fun q => if_neg (by simp)
      have hentry : consoleEntry s.journal none foreign r =
          if foreign.isEmpty ∧ Journal.defaultLevel ≤ r.level then r.message ++ ['\n'] else [] :=
        if_pos hpass
      rw [ownOf, List.append_nil]
      by_cases hempty : foreign.isEmpty = true
      · rw [if_pos hempty]
        by_cases hlevel : Journal.defaultLevel ≤ r.level
        · rw [if_pos hlevel]
          exact logged_console hnowhere (hentry.trans (if_pos ⟨hempty, hlevel⟩))
        · rw [if_neg hlevel]
          exact logged_nowhere hnowhere (hentry.trans (if_neg fun h => hlevel h.2))
      · rw [if_neg hempty, foldl_deliver_foreign hforeign]
        exact logged_nowhere hnowhere (hentry.trans (if_neg fun h => hempty h.1))
  | some place? =>
      have hentry : consoleEntry s.journal (some place?) foreign r = r.line ++ ['\n'] := if_pos hpass
      have hsome : (foreign ++ ownOf s.console (some place?)).isEmpty = false := by
        simp [ownOf, ownHandlers]
      rw [hsome, if_neg Bool.false_ne_true, ownOf, foldl_deliver_own hforeign]
      cases place? with
      | none => exact logged_console (fun q => if_neg (by simp)) hentry
      | some place =>
          apply logged_file (hfile place rfl) _ hentry
          intro q
          simp only [fileEntry, hpass, true_and, Option.some.injEq, eq_comm]

end Records

/-! ## A whole run -/

/-- What holds after any events of a run that began without own handlers. -/
structure Delivered (s : Session) (events : List LogEvent) : Prop where
  console : (s.after events).console = s.console
  handlers : (s.after events).journal.handlers =
    s.journal.handlers ++ ownOf s.console (s.attached? events)
  isFile : ∀ place, s.attached? events = some (some place) → (s.after events).files.IsFile place
  contents : ∀ place, (s.after events).files.content place =
    s.files.content place ++ (moments [] events).flatMap (s.entryAt place)
  shown : (s.after events).shown s.console =
    s.shown s.console ++ (moments [] events).flatMap s.shownAt

theorem filter_own (hforeign : ∀ h ∈ s.journal.handlers, h.isOwn = false)
    (attached : Option (Option Place)) :
    (s.journal.handlers ++ ownOf s.console attached).filter (!·.isOwn) = s.journal.handlers ∧
      (s.journal.handlers ++ ownOf s.console attached).filter (·.isOwn) = ownOf s.console attached := by
  have hown : ∀ h ∈ ownOf s.console attached, h.isOwn = true := by
    match attached with
    | none => simp [ownOf]
    | some none => simp [ownOf, ownHandlers, Handler.isOwn]
    | some (some place) => simp [ownOf, ownHandlers, Handler.isOwn]
  constructor
  · rw [List.filter_append, List.filter_eq_self.mpr, List.filter_eq_nil_iff.mpr, List.append_nil]
    · simpa using hown
    · simpa using hforeign
  · rw [List.filter_append, List.filter_eq_nil_iff.mpr, List.filter_eq_self.mpr, List.nil_append]
    · exact hown
    · simpa using hforeign

theorem Delivered.setUp (h : Delivered s events)
    (hforeign : ∀ h ∈ s.journal.handlers, h.isOwn = false) (level : Value) (file : Option Text) :
    Delivered s (events ++ [.setUp level file]) := by
  have hattached : s.attached? (events ++ [.setUp level file]) =
      ((s.after events).opens file).1.toOption := by
    rw [attached?, latestCall?_setUp]
    rfl
  have hreplaced := replaced_setupLogging (s.after events) level file
  have hafter : s.after (events ++ [.setUp level file]) =
      ((s.after events).setupLogging level file).2 := after_concat s events _
  rw [← hafter] at hreplaced
  constructor
  · exact hreplaced.console.trans h.console
  · rw [hreplaced.handlers, h.handlers, (filter_own hforeign _).1, h.console, hattached]
  · intro place hplace
    rw [hattached] at hplace
    rw [hreplaced.files]
    exact isFile_of_opens hplace
  · intro place
    -- Opening adds nothing, not even to a file that is opened again.
    rw [hreplaced.files, (keepsFiles_opens _ file).contents, h.contents, flatMap_moments]
    exact congrArg _ (List.append_nil _).symm
  · rw [hreplaced.shown, h.shown, flatMap_moments]
    exact congrArg _ (List.append_nil _).symm

theorem Delivered.record (h : Delivered s events)
    (hforeign : ∀ h ∈ s.journal.handlers, h.isOwn = false) (logger : PackageLogger) (r : Record) :
    Delivered s (events ++ [.record logger r]) := by
  have hattached : s.attached? (events ++ [.record logger r]) = s.attached? events := by
    rw [attached?, latestCall?_record]
    rfl
  have hhandlers := h.handlers
  rw [← h.console] at hhandlers
  have hlogged : Logged (s.after events) (s.attached? events) s.journal.handlers r _ :=
    logged_log logger hforeign hhandlers h.isFile
  have hafter : s.after (events ++ [.record logger r]) = (s.after events).log logger.name r :=
    after_concat s events _
  rw [← hafter] at hlogged
  constructor
  · exact hlogged.console.trans h.console
  · rw [hlogged.journal, h.handlers, hattached]
  · intro place hplace
    rw [hattached] at hplace
    exact hlogged.isFile place (h.isFile place hplace)
  · intro place
    rw [hlogged.contents, h.contents, flatMap_moments, List.append_assoc]
    rfl
  · have hshown := hlogged.shown
    rw [h.console, h.shown] at hshown
    rw [hshown, flatMap_moments, List.append_assoc]
    rfl

/-- After any run that began so, the open files are those of the attached handlers. -/
theorem streams_after (h : s.streams = s.journal.places) (events : List LogEvent) :
    (s.after events).streams = (s.after events).journal.places := by
  induction events using List.reverseRecOn with
  | nil => exact h
  | append_singleton events e ih =>
      rw [after_concat]
      cases e with
      | setUp level file => exact streams_setupLogging ih level file
      | record logger r =>
          obtain ⟨hjournal, hstreams⟩ := kept_log logger.belongs (s.after events) r
          rw [step, hjournal, hstreams, ih]

end Session

end Hypertag
