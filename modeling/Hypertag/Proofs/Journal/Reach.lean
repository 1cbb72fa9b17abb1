import Hypertag.Proofs.Journal.Delivery
import Hypertag.Proofs.Workspace.Shape

/-!
# How far records reach

A record changes the files that handlers write to, and nothing else in the workspace. In workspaces of
one shape a log file is opened at the same place, or not at all for the same fault.
-/

namespace Hypertag.Session

open Journal (Console Handler Record)
open Workspace (SameShape IsFile)

variable {s s' t : Session} {hs : List Handler} {file : Option Text}

/-- Only the files of some handlers change, and stay files. -/
structure Reaches (s : Session) (hs : List Handler) (t : Session) : Prop where
  shape : SameShape s.files t.files
  elsewhere : ∀ q, Handler.file q ∉ hs → t.files.content q = s.files.content q

theorem reaches_of_files (h : t.files = s.files) : Reaches s hs t := by
  refine ⟨?_, fun q _ => ?_⟩
  · rw [h]
    exact .refl _
  · rw [h]

theorem reaches_print (c : Console) (text : Text) : Reaches s hs (s.print c text) :=
  reaches_of_files (by cases c <;> rfl)

theorem reaches_file {place : Place} (h : s.files.IsFile place) (line : Text) :
    Reaches s [.file place] (s.deliver line (.file place)) := by
  refine ⟨Workspace.sameShape_set_file h _, fun q hq => ?_⟩
  exact Workspace.content_set_of_ne (by simpa using hq) _

theorem Reaches.step {handler : Handler} (h : Reaches s [handler] t) {u : Session}
    (hrest : Reaches t hs u) : Reaches s (handler :: hs) u where
  shape := h.shape.trans hrest.shape
  elsewhere := by
    intro q hq
    rw [List.mem_cons, not_or] at hq
    rw [hrest.elsewhere q hq.2, h.elsewhere q (by simpa using hq.1)]

theorem reaches_foldl_deliver (h : ∀ place, Handler.file place ∈ hs → s.files.IsFile place)
    (line : Text) : Reaches s hs (hs.foldl (fun s h => s.deliver line h) s) := by
  induction hs generalizing s with
  | nil => exact reaches_of_files rfl
  | cons handler hs ih =>
      have hfirst : Reaches s [handler] (s.deliver line handler) := by
        cases handler with
        | console c => exact reaches_print c _
        | file place => exact reaches_file (h place List.mem_cons_self) line
        | foreign => exact reaches_of_files rfl
      have hfiles : ∀ place, Handler.file place ∈ hs →
          (s.deliver line handler).files.IsFile place := fun place hplace =>
        hfirst.shape.isFile (h place (List.mem_cons_of_mem _ hplace))
      exact hfirst.step (ih hfiles)

theorem reaches_note (h : ∀ place, Handler.file place ∈ s.journal.handlers → s.files.IsFile place)
    (level : LogLevel) (message : Text) :
    Reaches s s.journal.handlers (s.note level message) := by
  rw [note, log_of_package rfl]
  split
  · split
    · split
      · exact reaches_print s.console _
      · exact reaches_of_files rfl
    · exact reaches_foldl_deliver h _
  · exact reaches_of_files rfl

/-! ## Opening the log -/

theorem openLog_eq (h : SameShape s.files s'.files) (file : Text) :
    (s'.openLog file).1 = (s.openLog file).1 ∧
      SameShape (s.openLog file).2.files (s'.openLog file).2.files := by
  have habsolute : s'.absolute (Path.ofText file) = s.absolute (Path.ofText file) := by
    rw [absolute, absolute, h.home]
  obtain ⟨hresult, hfiles⟩ := h.alike_makeDirectories (Path.ofText file).parent
  rcases hr : s.files.makeDirectories (Path.ofText file).parent with ⟨r, v⟩
  rcases hr' : s'.files.makeDirectories (Path.ofText file).parent with ⟨r', v'⟩
  rw [hr, hr'] at hresult hfiles
  obtain rfl : r' = r := hresult
  cases r' with
  | error e =>
      simp only [openLog, hr, hr']
      exact ⟨trivial, hfiles⟩
  | ok _ =>
      cases SameShape.opens hfiles (Path.ofText file) with
      | fault f hf hf' =>
          simp only [openLog, hr, hr', hf, hf', habsolute]
          exact ⟨trivial, hfiles⟩
      | opened place hv hv' same =>
          simp only [openLog, hr, hr', hv, hv']
          exact ⟨trivial, same⟩

theorem opens_eq (h : SameShape s.files s'.files) (file : Option Text) :
    (s'.opens file).1 = (s.opens file).1 ∧ SameShape (s.opens file).2 (s'.opens file).2 := by
  cases file with
  | none => exact ⟨rfl, h⟩
  | some file =>
      obtain ⟨hresult, hfiles⟩ := openLog_eq h file
      exact ⟨congrArg (Except.map some) hresult, hfiles⟩

/-- The name that was given leads to the file that was opened. -/
theorem locate_of_opens {place : Place} {files : Workspace}
    (h : s.opens file = (.ok (some place), files)) :
    ∃ name, file = some name ∧ files.locate (Path.ofText name) = .ok place := by
  cases newHandlers_of_opens h with
  | @file name _ located => exact ⟨name, rfl, located⟩

/-! ## Notes after a call -/

theorem mem_attached_iff (j : Journal) (c : Console) (place? : Option Place) (q : Place) :
    Handler.file q ∈ (j.withoutOwn.attach (ownHandlers c place?)).handlers ↔ place? = some q := by
  simp [Journal.attach, Journal.withoutOwn, ownHandlers, Handler.isOwn]

theorem reaches_note_calling {files : Workspace} {place? : Option Place}
    (h : s.opens file = (.ok place?, files)) (n : Journal.Level) (level : LogLevel) (message : Text) :
    Reaches (s.calling files n place?) (s.calling files n place?).journal.handlers
      ((s.calling files n place?).note level message) := by
  apply reaches_note
  intro place hplace
  have hopened : (s.opens file).1.toOption = some (some place) →
      (s.opens file).2.IsFile place := isFile_of_opens
  rw [h] at hopened
  exact hopened (congrArg some ((mem_attached_iff _ _ _ _).mp hplace))

/-- The shape is that of the workspace in which the log was opened, and contents are as they were before
the call. -/
theorem note_calling {files : Workspace} {place? : Option Place}
    (h : s.opens file = (.ok place?, files)) (n : Journal.Level) (level : LogLevel) (message : Text) :
    SameShape files ((s.calling files n place?).note level message).files ∧
      ∀ q, place? ≠ some q →
        ((s.calling files n place?).note level message).files.content q = s.files.content q := by
  have hreaches := reaches_note_calling h n level message
  have hkept := keepsFiles_opens s file
  rw [h] at hkept
  refine ⟨hreaches.shape, fun q hq => ?_⟩
  rw [hreaches.elsewhere q ((mem_attached_iff _ _ _ _).not.mpr hq)]
  exact hkept.contents q

end Hypertag.Session
