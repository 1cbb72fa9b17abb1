import Hypertag.Proofs.Workspace.Contents

/-!
# Workspaces of one shape

Two workspaces have the same shape when they hold the same directories, and files at the same places.
Paths lead to the same places in them. What operations do to one they do to the other, with the same
faults, and the shape stays the same.
-/

namespace Hypertag.Workspace

variable {w w' : Workspace} {place : Place} {p : Path}

inductive SameKind (w w' : Workspace) (q : Place) : Prop where
  | nothing (h : w.entry? q = none) (h' : w'.entry? q = none)
  | directory (h : w.entry? q = some .directory) (h' : w'.entry? q = some .directory)
  | file {content content' : Bytes} (h : w.entry? q = some (.file content))
      (h' : w'.entry? q = some (.file content'))

structure SameShape (w w' : Workspace) : Prop where
  home : w'.home = w.home
  kind : ∀ q, SameKind w w' q

theorem SameKind.of_eq {q : Place} (h : w'.entry? q = w.entry? q) : SameKind w w' q := by
  match he : w.entry? q with
  | none => exact .nothing he (h.trans he)
  | some .directory => exact .directory he (h.trans he)
  | some (.file content) => exact .file he (h.trans he)

theorem SameShape.refl (w : Workspace) : SameShape w w := ⟨rfl, fun _ => .of_eq rfl⟩

theorem SameShape.symm (h : SameShape w w') : SameShape w' w := by
  refine ⟨h.home.symm, fun q => ?_⟩
  cases h.kind q with
  | nothing hw hw' => exact .nothing hw' hw
  | directory hw hw' => exact .directory hw' hw
  | file hw hw' => exact .file hw' hw

theorem SameShape.trans {w₁ w₂ w₃ : Workspace} (h : SameShape w₁ w₂) (h' : SameShape w₂ w₃) :
    SameShape w₁ w₃ := by
  refine ⟨h'.home.trans h.home, fun q => ?_⟩
  cases h'.kind q with
  | nothing h₂ h₃ =>
      cases h.kind q with
      | nothing h₁ _ => exact .nothing h₁ h₃
      | directory _ h | file _ h => cases h₂.symm.trans h
  | directory h₂ h₃ =>
      cases h.kind q with
      | directory h₁ _ => exact .directory h₁ h₃
      | nothing _ h | file _ h => cases h₂.symm.trans h
  | file h₂ h₃ =>
      cases h.kind q with
      | file h₁ _ => exact .file h₁ h₃
      | nothing _ h | directory _ h => cases h₂.symm.trans h

/-- Writing a file anew leaves the shape. -/
theorem sameShape_set_file (h : w.IsFile place) (content : Bytes) :
    SameShape w (w.set place (.file content)) := by
  refine ⟨rfl, fun q => ?_⟩
  by_cases hq : q = place
  · obtain ⟨old, hold⟩ := h
    subst hq
    exact .file hold (entry?_set_self (by simp [hold]))
  · exact .of_eq (entry?_set_of_ne hq)

namespace SameShape

theorem directory_iff (h : SameShape w w') (q : Place) :
    w'.entry? q = some .directory ↔ w.entry? q = some .directory := by
  cases h.kind q with
  | nothing hw hw' => rw [hw, hw']
  | directory hw hw' => rw [hw, hw']
  | file hw hw' => simp [hw, hw']

theorem isFile {q : Place} (h : SameShape w w') (hq : w.IsFile q) : w'.IsFile q := by
  obtain ⟨content, hw⟩ := hq
  cases h.kind q with
  | nothing hnone _ => cases hnone.symm.trans hw
  | directory hdirectory _ => cases hdirectory.symm.trans hw
  | file _ hw' => exact ⟨_, hw'⟩

/-- Nothing changes at other places, and both hold the same kind at this one. -/
theorem set (h : SameShape w w') {e e' : Entry}
    (hkind : SameKind (w.set place e) (w'.set place e') place) :
    SameShape (w.set place e) (w'.set place e') := by
  refine ⟨h.home, fun q => ?_⟩
  by_cases hq : q = place
  · rwa [hq]
  · have hw : entry? (w.set place e) q = w.entry? q := entry?_set_of_ne hq
    have hw' : entry? (w'.set place e') q = w'.entry? q := entry?_set_of_ne hq
    cases h.kind q with
    | nothing h h' => exact .nothing (hw.trans h) (hw'.trans h')
    | directory h h' => exact .directory (hw.trans h) (hw'.trans h')
    | file h h' => exact .file (hw.trans h) (hw'.trans h')

theorem set_directory (h : SameShape w w') (hnone : w.entry? place = none) :
    SameShape (w.set place .directory) (w'.set place .directory) := by
  have hnone' : w'.entry? place = none := by
    cases h.kind place with
    | nothing _ hw' => exact hw'
    | directory hw _ | file hw _ => cases hnone.symm.trans hw
  exact h.set (.directory (entry?_set_self (by simp [hnone])) (entry?_set_self (by simp [hnone'])))

theorem set_file (h : SameShape w w') (hentry : w.entry? place ≠ some .directory)
    (content content' : Bytes) :
    SameShape (w.set place (.file content)) (w'.set place (.file content')) :=
  h.set (.file (entry?_set_self hentry)
    (entry?_set_self fun hw' => hentry ((h.directory_iff place).mp hw')))

/-! ## Paths -/

theorem follow_eq (h : SameShape w w') (place : Place) (parts : List Text) :
    w'.follow place parts = w.follow place parts := by
  induction parts generalizing place with
  | nil => rfl
  | cons part rest ih =>
      rw [follow, follow]
      cases h.kind place with
      | nothing hw hw' => rw [hw, hw']
      | directory hw hw' => simp only [hw, hw', ih]
      | file hw hw' => rw [hw, hw']

theorem locate_eq (h : SameShape w w') (p : Path) : w'.locate p = w.locate p := by
  rw [locate, locate, h.home, h.follow_eq]

theorem isDirectory_eq (h : SameShape w w') (p : Path) : w'.isDirectory p = w.isDirectory p := by
  rw [Bool.eq_iff_iff, isDirectory_iff, isDirectory_iff, status_eq_ok_iff, status_eq_ok_iff,
    h.locate_eq]
  simp only [h.directory_iff]

theorem writable_eq (h : SameShape w w') (p : Path) : w'.writable p = w.writable p := by
  rw [writable, writable, h.locate_eq]
  simp only [h.directory_iff]

/-- The same bytes are read when the file at the path's end holds the same. -/
theorem read_eq (h : SameShape w w')
    (hcontent : ∀ q, w.locate p = .ok q → w'.content q = w.content q) : w'.read p = w.read p := by
  rw [read, read, status, status, h.locate_eq]
  cases hlocate : w.locate p with
  | error fault => rfl
  | ok q =>
      have hsame := hcontent q hlocate
      simp only [bind, Except.bind]
      cases h.kind q with
      | nothing hw hw' => rw [hw, hw']
      | directory hw hw' => rw [hw, hw']
      | file hw hw' =>
          rw [content_of_file hw, content_of_file hw'] at hsame
          rw [hw, hw', hsame]

/-! ## What is made -/

inductive Makes (w w' : Workspace) (p : Path) : Prop where
  | fault (f : FileFault) (h : w.makeDirectory p = .error f) (h' : w'.makeDirectory p = .error f)
  | made {v v' : Workspace} (h : w.makeDirectory p = .ok v) (h' : w'.makeDirectory p = .ok v')
      (same : SameShape v v')

theorem makes (h : SameShape w w') (p : Path) : Makes w w' p := by
  have hlocate := h.locate_eq p
  cases hq : w.locate p with
  | error fault =>
      rw [hq] at hlocate
      refine .fault fault ?_ ?_
      · rw [makeDirectory, hq]
        rfl
      · rw [makeDirectory, hlocate]
        rfl
  | ok q =>
      rw [hq] at hlocate
      have hthere : ∀ {v : Workspace} {e : Entry}, v.locate p = .ok q → v.entry? q = some e →
          v.makeDirectory p = .error .exists := fun hlocated hentry =>
        makeDirectory_of_status ((status_eq_ok_iff _ _ _).mpr ⟨q, hlocated, hentry⟩)
      cases h.kind q with
      | nothing hw hw' =>
          exact .made ((makeDirectory_eq_ok_iff _ _ _).mpr ⟨q, hq, hw, rfl⟩)
            ((makeDirectory_eq_ok_iff _ _ _).mpr ⟨q, hlocate, hw', rfl⟩) (h.set_directory hw)
      | directory hw hw' => exact .fault .exists (hthere hq hw) (hthere hlocate hw')
      | file hw hw' => exact .fault .exists (hthere hq hw) (hthere hlocate hw')

theorem missing (h : SameShape w w') (hw : w.makeDirectory p = .error .notFound) :
    w'.makeDirectory p = .error .notFound := by
  cases h.makes p with
  | made hv => cases hw.symm.trans hv
  | fault f hf hf' => rw [hf', ← hf, hw]

structure Alike (r r' : Except FileError Unit × Workspace) : Prop where
  result : r'.1 = r.1
  files : SameShape r.2 r'.2

theorem alike_fault (h : SameShape w w') (p : Path) (e : FileError) :
    Alike (if w.isDirectory p then (.ok (), w) else (.error e, w))
      (if w'.isDirectory p then (.ok (), w') else (.error e, w')) := by
  rw [h.isDirectory_eq]
  split
  · exact ⟨rfl, h⟩
  · exact ⟨rfl, h⟩

/-- Unless the directory above is missing, it is settled at once. -/
theorem alike_of_not_notFound {fuel : Nat} (h : SameShape w w')
    (hfound : w.makeDirectory p ≠ .error .notFound) :
    Alike (w.makeDirectoriesFrom fuel p) (w'.makeDirectoriesFrom fuel p) := by
  cases h.makes p with
  | made hv hv' same =>
      rw [makeDirectoriesFrom_made hv, makeDirectoriesFrom_made hv']
      exact ⟨rfl, same⟩
  | fault f hf hf' =>
      have hne : f ≠ .notFound := by
        rintro rfl
        exact hfound hf
      rw [makeDirectoriesFrom_fault hf hne, makeDirectoriesFrom_fault hf' hne]
      exact h.alike_fault p _

/-- The last step, when the directory above is there. -/
theorem alike_again (h : SameShape w w') (p : Path) :
    Alike
      (match w.makeDirectory p with
        | .ok v => (.ok (), v)
        | .error fault => if w.isDirectory p then (.ok (), w) else (.error ⟨fault, p.text⟩, w))
      (match w'.makeDirectory p with
        | .ok v => (.ok (), v)
        | .error fault => if w'.isDirectory p then (.ok (), w') else (.error ⟨fault, p.text⟩, w')) := by
  cases h.makes p with
  | made hv hv' same =>
      simp only [hv, hv']
      exact ⟨rfl, same⟩
  | fault f hf hf' =>
      simp only [hf, hf']
      exact h.alike_fault p _

theorem alike_makeDirectoriesFrom (h : SameShape w w') (fuel : Nat) (p : Path) :
    Alike (w.makeDirectoriesFrom fuel p) (w'.makeDirectoriesFrom fuel p) := by
  induction fuel generalizing p with
  | zero =>
      by_cases hmissing : w.makeDirectory p = .error .notFound
      · rw [makeDirectoriesFrom_notFound hmissing,
          makeDirectoriesFrom_notFound (h.missing hmissing)]
        exact ⟨rfl, h⟩
      · exact h.alike_of_not_notFound hmissing
  | succ fuel ih =>
      by_cases hmissing : w.makeDirectory p = .error .notFound
      · have habove := ih p.parent
        rcases hr : w.makeDirectoriesFrom fuel p.parent with ⟨r, v⟩
        rcases hr' : w'.makeDirectoriesFrom fuel p.parent with ⟨r', v'⟩
        rw [hr, hr'] at habove
        obtain ⟨hresult, hfiles⟩ := habove
        obtain rfl : r' = r := hresult
        cases r' with
        | error e =>
            rw [makeDirectoriesFrom_stuck hmissing hr,
              makeDirectoriesFrom_stuck (h.missing hmissing) hr']
            exact ⟨rfl, hfiles⟩
        | ok _ =>
            rw [makeDirectoriesFrom_again hmissing hr,
              makeDirectoriesFrom_again (h.missing hmissing) hr']
            exact SameShape.alike_again hfiles p
      · exact h.alike_of_not_notFound hmissing

theorem alike_makeDirectories (h : SameShape w w') (p : Path) :
    Alike (w.makeDirectories p) (w'.makeDirectories p) :=
  h.alike_makeDirectoriesFrom p.parts.length p

inductive Opens (w w' : Workspace) (p : Path) : Prop where
  | fault (f : FileFault) (h : w.openAppend p = .error f) (h' : w'.openAppend p = .error f)
  | opened (place : Place) {v v' : Workspace} (h : w.openAppend p = .ok (place, v))
      (h' : w'.openAppend p = .ok (place, v')) (same : SameShape v v')

theorem opens (h : SameShape w w') (p : Path) : Opens w w' p := by
  have hwritable := h.writable_eq p
  cases hq : w.writable p with
  | error fault =>
      rw [hq] at hwritable
      refine .fault fault ?_ ?_
      · rw [openAppend, hq]
        rfl
      · rw [openAppend, hwritable]
        rfl
  | ok q =>
      rw [hq] at hwritable
      have hentry := ((writable_eq_ok_iff w p q).mp hq).2
      refine .opened q ?_ ?_ (h.set_file hentry (w.content q) (w'.content q))
      · rw [openAppend, hq]
        rfl
      · rw [openAppend, hwritable]
        rfl

end SameShape

end Hypertag.Workspace
