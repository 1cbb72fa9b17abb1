import Hypertag.Proofs.Results
import Hypertag.Proofs.Workspace.Files

/-!
# What files hold

A place that holds no file has no content. Opening a file to write behind its content changes no
content, and what is written there is all that is added.
-/

namespace Hypertag.Workspace

variable {w w' : Workspace} {p : Path} {place q : Place}

theorem content_of_file {bytes : Bytes} (h : w.entry? q = some (.file bytes)) :
    w.content q = bytes := by
  rw [content, h]

theorem content_of_not_file (h : ∀ bytes, w.entry? q ≠ some (.file bytes)) : w.content q = [] := by
  unfold content
  split
  · next hfile => exact absurd hfile (h _)
  · rfl

/-- Files stay as they are; those that are new are empty. -/
structure KeepsFiles (w w' : Workspace) : Prop where
  files : ∀ q content, w.entry? q = some (.file content) → w'.entry? q = some (.file content)
  contents : ∀ q, w'.content q = w.content q

theorem KeepsFiles.refl (w : Workspace) : KeepsFiles w w := ⟨fun _ _ h => h, fun _ => rfl⟩

theorem KeepsFiles.trans {w₁ w₂ w₃ : Workspace} (h : KeepsFiles w₁ w₂) (h' : KeepsFiles w₂ w₃) :
    KeepsFiles w₁ w₃ :=
  ⟨fun q content hfile => h'.files q content (h.files q content hfile),
    fun q => (h'.contents q).trans (h.contents q)⟩

theorem SameFiles.keepsFiles (h : SameFiles w w') : KeepsFiles w w' where
  files q content := (h q content).mpr
  contents := by
    intro q
    by_cases hfile : ∃ content, w.entry? q = some (.file content)
    · obtain ⟨content, hfile⟩ := hfile
      rw [content_of_file hfile, content_of_file ((h q content).mpr hfile)]
    · rw [not_exists] at hfile
      rw [content_of_not_file hfile, content_of_not_file fun c hc => hfile c ((h q c).mp hc)]

theorem content_set_of_ne (h : q ≠ place) (e : Entry) : content (w.set place e) q = w.content q := by
  rw [content, content, entry?_set_of_ne h]

theorem openAppend_eq_ok (h : w.openAppend p = .ok (place, w')) :
    w.locate p = .ok place ∧ w.entry? place ≠ some .directory ∧
      w' = w.set place (.file (w.content place)) := by
  unfold openAppend at h
  obtain ⟨target, hwritable, htarget⟩ := exists_of_map_ok h
  obtain ⟨rfl, rfl⟩ := Prod.mk.inj htarget
  obtain ⟨hlocate, hentry⟩ := (writable_eq_ok_iff w p target).mp hwritable
  exact ⟨hlocate, hentry, rfl⟩

theorem keepsFiles_of_openAppend (h : w.openAppend p = .ok (place, w')) : KeepsFiles w w' := by
  obtain ⟨-, hentry, rfl⟩ := openAppend_eq_ok h
  have hself : entry? (w.set place (.file (w.content place))) place =
      some (.file (w.content place)) := entry?_set_self hentry
  constructor
  · intro q content hfile
    by_cases hq : q = place
    · subst hq
      rw [hself, content_of_file hfile]
    · rw [entry?_set_of_ne hq, hfile]
  · intro q
    by_cases hq : q = place
    · subst hq
      exact content_of_file hself
    · exact content_set_of_ne hq _

/-! ## Writing behind the content -/

def IsFile (w : Workspace) (place : Place) : Prop := ∃ bytes, w.entry? place = some (.file bytes)

theorem IsFile.ne_directory (h : w.IsFile place) : w.entry? place ≠ some .directory := by
  obtain ⟨bytes, hfile⟩ := h
  simp [hfile]

theorem isFile_append {more : Bytes} (h : w.IsFile place) (hq : w.IsFile q) :
    IsFile (w.append place more) q := by
  by_cases hsame : q = place
  · subst hsame
    exact ⟨_, entry?_set_self h.ne_directory⟩
  · obtain ⟨bytes, hfile⟩ := hq
    exact ⟨bytes, (entry?_set_of_ne hsame).trans hfile⟩

theorem content_append (h : w.IsFile place) (more : Bytes) (q : Place) :
    content (w.append place more) q = w.content q ++ if q = place then more else [] := by
  by_cases hsame : q = place
  · subst hsame
    rw [if_pos rfl]
    exact content_of_file (entry?_set_self h.ne_directory)
  · rw [if_neg hsame, List.append_nil]
    exact content_set_of_ne hsame _

end Hypertag.Workspace
