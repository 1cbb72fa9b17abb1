import Hypertag.Workspace.Basic
import Mathlib.Data.List.Basic

/-!
# What operations do to files

A file that was written is read back, and no other place changes. Making directories changes no file.
A path leads through directories, so the directory above one that can be read is there already, and
making it changes nothing.
-/

namespace Hypertag.Workspace

variable {w w' : Workspace} {p : Path} {place q : Place} {e : Entry}

/-! ## Entries -/

private theorem lookup_replaced (entries : List (Place × Entry)) (place q : Place) (e : Entry) :
    (entries.map fun (p, old) => if p = place then (p, e) else (p, old)).lookup q =
      if q = place then (entries.lookup q).map fun _ => e else entries.lookup q := by
  induction entries with
  | nil => simp
  | cons entry rest ih =>
      obtain ⟨p, old⟩ := entry
      rw [List.map_cons, List.lookup_cons]
      by_cases hq : q = p
      · by_cases hp : p = place <;> simp [hq, hp]
      · have hne : (q == p) = false := by simpa using hq
        by_cases hp : p = place
        · rw [if_pos hp, List.lookup_cons, hne, ih]
        · rw [if_neg hp, List.lookup_cons, hne, ih]

theorem lookup_set (w : Workspace) (place q : Place) (e : Entry) :
    (w.set place e).entries.lookup q = if q = place then some e else w.entries.lookup q := by
  rw [set]
  by_cases hthere : (w.entries.lookup place).isSome = true
  · rw [if_pos hthere, lookup_replaced]
    obtain ⟨old, hold⟩ := Option.isSome_iff_exists.mp hthere
    by_cases hq : q = place <;> simp [hq, hold]
  · have hnone : w.entries.lookup place = none := by
      rwa [Option.isSome_iff_ne_none, not_not] at hthere
    rw [if_neg hthere, List.lookup_append, List.lookup_cons]
    by_cases hq : q = place
    · simp [hq, hnone]
    · have hne : (q == place) = false := by simpa using hq
      simp [hq, hne]

theorem entry?_set (w : Workspace) (place q : Place) (e : Entry) :
    entry? (w.set place e) q =
      if q.isPrefixOf w.home then some .directory
      else if q = place then some e else w.entry? q := by
  have hhome : (w.set place e).home = w.home := rfl
  unfold entry?
  rw [hhome, lookup_set]
  split <;> rfl

theorem entry?_set_of_ne (h : q ≠ place) : entry? (w.set place e) q = w.entry? q := by
  rw [entry?_set, if_neg h, entry?]
  split <;> rfl

/-- The way to the home directory cannot be written over. -/
theorem entry?_set_self (h : w.entry? place ≠ some .directory) :
    entry? (w.set place e) place = some e := by
  have hhome : ¬ place.isPrefixOf w.home = true := fun hprefix => h (if_pos hprefix)
  rw [entry?_set, if_neg hhome, if_pos rfl]

/-! ## Following a path -/

theorem follow_append (w : Workspace) (place : Place) (parts more : List Text) :
    w.follow place (parts ++ more) = (w.follow place parts).bind fun q => w.follow q more := by
  induction parts generalizing place with
  | nil => rfl
  | cons part rest ih =>
      rw [List.cons_append, follow, follow]
      cases w.entry? place with
      | none => rfl
      | some e =>
          cases e with
          | file content => rfl
          | directory =>
              simp only [ih]
              split
              · rfl
              · split <;> rfl

theorem follow_of_directory (h : w.entry? place = some .directory) (part : Text)
    (rest : List Text) :
    w.follow place (part :: rest) =
      if part = "..".toList then w.follow place.dropLast rest
      else if longestName < (Encoding.encode part).length then .error .nameTooLong
      else w.follow (place ++ [part]) rest := by
  rw [follow, h]

/-- Whoever goes on from a place stands in a directory. -/
theorem entry?_of_follow_cons {part : Text} {rest : List Text}
    (h : w.follow place (part :: rest) = .ok q) : w.entry? place = some .directory := by
  rw [follow] at h
  cases he : w.entry? place with
  | none => simp [he] at h
  | some e =>
      cases e with
      | directory => rfl
      | file content => simp [he] at h

/-- A file that is written stands on the way to no other place. -/
theorem follow_set {target : Place} {parts : List Text}
    (htarget : w.entry? target ≠ some .directory) (h : w.follow place parts = .ok q) :
    (w.set target e).follow place parts = .ok q := by
  induction parts generalizing place with
  | nil => exact h
  | cons part rest ih =>
      have hplace := entry?_of_follow_cons h
      have hsame : entry? (w.set target e) place = some .directory := by
        rw [entry?_set_of_ne, hplace]
        rintro rfl
        exact htarget hplace
      rw [follow_of_directory hplace] at h
      rw [follow_of_directory hsame]
      split at h
      · next hup => rw [if_pos hup, ih h]
      · next hdown =>
          rw [if_neg hdown]
          split at h
          · cases h
          · next hshort => rw [if_neg hshort, ih h]

theorem locate_set {target : Place} (htarget : w.entry? target ≠ some .directory)
    (h : w.locate p = .ok q) : (w.set target e).locate p = .ok q := by
  rw [locate] at h ⊢
  split at h
  · cases h
  · next hnul =>
      rw [if_neg hnul]
      split at h
      · cases h
      · next hshort =>
          rw [if_neg hshort]
          exact follow_set htarget h

/-! ## Reading and writing -/

theorem status_eq_ok_iff (w : Workspace) (p : Path) (e : Entry) :
    w.status p = .ok e ↔ ∃ q, w.locate p = .ok q ∧ w.entry? q = some e := by
  rw [status]
  cases w.locate p with
  | error fault => simp [bind, Except.bind]
  | ok q => cases h : w.entry? q <;> simp [h, bind, Except.bind, pure, Except.pure]

theorem read_eq_ok_iff (w : Workspace) (p : Path) (content : Bytes) :
    w.read p = .ok content ↔ w.status p = .ok (.file content) := by
  rw [read]
  cases w.status p with
  | error fault => simp [bind, Except.bind]
  | ok e => cases e <;> simp [bind, Except.bind, pure, Except.pure]

theorem isDirectory_iff (w : Workspace) (p : Path) :
    w.isDirectory p = true ↔ w.status p = .ok .directory := by
  rw [isDirectory]
  cases w.status p with
  | error fault => simp
  | ok e => cases e <;> simp

theorem writable_eq_ok_iff (w : Workspace) (p : Path) (q : Place) :
    w.writable p = .ok q ↔ w.locate p = .ok q ∧ w.entry? q ≠ some .directory := by
  rw [writable]
  cases w.locate p with
  | error fault => simp [bind, Except.bind]
  | ok place =>
      by_cases h : w.entry? place = some .directory
      · simp only [bind, Except.bind, if_pos h, reduceCtorEq, Except.ok.injEq, false_iff, not_and,
          not_not]
        rintro rfl
        exact h
      · simp only [bind, Except.bind, if_neg h, pure, Except.pure, Except.ok.injEq]
        constructor
        · rintro rfl
          exact ⟨rfl, h⟩
        · exact fun hq => hq.1

theorem exists_of_write {content : Bytes} (h : w.write p content = .ok w') :
    ∃ target, w.locate p = .ok target ∧ w.entry? target ≠ some .directory ∧
      w' = w.set target (.file content) := by
  rw [write] at h
  cases hwritable : w.writable p with
  | error fault => simp [hwritable, Except.map] at h
  | ok target =>
      rw [hwritable] at h
      obtain ⟨hlocate, hentry⟩ := (writable_eq_ok_iff w p target).mp hwritable
      exact ⟨target, hlocate, hentry, (Except.ok.inj h).symm⟩

/-- What was written is read back. -/
theorem read_of_write {content : Bytes} (h : w.write p content = .ok w') :
    w'.read p = .ok content := by
  obtain ⟨target, hlocate, hentry, rfl⟩ := exists_of_write h
  rw [read_eq_ok_iff, status_eq_ok_iff]
  exact ⟨target, locate_set hentry hlocate, entry?_set_self hentry⟩

/-- Only what can be opened to write can be a file that is read. -/
theorem exists_write_of_read {content : Bytes} (h : w.read p = .ok content) (new : Bytes) :
    ∃ w', w.write p new = .ok w' := by
  rw [read_eq_ok_iff, status_eq_ok_iff] at h
  obtain ⟨q, hlocate, hentry⟩ := h
  have hwritable := (writable_eq_ok_iff w p q).mpr ⟨hlocate, by simp [hentry]⟩
  exact ⟨w.set q (.file new), by rw [write, hwritable]; rfl⟩

/-! ## The directory above -/

private theorem join_dropLast_begins (gap : Text) (parts : List Text) :
    Text.join gap parts.dropLast <+: Text.join gap parts := by
  induction parts with
  | nil => exact List.prefix_refl _
  | cons part rest ih =>
      cases rest with
      | nil => exact List.nil_prefix
      | cons next rest =>
          rw [List.dropLast_cons_cons]
          cases hrest : (next :: rest).dropLast with
          | nil =>
              rw [Text.join_singleton, Text.join_cons_cons, List.append_assoc]
              exact List.prefix_append _ _
          | cons mid more =>
              rw [hrest] at ih
              rw [Text.join_cons_cons, Text.join_cons_cons]
              exact (List.prefix_append_right_inj _).mpr ih

private theorem length_encode_le {t u : Text} (h : t <+: u) :
    (Encoding.encode t).length ≤ (Encoding.encode u).length := by
  obtain ⟨more, rfl⟩ := h
  rw [Encoding.encode, Encoding.encode, List.flatMap_append, List.length_append]
  exact Nat.le_add_right _ _

/-- The path of a directory is no longer than those of what is in it. -/
theorem isTooLong_parent (h : isTooLong p.text = false) : isTooLong p.parent.text = false := by
  obtain ⟨root, parts⟩ := p
  by_cases hbare : (root.isEmpty && parts.dropLast.isEmpty) = true
  · rw [Path.text, Path.parent, if_pos hbare]
    decide
  · have hparts : ¬ (root.isEmpty && parts.isEmpty) = true := by
      intro hempty
      refine hbare ?_
      rw [Bool.and_eq_true, List.isEmpty_iff, List.isEmpty_iff] at hempty ⊢
      exact ⟨hempty.1, by rw [hempty.2]; rfl⟩
    rw [Path.text, if_neg hparts] at h
    rw [Path.text, Path.parent, if_neg hbare]
    simp only [isTooLong, decide_eq_false_iff_not, Nat.not_le] at h ⊢
    exact Nat.lt_of_le_of_lt
      (length_encode_le ((List.prefix_append_right_inj root).mpr (join_dropLast_begins _ _))) h

theorem hasNul_parent (h : p.hasNul = false) : p.parent.hasNul = false := by
  rw [Path.hasNul, List.any_eq_false] at h ⊢
  exact fun part hpart => h part (List.dropLast_subset _ hpart)

/-- What stands at the end of a path stands in a directory. -/
theorem status_parent (h : w.status p = .ok e) : w.status p.parent = .ok .directory := by
  rw [status_eq_ok_iff] at h ⊢
  obtain ⟨q, hlocate, -⟩ := h
  rw [locate] at hlocate
  split at hlocate
  · cases hlocate
  · next hnul =>
      split at hlocate
      · cases hlocate
      · next hlong =>
          have hstart : w.locate p.parent =
              w.follow (if p.root.isEmpty then w.home else []) p.parts.dropLast := by
            rw [locate, if_neg (by simp [hasNul_parent (by simpa using hnul)]),
              if_neg (by simp [isTooLong_parent (by simpa using hlong)])]
            rfl
          rw [hstart]
          rcases List.eq_nil_or_concat p.parts with hnil | ⟨init, last, hparts⟩
          · rw [hnil]
            refine ⟨_, rfl, if_pos ?_⟩
            split <;> simp
          · rw [hparts, List.concat_eq_append, follow_append] at hlocate
            rw [hparts, List.concat_eq_append, List.dropLast_concat]
            cases hinit : w.follow (if p.root.isEmpty then w.home else []) init with
            | error fault =>
                rw [hinit] at hlocate
                cases hlocate
            | ok above =>
                rw [hinit] at hlocate
                exact ⟨above, rfl, entry?_of_follow_cons hlocate⟩

/-! ## Making directories -/

theorem makeDirectory_eq_ok_iff (w w' : Workspace) (p : Path) :
    w.makeDirectory p = .ok w' ↔
      ∃ q, w.locate p = .ok q ∧ w.entry? q = none ∧ w' = w.set q .directory := by
  rw [makeDirectory]
  cases w.locate p with
  | error fault => simp [bind, Except.bind]
  | ok q =>
      cases h : w.entry? q <;> simp [h, bind, Except.bind, pure, Except.pure, eq_comm]

theorem makeDirectory_of_status (h : w.status p = .ok e) : w.makeDirectory p = .error .exists := by
  obtain ⟨q, hlocate, hentry⟩ := (status_eq_ok_iff w p e).mp h
  rw [makeDirectory, hlocate]
  simp [hentry, bind, Except.bind]

section Steps

variable {fuel : Nat}

theorem makeDirectoriesFrom_made (h : w.makeDirectory p = .ok w') :
    w.makeDirectoriesFrom fuel p = (.ok (), w') := by
  rw [makeDirectoriesFrom.eq_def]
  simp only [h]

theorem makeDirectoriesFrom_fault {fault : FileFault} (h : w.makeDirectory p = .error fault)
    (hfault : fault ≠ .notFound) :
    w.makeDirectoriesFrom fuel p =
      if w.isDirectory p then (.ok (), w) else (.error ⟨fault, p.text⟩, w) := by
  rw [makeDirectoriesFrom.eq_def]
  cases fault with
  | notFound => exact absurd rfl hfault
  | _ => simp only [h]

theorem makeDirectoriesFrom_notFound (h : w.makeDirectory p = .error .notFound) :
    w.makeDirectoriesFrom 0 p = (.error ⟨.notFound, p.text⟩, w) := by
  rw [makeDirectoriesFrom.eq_def]
  simp only [h]

theorem makeDirectoriesFrom_stuck {e : FileError} (h : w.makeDirectory p = .error .notFound)
    (habove : w.makeDirectoriesFrom fuel p.parent = (.error e, w')) :
    w.makeDirectoriesFrom (fuel + 1) p = (.error e, w') := by
  rw [makeDirectoriesFrom.eq_def]
  simp only [h, habove]

/-- Once the directory above is there it is tried again. -/
theorem makeDirectoriesFrom_again (h : w.makeDirectory p = .error .notFound)
    (habove : w.makeDirectoriesFrom fuel p.parent = (.ok (), w')) :
    w.makeDirectoriesFrom (fuel + 1) p =
      match w'.makeDirectory p with
      | .ok w => (.ok (), w)
      | .error fault =>
          if w'.isDirectory p then (.ok (), w') else (.error ⟨fault, p.text⟩, w') := by
  have hstep := makeDirectoriesFrom.eq_def (fuel + 1) w p
  simp only [h, habove] at hstep
  exact hstep

end Steps

/-- One that is there already is left as it is. -/
theorem makeDirectories_of_status (h : w.status p = .ok .directory) :
    w.makeDirectories p = (.ok (), w) := by
  have hmade := makeDirectory_of_status h
  rw [makeDirectories, makeDirectoriesFrom_fault hmade (by simp),
    if_pos ((isDirectory_iff w p).mpr h)]

def SameFiles (w w' : Workspace) : Prop :=
  ∀ place content, w'.entry? place = some (.file content) ↔ w.entry? place = some (.file content)

theorem SameFiles.refl (w : Workspace) : SameFiles w w := fun _ _ => Iff.rfl

theorem SameFiles.trans {w₁ w₂ w₃ : Workspace} (h : SameFiles w₁ w₂) (h' : SameFiles w₂ w₃) :
    SameFiles w₁ w₃ :=
  fun place content => (h' place content).trans (h place content)

theorem sameFiles_of_makeDirectory (h : w.makeDirectory p = .ok w') : SameFiles w w' := by
  obtain ⟨target, -, hnone, rfl⟩ := (makeDirectory_eq_ok_iff w w' p).mp h
  intro place content
  by_cases hplace : place = target
  · subst hplace
    rw [entry?_set_self (by simp [hnone]), hnone]
    simp
  · rw [entry?_set_of_ne hplace]

structure Settled (w : Workspace) (p : Path) (r : Except FileError Unit × Workspace) : Prop where
  files : SameFiles w r.2
  failed : ∀ e, r.1 = .error e → r.2.status p ≠ .ok .directory

theorem settled_made (h : w.makeDirectory p = .ok w') : Settled w p (.ok (), w') :=
  ⟨sameFiles_of_makeDirectory h, fun _ he => by cases he⟩

theorem settled_fault (w : Workspace) (p : Path) (e : FileError) :
    Settled w p (if w.isDirectory p then (.ok (), w) else (.error e, w)) := by
  by_cases hthere : w.isDirectory p = true
  · rw [if_pos hthere]
    exact ⟨.refl w, fun _ he => by cases he⟩
  · rw [if_neg hthere]
    exact ⟨.refl w, fun _ _ => (isDirectory_iff w p).not.mp hthere⟩

/-- Unless the directory above is missing, it is settled at once. -/
theorem settled_of_not_notFound {fuel : Nat} (h : w.makeDirectory p ≠ .error .notFound) :
    Settled w p (w.makeDirectoriesFrom fuel p) := by
  cases hmade : w.makeDirectory p with
  | ok w' =>
      rw [makeDirectoriesFrom_made hmade]
      exact settled_made hmade
  | error fault =>
      have hfault : fault ≠ .notFound := by
        rintro rfl
        exact h hmade
      rw [makeDirectoriesFrom_fault hmade hfault]
      exact settled_fault w p _

theorem settled_makeDirectoriesFrom (fuel : Nat) (w : Workspace) (p : Path) :
    Settled w p (w.makeDirectoriesFrom fuel p) := by
  induction fuel generalizing w p with
  | zero =>
      by_cases hmade : w.makeDirectory p = .error .notFound
      · rw [makeDirectoriesFrom_notFound hmade]
        refine ⟨.refl w, fun _ _ hthere => ?_⟩
        rw [makeDirectory_of_status hthere] at hmade
        cases hmade
      · exact settled_of_not_notFound hmade
  | succ fuel ih =>
      by_cases hmade : w.makeDirectory p = .error .notFound
      · have habove := ih w p.parent
        rcases hr : w.makeDirectoriesFrom fuel p.parent with ⟨r, w₁⟩
        rw [hr] at habove
        cases r with
        | error e =>
            -- Without the directory above there is none at the path either.
            rw [makeDirectoriesFrom_stuck hmade hr]
            refine ⟨habove.files, fun _ _ hthere => ?_⟩
            exact habove.failed e rfl (status_parent hthere)
        | ok _ =>
            have hlast : Settled w₁ p (w.makeDirectoriesFrom (fuel + 1) p) := by
              rw [makeDirectoriesFrom_again hmade hr]
              cases hagain : w₁.makeDirectory p with
              | ok w₂ => exact settled_made hagain
              | error fault => exact settled_fault w₁ p ⟨fault, p.text⟩
            exact ⟨habove.files.trans hlast.files, hlast.failed⟩
      · exact settled_of_not_notFound hmade

theorem settled_makeDirectories (w : Workspace) (p : Path) : Settled w p (w.makeDirectories p) :=
  settled_makeDirectoriesFrom p.parts.length w p

theorem sameFiles_of_makeDirectories {r : Except FileError Unit}
    (h : w.makeDirectories p = (r, w')) : SameFiles w w' := by
  have hsettled := settled_makeDirectories w p
  rw [h] at hsettled
  exact hsettled.files

theorem not_directory_of_makeDirectories {e : FileError}
    (h : w.makeDirectories p = (.error e, w')) : w'.status p ≠ .ok .directory := by
  have hsettled := settled_makeDirectories w p
  rw [h] at hsettled
  exact hsettled.failed e rfl

end Hypertag.Workspace
