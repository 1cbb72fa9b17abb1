import Hypertag.Scan.Engine

/-!
# The pieces of a searched text

A search divides a text into pieces: characters that no match covers, and matches. What every scan gives
can be read off the pieces.
-/

namespace Hypertag

inductive Piece where
  | plain (c : Char)
  | hit (h : Hit)
  deriving DecidableEq, Repr

namespace Piece

def text : Piece → Text
  | .plain c => [c]
  | .hit h => h.text

def hit? : Piece → Option Hit
  | .plain _ => none
  | .hit h => some h

@[simp] theorem hit?_plain (c : Char) : (plain c).hit? = none := rfl

@[simp] theorem hit?_hit (h : Hit) : (hit h).hit? = some h := rfl

@[simp] theorem text_plain (c : Char) : (plain c).text = [c] := rfl

@[simp] theorem text_hit (h : Hit) : (hit h).text = h.text := rfl

end Piece

/-- Parts and matches in turn, beginning with a part. What is left of either stands at the end. -/
def alternate : List Text → List Text → Text
  | part :: parts, hit :: hits => part ++ hit ++ alternate parts hits
  | parts, hits => parts.flatten ++ hits.flatten

theorem alternate_cons_char (c : Char) (part : Text) (parts hits : List Text) :
    alternate ((c :: part) :: parts) hits = c :: alternate (part :: parts) hits := by
  cases hits <;> simp [alternate]

def replacedFirst (r t : Text) : List Text → List Text → Text
  | before :: _, hit :: _ => before ++ r ++ t.drop (before.length + hit.length)
  | _, _ => t

namespace Pieces

def hits (ps : List Piece) : List Hit := ps.filterMap Piece.hit?

/-- The texts between the matches, with the text before the first and after the last. -/
def between : List Piece → List Text
  | [] => [[]]
  | .plain c :: rest =>
      match between rest with
      | [] => [[c]]
      | t :: ts => (c :: t) :: ts
  | .hit _ :: rest => [] :: between rest

/-- The texts between the matches, each followed by so many groups of the match after it. -/
def withGroups (groups : Nat) : List Piece → List (Option Text)
  | [] => [some []]
  | .plain c :: rest =>
      match withGroups groups rest with
      | some t :: ts => some (c :: t) :: ts
      | ts => some [c] :: ts
  | .hit h :: rest => some [] :: h.groupTexts groups ++ withGroups groups rest

def fillAll (fill : Hit → Text) (ps : List Piece) : Text :=
  ps.flatMap fun
    | .plain c => [c]
    | .hit h => fill h

def fillFirst (fill : Hit → Text) : List Piece → Text
  | [] => []
  | .plain c :: rest => c :: fillFirst fill rest
  | .hit h :: rest => fill h ++ rest.flatMap Piece.text

/-! ## Matches -/

@[simp] theorem hits_nil : hits [] = [] := rfl

@[simp] theorem hits_plain (c : Char) (ps : List Piece) : hits (.plain c :: ps) = hits ps := rfl

@[simp] theorem hits_hit (h : Hit) (ps : List Piece) : hits (.hit h :: ps) = h :: hits ps := rfl

theorem hits_append (ps qs : List Piece) : hits (ps ++ qs) = hits ps ++ hits qs :=
  List.filterMap_append

theorem hits_map_plain (t : Text) : hits (t.map .plain) = [] := by
  induction t with
  | nil => rfl
  | cons c t ih => exact ih

theorem any_hit (ps : List Piece) :
    (ps.any fun piece => piece.hit?.isSome) = !(hits ps).isEmpty := by
  induction ps with
  | nil => rfl
  | cons piece ps ih => cases piece <;> simp [ih]

/-! ## What stands between them -/

@[simp] theorem between_hit (h : Hit) (ps : List Piece) :
    between (.hit h :: ps) = [] :: between ps := rfl

theorem between_plain {c : Char} {ps : List Piece} {part : Text} {parts : List Text}
    (h : between ps = part :: parts) : between (.plain c :: ps) = (c :: part) :: parts := by
  rw [between, h]

theorem exists_between (ps : List Piece) : ∃ part parts, between ps = part :: parts := by
  induction ps with
  | nil => exact ⟨[], [], rfl⟩
  | cons piece ps ih =>
      obtain ⟨part, parts, hparts⟩ := ih
      cases piece with
      | plain c => exact ⟨c :: part, parts, between_plain hparts⟩
      | hit h => exact ⟨[], between ps, rfl⟩

theorem length_between (ps : List Piece) : (between ps).length = (hits ps).length + 1 := by
  induction ps with
  | nil => rfl
  | cons piece ps ih =>
      cases piece with
      | hit h => simp [ih]
      | plain c =>
          obtain ⟨part, parts, hparts⟩ := exists_between ps
          rw [between_plain hparts, hits_plain, ← ih, hparts]
          rfl

theorem alternate_between (ps : List Piece) :
    alternate (between ps) ((hits ps).map (·.text)) = ps.flatMap Piece.text := by
  induction ps with
  | nil => rfl
  | cons piece ps ih =>
      cases piece with
      | hit h => simp [alternate, ih]
      | plain c =>
          obtain ⟨part, parts, hparts⟩ := exists_between ps
          rw [hparts] at ih
          rw [between_plain hparts, hits_plain, alternate_cons_char, ih]
          rfl

theorem withGroups_append (groups : Nat) (w : Text) {ps : List Piece} {part : Text}
    {parts : List (Option Text)} (h : withGroups groups ps = some part :: parts) :
    withGroups groups (w.map .plain ++ ps) = some (w ++ part) :: parts := by
  induction w with
  | nil => exact h
  | cons c w ih => rw [List.map_cons, List.cons_append, withGroups, ih, List.cons_append]

theorem withGroups_map_plain (groups : Nat) (w : Text) :
    withGroups groups (w.map .plain) = [some w] := by
  have happend := withGroups_append groups w (show withGroups groups [] = [some []] from rfl)
  rwa [List.append_nil, List.append_nil] at happend

/-- Without groups these are the texts between the matches. -/
theorem withGroups_zero (ps : List Piece) : withGroups 0 ps = (between ps).map some := by
  induction ps with
  | nil => rfl
  | cons piece ps ih =>
      cases piece with
      | hit h => simp [withGroups, Hit.groupTexts, ih]
      | plain c =>
          obtain ⟨part, parts, hparts⟩ := exists_between ps
          rw [withGroups, ih, between_plain hparts, hparts]
          rfl

/-! ## Replacement -/

theorem fillAll_append (fill : Hit → Text) (ps qs : List Piece) :
    fillAll fill (ps ++ qs) = fillAll fill ps ++ fillAll fill qs :=
  List.flatMap_append

theorem fillAll_map_plain (fill : Hit → Text) (t : Text) : fillAll fill (t.map .plain) = t := by
  induction t with
  | nil => rfl
  | cons c t ih => exact congrArg (c :: ·) ih

theorem fillAll_hit (fill : Hit → Text) (h : Hit) (ps : List Piece) :
    fillAll fill (.hit h :: ps) = fill h ++ fillAll fill ps := rfl

theorem fillAll_eq_join (r : Text) (ps : List Piece) :
    fillAll (fun _ => r) ps = Text.join r (between ps) := by
  induction ps with
  | nil => rfl
  | cons piece ps ih =>
      obtain ⟨part, parts, hparts⟩ := exists_between ps
      rw [fillAll, List.flatMap_cons, ← fillAll, ih]
      cases piece with
      | hit h =>
          rw [between_hit, hparts]
          rfl
      | plain c =>
          rw [between_plain hparts, hparts]
          cases parts <;> rfl

theorem fillFirst_append (fill : Hit → Text) (w : Text) (ps : List Piece) :
    fillFirst fill (w.map .plain ++ ps) = w ++ fillFirst fill ps := by
  induction w with
  | nil => rfl
  | cons c w ih => exact congrArg (c :: ·) ih

theorem fillFirst_eq_replacedFirst (r : Text) (ps : List Piece) :
    fillFirst (fun _ => r) ps =
      replacedFirst r (ps.flatMap Piece.text) (between ps) ((hits ps).map (·.text)) := by
  induction ps with
  | nil => rfl
  | cons piece ps ih =>
      cases piece with
      | hit h => simp [fillFirst, replacedFirst]
      | plain c =>
          obtain ⟨part, parts, hparts⟩ := exists_between ps
          rw [fillFirst, ih, between_plain hparts, hparts, hits_plain]
          cases hits ps with
          | nil => rfl
          | cons h more => simp [replacedFirst, Nat.add_right_comm]

/-- No character is lost where no match is. -/
theorem flatMap_text_map_plain (t : Text) : (t.map Piece.plain).flatMap Piece.text = t := by
  induction t with
  | nil => rfl
  | cons c t ih => exact congrArg (c :: ·) ih

end Pieces

end Hypertag
