import Hypertag.Proofs.Scan.Pieces
import Hypertag.Scan.Basic

/-!
# Runs of an engine

A run is what the searches of an engine find one after the other until there is nothing to find. Every
text has one, and the bound on the turns of a loop never ends a loop before its run does. So each loop
reads its result off the same pieces.
-/

namespace Hypertag

namespace Text

theorem slice_append_drop (t : Text) {n k : Nat} (h : n ≤ k) : t.slice n k ++ t.drop k = t.drop n := by
  rw [slice]
  by_cases hk : k ≤ t.length
  · rw [← List.drop_append_of_le_length (by simp; omega), List.take_append_drop]
  · rw [List.take_of_length_le (by omega), List.drop_eq_nil_of_le (show t.length ≤ k by omega),
      List.append_nil]

theorem slice_self (t : Text) (n : Nat) : t.slice n n = [] :=
  List.drop_eq_nil_iff.mpr (List.length_take_le n t)

theorem slice_of_drop {t u : Text} {n k : Nat} {c : Char} (h : n + 1 ≤ k) (hu : t.drop n = c :: u) :
    t.slice n k = c :: t.slice (n + 1) k := by
  have hnext : t.drop (n + 1) = u := by rw [← List.drop_drop, hu]; rfl
  rw [slice, slice, List.drop_take, List.drop_take, hu, hnext, show k - n = (k - (n + 1)) + 1 by omega]
  rfl

end Text

namespace Pieces

/-- The pieces of a text from a place on when these are the matches. -/
def around (t : Text) : Nat → List Occurrence → List Piece
  | n, [] => (t.drop n).map .plain
  | n, o :: os => (t.slice n o.start).map .plain ++ .hit o.hit :: around t o.stop os

theorem hits_around (t : Text) (n : Nat) (os : List Occurrence) :
    hits (around t n os) = os.map (·.hit) := by
  induction os generalizing n with
  | nil => exact hits_map_plain _
  | cons o os ih => rw [around, hits_append, hits_map_plain, hits_hit, ih]; rfl

end Pieces

namespace Engine

open Pattern (Replacement)

variable {e : Engine} {t : Text} {n : Nat} {nonempty : Bool} {o : Occurrence} {os : List Occurrence}

/-! ## One search -/

structure Stands (t : Text) (n : Nat) (nonempty : Bool) (o : Occurrence) : Prop where
  later : n ≤ o.start
  inside : o.start ≤ t.length
  begins : o.hit.text <+: t.drop o.start
  moves : o.start = n → nonempty = true → o.hit.text ≠ []

theorem stands_of_tryPlaces {places : Nat} (hplaces : n + places ≤ t.length + 1)
    (h : e.tryPlaces t places n nonempty = some o) : Stands t n nonempty o := by
  induction places generalizing n nonempty with
  | zero => cases h
  | succ places ih =>
      rw [tryPlaces] at h
      split at h
      · next hit hmatch =>
          obtain rfl := Option.some.inj h
          have hn : n ≤ t.length := by omega
          refine ⟨Nat.le_refl n, hn, e.stands t n nonempty hit hn hmatch, fun _ hnonempty => ?_⟩
          rw [hnonempty] at hmatch
          exact e.moves t n hit hmatch
      · obtain ⟨hlater, hinside, hbegins, -⟩ := ih (by omega) h
        exact ⟨by omega, hinside, hbegins, fun hsame => by omega⟩

theorem stands_of_search (hn : n ≤ t.length) (h : e.search t n nonempty = some o) :
    Stands t n nonempty o :=
  stands_of_tryPlaces (by omega) h

theorem Stands.stop_le (h : Stands t n nonempty o) : o.stop ≤ t.length := by
  have hlength := h.begins.length_le
  have hinside := h.inside
  rw [List.length_drop] at hlength
  rw [Occurrence.stop]
  omega

theorem Stands.append_drop (h : Stands t n nonempty o) :
    t.slice n o.start ++ o.hit.text ++ t.drop o.stop = t.drop n := by
  have hrest := List.prefix_iff_eq_append.mp h.begins
  rw [List.drop_drop] at hrest
  rw [List.append_assoc, Occurrence.stop, hrest, t.slice_append_drop h.later]

/-- Each match leaves fewer turns: either it has characters, or one at its place must have some. -/
theorem Stands.turnsLeft_lt (h : Stands t n nonempty o) :
    turnsLeft t o.stop o.isEmpty < turnsLeft t n nonempty := by
  have hlater := h.later
  have hstop := h.stop_le
  have hmoves := h.moves
  rw [Occurrence.stop] at *
  cases htext : o.hit.text with
  | cons c w =>
      rw [htext, List.length_cons] at hstop
      cases nonempty <;> simp [turnsLeft, Occurrence.isEmpty, htext] <;> omega
  | nil =>
      rw [htext, List.length_nil, Nat.add_zero] at hstop
      cases nonempty with
      | false => simp [turnsLeft, Occurrence.isEmpty, htext]; omega
      | true =>
          have hmoved : o.start ≠ n := fun hsame => hmoves hsame rfl htext
          simp [turnsLeft, Occurrence.isEmpty, htext]
          omega

/-- A loop with turns enough has one for the match and enough for what comes after it. -/
theorem Stands.exists_turns {turns : Nat} (h : Stands t n nonempty o)
    (hturns : turnsLeft t n nonempty ≤ turns) :
    ∃ k, turns = k + 1 ∧ turnsLeft t o.stop o.isEmpty ≤ k := by
  have hless := h.turnsLeft_lt
  exact ⟨turns - 1, by omega, by omega⟩

/-- Where a match is, the search finds it. -/
theorem search_of_match {h : Hit} (hn : n ≤ t.length) (hmatch : e.matchAt? t n nonempty = some h) :
    e.search t n nonempty = some ⟨n, h⟩ := by
  rw [search, show t.length + 1 - n = (t.length - n) + 1 by omega, tryPlaces, hmatch]

/-- Where none is, the search goes on behind the next character. -/
theorem search_of_none (hn : n < t.length) (hmatch : e.matchAt? t n nonempty = none) :
    e.search t n nonempty = e.search t (n + 1) false := by
  rw [search, show t.length + 1 - n = (t.length - n) + 1 by omega, tryPlaces, hmatch, search,
    show t.length + 1 - (n + 1) = t.length - n by omega]

theorem search_length_of_none (hmatch : e.matchAt? t t.length nonempty = none) :
    e.search t t.length nonempty = none := by
  rw [search, show t.length + 1 - t.length = 0 + 1 by omega, tryPlaces, hmatch]
  rfl

/-! ## Runs -/

inductive Run (e : Engine) (t : Text) : Nat → Bool → List Occurrence → Prop where
  | stop {n : Nat} {nonempty : Bool} : e.search t n nonempty = none → Run e t n nonempty []
  | next {n : Nat} {nonempty : Bool} {o : Occurrence} {os : List Occurrence} :
      e.search t n nonempty = some o → Run e t o.stop o.isEmpty os → Run e t n nonempty (o :: os)

theorem exists_run (e : Engine) (hn : n ≤ t.length) (nonempty : Bool) :
    ∃ os, e.Run t n nonempty os := by
  induction hk : turnsLeft t n nonempty using Nat.strongRecOn generalizing n nonempty with
  | ind k ih =>
      cases hsearch : e.search t n nonempty with
      | none => exact ⟨[], .stop hsearch⟩
      | some o =>
          have hstands := stands_of_search hn hsearch
          have hless := hstands.turnsLeft_lt
          rw [hk] at hless
          obtain ⟨os, hrun⟩ := ih _ hless hstands.stop_le o.isEmpty rfl
          exact ⟨o :: os, .next hsearch hrun⟩

theorem Run.of_match {h : Hit} (hn : n ≤ t.length) (hmatch : e.matchAt? t n nonempty = some h)
    (hrun : e.Run t (n + h.text.length) h.text.isEmpty os) : e.Run t n nonempty (⟨n, h⟩ :: os) :=
  .next (search_of_match hn hmatch) hrun

theorem Run.of_none (hn : n < t.length) (hmatch : e.matchAt? t n nonempty = none)
    (hrun : e.Run t (n + 1) false os) : e.Run t n nonempty os := by
  have hsearch := search_of_none hn hmatch
  cases hrun with
  | stop hnone => exact .stop (hsearch.trans hnone)
  | next hsome hrest => exact .next (hsearch.trans hsome) hrest

theorem Run.of_none_at_end (hmatch : e.matchAt? t t.length nonempty = none) :
    e.Run t t.length nonempty [] :=
  .stop (search_length_of_none hmatch)

/-- A character before the run is a piece of its own. -/
theorem Run.around_of_drop {c : Char} {u : Text} (h : e.Run t (n + 1) nonempty os)
    (hn : n + 1 ≤ t.length) (hu : t.drop n = c :: u) :
    Pieces.around t n os = .plain c :: Pieces.around t (n + 1) os := by
  have hnext : t.drop (n + 1) = u := by rw [← List.drop_drop, hu]; rfl
  cases h with
  | stop _ => rw [Pieces.around, Pieces.around, hu, hnext]; rfl
  | next hsearch _ =>
      have hlater := (stands_of_search hn hsearch).later
      rw [Pieces.around, Pieces.around, Text.slice_of_drop hlater hu]
      rfl

theorem Run.flatMap_text (h : e.Run t n nonempty os) (hn : n ≤ t.length) :
    (Pieces.around t n os).flatMap Piece.text = t.drop n := by
  induction h with
  | stop _ => exact Pieces.flatMap_text_map_plain _
  | next hsearch _ ih =>
      have hstands := stands_of_search hn hsearch
      rw [Pieces.around, List.flatMap_append, Pieces.flatMap_text_map_plain, List.flatMap_cons,
        Piece.text_hit, ih hstands.stop_le, ← List.append_assoc]
      exact hstands.append_drop

/-! ## The loops -/

section Loops

variable {turns : Nat} (h : e.Run t n nonempty os) (hn : n ≤ t.length)
  (hturns : turnsLeft t n nonempty ≤ turns)

include h hn hturns

theorem Run.occurrencesFrom_eq : e.occurrencesFrom t turns n nonempty = os := by
  induction h generalizing turns with
  | stop hnone =>
      cases turns with
      | zero => rfl
      | succ turns => rw [occurrencesFrom, hnone]
  | next hsearch _ ih =>
      have hstands := stands_of_search hn hsearch
      obtain ⟨k, rfl, hk⟩ := hstands.exists_turns hturns
      rw [occurrencesFrom, hsearch]
      exact congrArg (_ :: ·) (ih hstands.stop_le hk)

theorem Run.splitFrom_eq :
    e.splitFrom t turns n nonempty = Pieces.withGroups e.groups.length (Pieces.around t n os) := by
  induction h generalizing turns with
  | stop hnone =>
      rw [Pieces.around, Pieces.withGroups_map_plain]
      cases turns with
      | zero => rfl
      | succ turns => rw [splitFrom, hnone]
  | next hsearch _ ih =>
      have hstands := stands_of_search hn hsearch
      obtain ⟨k, rfl, hk⟩ := hstands.exists_turns hturns
      have hrest := ih hstands.stop_le hk
      rw [splitFrom, hsearch, Pieces.around, Pieces.withGroups_append _ _ rfl, ← hrest,
        List.append_nil]
      rfl

theorem Run.replaceFrom_all (r : Replacement) :
    e.replaceFrom t r turns none n nonempty = Pieces.fillAll r.expand (Pieces.around t n os) := by
  induction h generalizing turns with
  | stop hnone =>
      rw [Pieces.around, Pieces.fillAll_map_plain]
      cases turns with
      | zero => rfl
      | succ turns => rw [replaceFrom, if_neg nofun, hnone]
  | next hsearch _ ih =>
      have hstands := stands_of_search hn hsearch
      obtain ⟨k, rfl, hk⟩ := hstands.exists_turns hturns
      have hrest := ih hstands.stop_le hk
      rw [replaceFrom, if_neg nofun, hsearch, Pieces.around, Pieces.fillAll_append,
        Pieces.fillAll_map_plain, Pieces.fillAll_hit, ← hrest, ← List.append_assoc]
      rfl

/-- When one match was replaced the loop copies what is left. -/
theorem Run.replaceFrom_one (r : Replacement) :
    e.replaceFrom t r turns (some 1) n nonempty =
      Pieces.fillFirst r.expand (Pieces.around t n os) := by
  cases h with
  | stop hnone =>
      have hplain := Pieces.fillFirst_append r.expand (t.drop n) []
      rw [List.append_nil] at hplain
      rw [Pieces.around, hplain]
      cases turns with
      | zero => exact (List.append_nil _).symm
      | succ turns =>
          rw [replaceFrom, if_neg (by simp), hnone]
          exact (List.append_nil _).symm
  | @next _ _ o os hsearch hrest =>
      have hstands := stands_of_search hn hsearch
      obtain ⟨k, rfl, -⟩ := hstands.exists_turns hturns
      have hcopied : e.replaceFrom t r k ((some 1).map (· - 1)) o.stop o.isEmpty = t.drop o.stop := by
        cases k <;> rfl
      rw [replaceFrom, if_neg (by simp), hsearch]
      dsimp only
      rw [hcopied, Pieces.around, Pieces.fillFirst_append, Pieces.fillFirst,
        hrest.flatMap_text hstands.stop_le, List.append_assoc]

end Loops

/-! ## Whole texts -/

def pieces (e : Engine) (t : Text) : List Piece := Pieces.around t 0 (e.occurrences t)

theorem run_occurrences (e : Engine) (t : Text) : e.Run t 0 false (e.occurrences t) := by
  obtain ⟨os, hrun⟩ := exists_run e (Nat.zero_le t.length) false
  rwa [occurrences, hrun.occurrencesFrom_eq (Nat.zero_le _) (Nat.le_refl _)]

theorem pieces_eq_of_run (h : e.Run t 0 false os) : e.pieces t = Pieces.around t 0 os := by
  rw [pieces, occurrences, h.occurrencesFrom_eq (Nat.zero_le _) (Nat.le_refl _)]

variable (e t)

/-- Nothing of a text is lost or added between its pieces. -/
theorem flatMap_text_pieces : (e.pieces t).flatMap Piece.text = t :=
  (e.run_occurrences t).flatMap_text (Nat.zero_le _)

theorem search_eq_head? : e.search t 0 false = (e.occurrences t).head? := by
  have hrun := e.run_occurrences t
  generalize e.occurrences t = os at hrun ⊢
  cases hrun with
  | stop hnone => exact hnone
  | next hsome _ => exact hsome

theorem detect_eq_pieces : e.detect t = (e.pieces t).any fun piece => piece.hit?.isSome := by
  rw [detect, search_eq_head?, Pieces.any_hit, pieces, Pieces.hits_around]
  cases e.occurrences t <;> rfl

theorem matchFirst?_eq_pieces :
    e.matchFirst? t = (Pieces.hits (e.pieces t)).head?.map (·.text) := by
  rw [matchFirst?, search_eq_head?, pieces, Pieces.hits_around, List.head?_map, Option.map_map]
  rfl

theorem matchAll_eq_pieces : e.matchAll t = (Pieces.hits (e.pieces t)).map (·.text) := by
  rw [matchAll, pieces, Pieces.hits_around, List.map_map]
  rfl

theorem split_eq_pieces : e.split t = Pieces.withGroups e.groups.length (e.pieces t) :=
  (e.run_occurrences t).splitFrom_eq (Nat.zero_le _) (Nat.le_refl _)

theorem replace_all_eq_pieces (r : Replacement) :
    e.replace t r none = Pieces.fillAll r.expand (e.pieces t) :=
  (e.run_occurrences t).replaceFrom_all (Nat.zero_le _) (Nat.le_refl _) r

theorem replace_one_eq_pieces (r : Replacement) :
    e.replace t r (some 1) = Pieces.fillFirst r.expand (e.pieces t) :=
  (e.run_occurrences t).replaceFrom_one (Nat.zero_le _) (Nat.le_refl _) r

end Engine

namespace Pattern

abbrev pieces (p : Pattern) (t : Text) : List Piece := p.engine.pieces t

variable (p : Pattern) (t : Text)

theorem detect_eq_pieces : p.detect t = (p.pieces t).any fun piece => piece.hit?.isSome :=
  p.engine.detect_eq_pieces t

theorem matchFirst?_eq_pieces :
    p.matchFirst? t = (Pieces.hits (p.pieces t)).head?.map (·.text) :=
  p.engine.matchFirst?_eq_pieces t

theorem matchAll_eq_pieces : p.matchAll t = (Pieces.hits (p.pieces t)).map (·.text) :=
  p.engine.matchAll_eq_pieces t

theorem replaceFirst_eq_pieces (r : Replacement) :
    p.replaceFirst r t = Pieces.fillFirst r.expand (p.pieces t) :=
  p.engine.replace_one_eq_pieces t r

theorem replaceAll_eq_pieces (r : Replacement) :
    p.replaceAll r t = Pieces.fillAll r.expand (p.pieces t) :=
  p.engine.replace_all_eq_pieces t r

theorem split_eq_pieces (hgroups : p.groups = []) : p.split t = Pieces.between (p.pieces t) := by
  have hlength : p.engine.groups.length = 0 := congrArg List.length hgroups
  rw [split, p.engine.split_eq_pieces t, hlength, Pieces.withGroups_zero, List.filterMap_map]
  exact List.filterMap_some

end Pattern

theorem Needle.read_of_pattern {written : Text} {p : Pattern} (h : Pattern.read written = .ok p) :
    read written false = .ok (.pattern p.engine) := by
  rw [read, if_neg (by simp), h]
  rfl

end Hypertag
