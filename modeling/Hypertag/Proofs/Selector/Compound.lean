import Hypertag.Proofs.Scan.Measures
import Hypertag.Selector.Compound
import Mathlib.Data.List.TakeWhile

/-!
# The scan of a compound

A compound is read by several patterns one after the other, with the id cut out of the text before
the classes are looked for. The same parts come from one scan: the element, then the first `#` that
a name follows, and the name after each `.` on both sides of it.
-/

namespace Hypertag

namespace Compound

open Pattern

def name (t : Text) : Text := t.takeWhile nameChar.holds

def names : Text → List Text
  | [] => []
  | c :: t => if c = '.' ∧ name t ≠ [] then name t :: names t else names t

/-- The first name that follows a `#`, with the text before the `#` and after the name. -/
def splitId? : Text → Option Found
  | [] => none
  | c :: t =>
      if c = '#' ∧ name t ≠ [] then some ⟨[], name t, t.dropWhile nameChar.holds⟩
      else (splitId? t).map fun f => { f with before := c :: f.before }

def scan (t : Text) : Parts :=
  let element := t.takeWhile asciiWord.holds
  let rest := t.dropWhile asciiWord.holds
  let element? := if element = [] then none else some element
  match splitId? rest with
  | none => ⟨element?, none, names rest⟩
  | some f => ⟨element?, some f.hit, names f.before ++ names f.after⟩

theorem holds_nameChar_iff (c : Char) : nameChar.holds c = true ↔ c ≠ '.' ∧ c ≠ ':' ∧ c ≠ '[' := by
  simp [nameChar, CharTest.holds, SetMember.holds]

/-- What can be a name: some characters, of which none ends a name. -/
def IsRun (w : Text) : Prop := w ≠ [] ∧ ∀ c ∈ w, nameChar.holds c = true

theorem runLength_nameChar (t : Text) : runLength nameChar t = (name t).length := rfl

theorem holds_of_mem_name {c : Char} {t : Text} (h : c ∈ name t) : nameChar.holds c = true :=
  List.mem_takeWhile_imp h

theorem name_of_head {t : Text} (h : t.head?.any nameChar.holds = false) : name t = [] := by
  cases t with
  | nil => rfl
  | cons c t =>
      have hc : ¬ nameChar.holds c = true := by simpa using h
      exact List.takeWhile_cons_of_neg hc

theorem name_append {w t : Text} (hw : ∀ c ∈ w, nameChar.holds c = true)
    (ht : t.head?.any nameChar.holds = false) : name (w ++ t) = w := by
  have hstop : t.takeWhile nameChar.holds = [] := name_of_head ht
  rw [name, List.takeWhile_append_of_pos hw, hstop, List.append_nil]

/-! ## Marked names -/

theorem markedLength_cons (mark c : Char) (t : Text) :
    markedLength mark nameChar (c :: t) =
      if c = mark ∧ name t ≠ [] then (name t).length + 1 else 0 := by
  rw [markedLength, runLength_nameChar]
  simp only [ne_eq, List.length_eq_zero_iff]

/-- A removed mark leaves the name. -/
theorem removeFirst_mark (mark : Char) (t : Text) :
    removeFirst ⟨.sequence [.atStart, .one (.exactly mark)], []⟩ (mark :: t) = t := by
  have hstart : Measure.AtStart fun n t => if n = 0 ∧ t.head? = some mark then 1 else 0 :=
    fun n t hn => by simp [hn]
  rw [(measuredBy_atStart_one mark).removeFirst_atStart hstart]
  simp

/-! ## Classes -/

theorem names_append_name {w : Text} (hw : ∀ c ∈ w, nameChar.holds c = true) (t : Text) :
    names (w ++ t) = names t := by
  induction w with
  | nil => rfl
  | cons c w ih =>
      have hc : c ≠ '.' := ((holds_nameChar_iff c).mp (hw c (by simp))).1
      have hrest := ih fun x hx => hw x (by simp [hx])
      simp [names, hc, hrest]

theorem names_dropWhile (t : Text) : names (t.dropWhile nameChar.holds) = names t := by
  have hname : ∀ c ∈ name t, nameChar.holds c = true := fun c hc => holds_of_mem_name hc
  have hskip := names_append_name hname (t.dropWhile nameChar.holds)
  rw [name, List.takeWhile_append_dropWhile] at hskip
  exact hskip.symm

theorem measuredBy_classPart : classPart.MeasuredBy fun _ t => markedLength '.' nameChar t :=
  measuredBy_marked '.' nameChar

theorem classPart_pieces_plain {c : Char} {t : Text} (h : ¬ (c = '.' ∧ name t ≠ [])) :
    classPart.pieces (c :: t) = .plain c :: classPart.pieces t :=
  measuredBy_classPart.pieces_plain (by rw [markedLength_cons, if_neg h])

theorem classPart_pieces_hit {t : Text} (h : name t ≠ []) :
    classPart.pieces ('.' :: t) =
      .hit ⟨'.' :: name t, []⟩ :: classPart.pieces (t.dropWhile nameChar.holds) := by
  have hsplit : ('.' :: name t) ++ t.dropWhile nameChar.holds = '.' :: t :=
    congrArg _ List.takeWhile_append_dropWhile
  have hm : markedLength '.' nameChar (('.' :: name t) ++ t.dropWhile nameChar.holds) =
      ('.' :: name t).length := by
    rw [hsplit, markedLength_cons, if_pos ⟨rfl, h⟩, List.length_cons]
  have hpieces := measuredBy_classPart.pieces_hit (by simp) hm
  rwa [hsplit] at hpieces

theorem matchAll_classPart (t : Text) :
    (classPart.matchAll t).map leadingDot.removeFirst = names t := by
  induction hk : t.length using Nat.strongRecOn generalizing t with
  | ind k ih =>
      cases t with
      | nil =>
          rw [matchAll_eq_pieces, measuredBy_classPart.pieces_nil]
          rfl
      | cons c t =>
          rw [names]
          by_cases hmark : c = '.' ∧ name t ≠ []
          · obtain ⟨rfl, hname⟩ := hmark
            have hlen := (List.dropWhile_sublist nameChar.holds (l := t)).length_le
            have hshort : (t.dropWhile nameChar.holds).length < k := by
              rw [← hk, List.length_cons]
              omega
            have hrest := ih _ hshort (t.dropWhile nameChar.holds) rfl
            have hdot : leadingDot.removeFirst ('.' :: name t) = name t := removeFirst_mark '.' _
            rw [names_dropWhile, matchAll_eq_pieces] at hrest
            rw [if_pos ⟨rfl, hname⟩, matchAll_eq_pieces, classPart_pieces_hit hname, Pieces.hits_hit,
              List.map_cons, List.map_cons, hrest, hdot]
          · rw [if_neg hmark, matchAll_eq_pieces, classPart_pieces_plain hmark, Pieces.hits_plain,
              ← matchAll_eq_pieces]
            exact ih t.length (by simp [← hk]) t rfl

/-! ## The id -/

theorem first?_idPart (n : Nat) (t : Text) :
    Measure.first? (fun _ t => markedLength '#' nameChar t) n t =
      (splitId? t).map fun f => { f with hit := '#' :: f.hit } := by
  induction t generalizing n with
  | nil => rfl
  | cons c t ih =>
      rw [splitId?]
      by_cases hmark : c = '#' ∧ name t ≠ []
      · have hsplit : c :: t = '#' :: name t ++ t.dropWhile nameChar.holds := by
          rw [List.cons_append, hmark.1]
          exact congrArg _ List.takeWhile_append_dropWhile.symm
        have hm : markedLength '#' nameChar ('#' :: name t ++ t.dropWhile nameChar.holds) =
            ('#' :: name t).length := by
          rw [← hsplit, markedLength_cons, if_pos hmark, List.length_cons]
        rw [if_pos hmark, hsplit]
        exact Measure.first?_hit (by simp) hm
      · have hzero : markedLength '#' nameChar (c :: t) = 0 := by
          rw [markedLength_cons, if_neg hmark]
        rw [if_neg hmark, Measure.first?, if_pos hzero, ih (n + 1)]
        cases splitId? t <;> rfl

theorem splitId?_hit {t : Text} {f : Found} (h : splitId? t = some f) : IsRun f.hit := by
  induction t generalizing f with
  | nil => cases h
  | cons c t ih =>
      rw [splitId?] at h
      split at h
      · next hmark =>
          obtain rfl := Option.some.inj h
          exact ⟨hmark.2, fun c hc => holds_of_mem_name hc⟩
      · obtain ⟨g, hg, rfl⟩ := Option.map_eq_some_iff.mp h
        have hrest := ih hg
        exact hrest

theorem splitId?_text {t : Text} {f : Found} (h : splitId? t = some f) :
    t = f.before ++ '#' :: f.hit ++ f.after := by
  induction t generalizing f with
  | nil => cases h
  | cons c t ih =>
      rw [splitId?] at h
      split at h
      · next hmark =>
          obtain rfl := Option.some.inj h
          rw [List.nil_append, List.cons_append, hmark.1]
          exact congrArg _ List.takeWhile_append_dropWhile.symm
      · obtain ⟨g, hg, rfl⟩ := Option.map_eq_some_iff.mp h
        exact congrArg (c :: ·) (ih hg)

/-- The id part first stands as plain text where the pattern finds it. -/
theorem first?_literal {t : Text} {f : Found} (h : splitId? t = some f) (n : Nat) :
    (Literal.measure ('#' :: f.hit)).first? n t = some { f with hit := '#' :: f.hit } := by
  induction t generalizing f n with
  | nil => cases h
  | cons c t ih =>
      have hhit := splitId?_hit h
      have htext := splitId?_text h
      rw [splitId?] at h
      split at h
      · obtain rfl := Option.some.inj h
        rw [htext, List.nil_append]
        exact Measure.first?_hit (by simp) (by simp [Literal.measure])
      · next hmark =>
          obtain ⟨g, hg, rfl⟩ := Option.map_eq_some_iff.mp h
          have hno : ¬ ('#' :: g.hit).isPrefixOf (c :: t) = true := by
            intro hprefix
            obtain ⟨rest, hrest⟩ := List.isPrefixOf_iff_prefix.mp hprefix
            obtain ⟨d, w, hw⟩ := List.exists_cons_of_ne_nil (splitId?_hit hg).1
            have hd := (splitId?_hit hg).2 d (by simp [hw])
            obtain ⟨hc, ht⟩ := List.cons.inj hrest
            refine hmark ⟨hc.symm, ?_⟩
            rw [← ht, hw, name]
            simp [hd]
          have hzero : Literal.measure ('#' :: g.hit) n (c :: t) = 0 := by
            simp [Literal.measure, hno]
          have hrest := ih hg (n + 1)
          rw [Measure.first?, if_pos hzero, hrest]
          rfl

/-- Cutting the id out joins two texts that share no name. -/
theorem splitId?_after {t : Text} {f : Found} (h : splitId? t = some f) :
    f.after.head?.any nameChar.holds = false := by
  induction t generalizing f with
  | nil => cases h
  | cons c t ih =>
      rw [splitId?] at h
      split at h
      · obtain rfl := Option.some.inj h
        have hstop := List.head?_dropWhile_not nameChar.holds t
        cases hhead : (t.dropWhile nameChar.holds).head? with
        | none => rfl
        | some d => simpa [hhead] using hstop
      · obtain ⟨g, hg, rfl⟩ := Option.map_eq_some_iff.mp h
        have hrest := ih hg
        exact hrest

theorem names_append {u v : Text} (hv : v.head?.any nameChar.holds = false) :
    names (u ++ v) = names u ++ names v := by
  have hname : ∀ u, name (u ++ v) = name u := by
    intro u
    have hstop : v.takeWhile nameChar.holds = [] := name_of_head hv
    rw [name, name, List.takeWhile_append, hstop, List.append_nil]
    split
    · next hlen => exact (List.takeWhile_sublist _).eq_of_length hlen |>.symm
    · rfl
  induction u with
  | nil => rfl
  | cons c u ih =>
      rw [List.cons_append, names, names, hname, ih]
      split <;> rfl

/-! ## The element -/

private theorem atStart_element :
    Measure.AtStart fun n t => if n = 0 then runLength asciiWord t else 0 :=
  fun _ _ hn => if_neg hn

theorem matchFirst?_element (t : Text) :
    element.matchFirst? t =
      if t.takeWhile asciiWord.holds = [] then none else some (t.takeWhile asciiWord.holds) := by
  have htake : t.take (runLength asciiWord t) = t.takeWhile asciiWord.holds :=
    (List.prefix_iff_eq_take.mp (List.takeWhile_prefix asciiWord.holds)).symm
  rw [element, (measuredBy_atStart_run asciiWord).matchFirst?_atStart atStart_element, if_pos rfl,
    htake]
  simp only [runLength, List.length_eq_zero_iff]

theorem removeFirst_element (t : Text) :
    element.removeFirst t = t.dropWhile asciiWord.holds := by
  rw [element, (measuredBy_atStart_run asciiWord).removeFirst_atStart atStart_element, if_pos rfl,
    dropWhile_eq_drop]

/-! ## All parts -/

theorem matchFirst?_idPart (t : Text) :
    idPart.matchFirst? t = (splitId? t).map fun f => '#' :: f.hit := by
  rw [idPart, (measuredBy_marked '#' nameChar).matchFirst?_eq, first?_idPart, Option.map_map]
  rfl

/-- The patterns read what one scan finds. -/
theorem readParts_eq_scan (t : Text) : readParts t = scan t := by
  have hrest : (if (element.matchFirst? t).isSome then element.removeFirst t else t) =
      t.dropWhile asciiWord.holds := by
    rw [matchFirst?_element, removeFirst_element]
    by_cases hnone : t.takeWhile asciiWord.holds = []
    · have hsplit := List.takeWhile_append_dropWhile (p := asciiWord.holds) (l := t)
      rw [hnone, List.nil_append] at hsplit
      simp [hnone, hsplit]
    · simp [hnone]
  simp only [readParts, scan, hrest]
  simp only [matchAll_classPart, matchFirst?_idPart, matchFirst?_element]
  cases hid : splitId? (t.dropWhile asciiWord.holds) with
  | none => rfl
  | some f =>
      have hcut : Literal.replaceFirst ('#' :: f.hit) [] (t.dropWhile asciiWord.holds) =
          f.before ++ f.after := by
        rw [Literal.replaceFirst_eq (by simp), first?_literal hid]
        simp
      have hmark : leadingHash.removeFirst ('#' :: f.hit) = f.hit := removeFirst_mark '#' f.hit
      simp only [Option.map_some, hcut, hmark, names_append (splitId?_after hid)]

theorem read_eq_scan (t : Text) :
    read t = if t = ['*'] then .everything else .regular (scan t) := by
  rw [read, readParts_eq_scan]

end Compound

end Hypertag
