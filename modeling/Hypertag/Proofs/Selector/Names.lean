import Hypertag.Proofs.Selector.Compound
import Hypertag.Selector.Chain
import Hypertag.Selector.Printer

/-!
# Parts that survive printing

The parts read from text without blanks and combinators are well formed: names are not empty and
hold nothing that ends them, and without an id no class holds a `#` that a name follows. Well-formed
parts are read back from the text they are printed as.
-/

namespace Hypertag

def IsPlain (c : Char) : Prop := isBlank c = false ∧ c ∉ ['>', ',', '[', '~', '+', ':']

structure IsName (t : Text) : Prop where
  ne_nil : t ≠ []
  plain : ∀ c ∈ t, IsPlain c
  noDot : '.' ∉ t

namespace Parts

structure WellFormed (p : Parts) : Prop where
  element : ∀ e, p.element = some e → e ≠ [] ∧ ∀ c ∈ e, Pattern.asciiWord.holds c = true
  id : ∀ i, p.id = some i → IsName i
  classes : ∀ w ∈ p.classes, IsName w
  /-- Where a name follows a `#`, it would be read as an id. -/
  hash : p.id = .none → ∀ w ∈ p.classes, '#' ∉ w.dropLast

end Parts

open Pattern

/-! ## Characters -/

theorem isPlain_of_asciiWord {c : Char} (h : asciiWord.holds c = true) : IsPlain c := by
  refine ⟨?_, fun hmem => ?_⟩
  · simp only [asciiWord, CharTest.holds, SetMember.holds, List.any_cons, List.any_nil,
      Bool.or_false, Bool.or_eq_true, Bool.and_eq_true, decide_eq_true_eq] at h
    have hrange : (97 ≤ c.toNat ∧ c.toNat ≤ 122) ∨ (65 ≤ c.toNat ∧ c.toNat ≤ 90) ∨
        (48 ≤ c.toNat ∧ c.toNat ≤ 57) := h
    simp only [isBlank, Bool.or_eq_false_iff, Bool.and_eq_false_imp, decide_eq_true_eq,
      decide_eq_false_iff_not, beq_eq_false_iff_ne]
    omega
  · simp only [List.mem_cons, List.not_mem_nil, or_false] at hmem
    rcases hmem with rfl | rfl | rfl | rfl | rfl | rfl <;> exact absurd h (by decide)

theorem IsPlain.isCompoundChar {c : Char} (h : IsPlain c) : Chain.isCompoundChar c = true := by
  have hmark : c ≠ '>' := fun hc => h.2 (by simp [hc])
  simp [Chain.isCompoundChar, h.1, hmark]

theorem IsPlain.holds_nameChar {c : Char} (h : IsPlain c) (hdot : c ≠ '.') :
    nameChar.holds c = true := by
  refine (Compound.holds_nameChar_iff c).mpr ⟨hdot, ?_, ?_⟩
  · exact fun hc => h.2 (by simp [hc])
  · exact fun hc => h.2 (by simp [hc])

namespace Compound

/-! ## What the scan finds -/

theorem name_subset (t : Text) : name t ⊆ t := (List.takeWhile_sublist _).subset

theorem isName_name {t : Text} (ht : ∀ c ∈ t, IsPlain c) (hne : name t ≠ []) : IsName (name t) := by
  refine ⟨hne, fun c hc => ht c (name_subset t hc), fun hdot => ?_⟩
  exact ((holds_nameChar_iff '.').mp (holds_of_mem_name hdot)).1 rfl

theorem isName_of_mem_names {t w : Text} (ht : ∀ c ∈ t, IsPlain c) (hw : w ∈ names t) :
    IsName w := by
  induction t with
  | nil => cases hw
  | cons c t ih =>
      have hplain : ∀ d ∈ t, IsPlain d := fun d hd => ht d (by simp [hd])
      rw [names] at hw
      split at hw
      · next hmark =>
          rcases List.mem_cons.mp hw with rfl | hw
          · exact isName_name hplain hmark.2
          · exact ih hplain hw
      · exact ih hplain hw

theorem isName_hit {t : Text} {f : Found} (h : splitId? t = some f)
    (hplain : ∀ c ∈ f.hit, IsPlain c) : IsName f.hit := by
  obtain ⟨hne, hname⟩ := splitId?_hit h
  refine ⟨hne, hplain, fun hdot => ?_⟩
  exact ((holds_nameChar_iff '.').mp (hname '.' hdot)).1 rfl

/-- Where no name follows a `#`, a name holds one at its end only. -/
theorem hash_notMem_name {t : Text} (h : splitId? t = none) : '#' ∉ (name t).dropLast := by
  induction t with
  | nil => simp [name]
  | cons c t ih =>
      rw [splitId?] at h
      split at h
      · cases h
      · next hmark =>
          have hrest := ih (Option.map_eq_none_iff.mp h)
          by_cases hc : nameChar.holds c = true
          · have hcons : name (c :: t) = c :: name t := List.takeWhile_cons_of_pos hc
            rw [hcons]
            by_cases hne : name t = []
            · simp [hne]
            · have hhash : '#' ≠ c := fun heq => hmark ⟨heq.symm, hne⟩
              rw [List.dropLast_cons_of_ne_nil hne]
              simp [hhash, hrest]
          · have hnil : name (c :: t) = [] := List.takeWhile_cons_of_neg hc
            simp [hnil]

theorem hash_notMem_of_mem_names {t w : Text} (h : splitId? t = none) (hw : w ∈ names t) :
    '#' ∉ w.dropLast := by
  induction t with
  | nil => cases hw
  | cons c t ih =>
      have hrest : splitId? t = none := by
        rw [splitId?] at h
        split at h
        · cases h
        · exact Option.map_eq_none_iff.mp h
      rw [names] at hw
      split at hw
      · rcases List.mem_cons.mp hw with rfl | hw
        · exact hash_notMem_name hrest
        · exact ih hrest hw
      · exact ih hrest hw

theorem wellFormed_scan {t : Text} (ht : ∀ c ∈ t, IsPlain c) : (scan t).WellFormed := by
  have helement : ∀ e, (if t.takeWhile asciiWord.holds = [] then none
      else some (t.takeWhile asciiWord.holds)) = some e →
      e ≠ [] ∧ ∀ c ∈ e, asciiWord.holds c = true := by
    intro e he
    obtain ⟨hne, he⟩ := Option.ite_none_left_eq_some.mp he
    obtain rfl := Option.some.inj he
    exact ⟨hne, fun c hc => List.mem_takeWhile_imp hc⟩
  have hrest : ∀ c ∈ t.dropWhile asciiWord.holds, IsPlain c :=
    fun c hc => ht c (List.dropWhile_subset _ hc)
  rw [scan]
  cases hid : splitId? (t.dropWhile asciiWord.holds) with
  | none =>
      refine ⟨helement, by simp, ?_, ?_⟩
      · exact fun w hw => isName_of_mem_names hrest hw
      · exact fun _ w hw => hash_notMem_of_mem_names hid hw
  | some f =>
      rw [splitId?_text hid] at hrest
      refine ⟨helement, ?_, ?_, by simp⟩
      · intro i hi
        obtain rfl := Option.some.inj hi
        exact isName_hit hid fun c hc => hrest c (by simp [hc])
      · intro w hw
        rcases List.mem_append.mp hw with hw | hw
        · exact isName_of_mem_names (fun c hc => hrest c (by simp [hc])) hw
        · exact isName_of_mem_names (fun c hc => hrest c (by simp [hc])) hw

/-! ## Scanning what was printed -/

theorem isRun_of_isName {w : Text} (hw : IsName w) : IsRun w := by
  refine ⟨hw.ne_nil, fun c hc => (hw.plain c hc).holds_nameChar ?_⟩
  intro heq
  subst heq
  exact hw.noDot hc

def dotted (ws : List Text) : Text := ws.flatMap ('.' :: ·)

theorem dotted_cons (w : Text) (ws : List Text) : dotted (w :: ws) = '.' :: (w ++ dotted ws) := rfl

theorem head?_dotted (ws : List Text) : (dotted ws).head?.any nameChar.holds = false := by
  cases ws with
  | nil => rfl
  | cons w ws => rfl

theorem names_dotted {ws : List Text} (hws : ∀ w ∈ ws, IsRun w) : names (dotted ws) = ws := by
  induction ws with
  | nil => rfl
  | cons w ws ih =>
      obtain ⟨hne, hw⟩ := hws w (by simp)
      have hrest := ih fun x hx => hws x (by simp [hx])
      have hname := name_append hw (head?_dotted ws)
      rw [dotted_cons, names, hname, if_pos ⟨rfl, hne⟩, names_append_name hw, hrest]

theorem splitId?_mark {i t : Text} (hi : IsRun i) (ht : t.head?.any nameChar.holds = false) :
    splitId? ('#' :: (i ++ t)) = some ⟨[], i, t⟩ := by
  have hname := name_append hi.2 ht
  have hdrop : (i ++ t).dropWhile nameChar.holds = t := by
    have hsplit := List.takeWhile_append_dropWhile (p := nameChar.holds) (l := i ++ t)
    rw [show (i ++ t).takeWhile nameChar.holds = i from hname] at hsplit
    exact List.append_cancel_left hsplit
  rw [splitId?, hname, hdrop, if_pos ⟨rfl, hi.1⟩]

theorem splitId?_append {w t : Text} (hw : '#' ∉ w.dropLast)
    (ht : t.head?.any nameChar.holds = false) (hnone : splitId? t = none) :
    splitId? (w ++ t) = none := by
  induction w with
  | nil => exact hnone
  | cons c w ih =>
      rw [List.cons_append, splitId?]
      by_cases hnil : w = []
      · subst hnil
        simp [name_of_head ht, hnone]
      · rw [List.dropLast_cons_of_ne_nil hnil, List.mem_cons, not_or] at hw
        have hc : ¬ (c = '#' ∧ name (w ++ t) ≠ []) := fun h => hw.1 h.1.symm
        rw [if_neg hc, ih hw.2]
        rfl

theorem splitId?_dotted {ws : List Text} (hws : ∀ w ∈ ws, '#' ∉ w.dropLast) :
    splitId? (dotted ws) = none := by
  induction ws with
  | nil => rfl
  | cons w ws ih =>
      have hrest := ih fun x hx => hws x (by simp [hx])
      rw [dotted_cons, splitId?, if_neg (by simp),
        splitId?_append (hws w (by simp)) (head?_dotted ws) hrest]
      rfl

/-- The element is the longest run of letters and digits. -/
theorem span_element {e t : Text} (he : ∀ c ∈ e, asciiWord.holds c = true)
    (ht : t.head?.any asciiWord.holds = false) :
    (e ++ t).takeWhile asciiWord.holds = e ∧ (e ++ t).dropWhile asciiWord.holds = t := by
  have hstop : t.takeWhile asciiWord.holds = [] ∧ t.dropWhile asciiWord.holds = t := by
    cases t with
    | nil => exact ⟨rfl, rfl⟩
    | cons c t =>
        have hc : ¬ asciiWord.holds c = true := by simpa using ht
        exact ⟨List.takeWhile_cons_of_neg hc, List.dropWhile_cons_of_neg hc⟩
  rw [List.takeWhile_append_of_pos he, List.dropWhile_append_of_pos he, hstop.1, hstop.2,
    List.append_nil]
  exact ⟨rfl, rfl⟩

theorem format_noId (element : Option Text) (ws : List Text) :
    Parts.format ⟨element, none, ws⟩ = element.getD [] ++ dotted ws := by
  simp [Parts.format, dotted]

theorem format_withId (element : Option Text) (i : Text) (ws : List Text) :
    Parts.format ⟨element, some i, ws⟩ = element.getD [] ++ '#' :: (i ++ dotted ws) := by
  simp [Parts.format, dotted]

/-- Well-formed parts are found in the text they are printed as. -/
theorem scan_format {p : Parts} (h : p.WellFormed) : scan p.format = p := by
  obtain ⟨element, id, ws⟩ := p
  have hclasses : ∀ w ∈ ws, IsRun w := fun w hw => isRun_of_isName (h.classes w hw)
  have helement : ∀ c ∈ element.getD [], asciiWord.holds c = true := by
    cases element with
    | none => simp
    | some e => exact (h.element e rfl).2
  have hpresent : (if element.getD [] = [] then none else some (element.getD [])) = element := by
    cases element with
    | none => rfl
    | some e => exact if_neg (h.element e rfl).1
  cases id with
  | none =>
      have hstop : (dotted ws).head?.any asciiWord.holds = false := by
        cases ws <;> rfl
      obtain ⟨htake, hdrop⟩ := span_element helement hstop
      have hid := splitId?_dotted (h.hash rfl)
      rw [format_noId, scan, htake, hdrop]
      simp only [hid, hpresent, names_dotted hclasses]
  | some i =>
      obtain ⟨htake, hdrop⟩ := span_element (t := '#' :: (i ++ dotted ws)) helement rfl
      have hid := splitId?_mark (isRun_of_isName (h.id i rfl)) (head?_dotted ws)
      rw [format_withId, scan, htake, hdrop]
      simp only [hid, hpresent, names_dotted hclasses]
      rfl

end Compound

namespace Parts.WellFormed

variable {p : Parts}

theorem isPlain_of_mem_format (h : p.WellFormed) {c : Char} (hc : c ∈ p.format) : IsPlain c := by
  obtain ⟨element, id, ws⟩ := p
  rw [Parts.format, List.mem_append, List.mem_append] at hc
  rcases hc with (hc | hc) | hc
  · cases element with
    | none => cases hc
    | some e => exact isPlain_of_asciiWord ((h.element e rfl).2 c hc)
  · cases id with
    | none => cases hc
    | some i =>
        rcases List.mem_cons.mp hc with rfl | hc
        · exact ⟨by decide, by decide⟩
        · exact (h.id i rfl).plain c hc
  · obtain ⟨w, hw, hcw⟩ := List.mem_flatMap.mp hc
    rcases List.mem_cons.mp hcw with rfl | hcw
    · exact ⟨by decide, by decide⟩
    · exact (h.classes w hw).plain c hcw

/-- Only the absence of all parts prints as nothing. -/
theorem eq_none_of_format (h : p.WellFormed) (hformat : p.format = []) : p = Parts.none := by
  have hscan := Compound.scan_format h
  rw [hformat] at hscan
  exact hscan.symm

/-- Parts are never printed as the text that stands for everything. -/
theorem format_ne_star (h : p.WellFormed) : p.format ≠ ['*'] := by
  intro hformat
  have hscan := Compound.scan_format h
  rw [hformat] at hscan
  have hnone : Compound.scan ['*'] = Parts.none := by decide
  rw [← hscan, hnone] at hformat
  cases hformat

end Parts.WellFormed

/-! ## Compounds -/

namespace Compound

def WellFormed : Compound → Prop
  | .everything => True
  | .regular p => p.WellFormed

/-- Without any part a selector prints as nothing. -/
def Blank (c : Compound) : Prop := c = .regular .none

instance (c : Compound) : Decidable c.Blank := inferInstanceAs (Decidable (c = .regular .none))

theorem wellFormed_read {t : Text} (ht : ∀ c ∈ t, IsPlain c) : (read t).WellFormed := by
  rw [read_eq_scan]
  split
  · trivial
  · exact wellFormed_scan ht

theorem read_format {c : Compound} (h : c.WellFormed) : read c.format = c := by
  cases c with
  | everything => rfl
  | regular p =>
      have hne : p.format ≠ ['*'] := Parts.WellFormed.format_ne_star h
      rw [format, read_eq_scan, if_neg hne, scan_format h]

theorem isPlain_of_mem_format {c : Compound} (h : c.WellFormed) {d : Char} (hd : d ∈ c.format) :
    IsPlain d := by
  cases c with
  | everything =>
      obtain rfl := List.mem_singleton.mp hd
      exact ⟨by decide, by decide⟩
  | regular p => exact Parts.WellFormed.isPlain_of_mem_format h hd

theorem format_eq_nil_iff {c : Compound} (h : c.WellFormed) : c.format = [] ↔ c.Blank := by
  cases c with
  | everything => simp [format, Blank]
  | regular p =>
      rw [format, Blank, Compound.regular.injEq]
      constructor
      · exact Parts.WellFormed.eq_none_of_format h
      · intro heq
        subst heq
        rfl

end Compound

end Hypertag
