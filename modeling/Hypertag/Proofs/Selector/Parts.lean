import Hypertag.Proofs.Selector.Names

/-!
# The parts of a compound

What a compound says, told without reading it from left to right: which text is its element, which `#`
begins its id, and that the names after dots on both sides of the id are its classes. Reading gives
these parts and no others, whatever characters stand between them.
-/

namespace Hypertag.Compound

open Pattern

def EndsName (c : Char) : Prop := c = '.' ∨ c = ':' ∨ c = '['

instance (c : Char) : Decidable (EndsName c) :=
  inferInstanceAs (Decidable (c = '.' ∨ c = ':' ∨ c = '['))

/-- The first `#` with a name behind it, between the text before it and the text after the name. -/
structure IdAt (t before id after : Text) : Prop where
  text : t = before ++ '#' :: (id ++ after)
  ne_nil : id ≠ []
  name : ∀ c ∈ id, ¬ EndsName c
  whole : ∀ c, after.head? = some c → EndsName c
  first : ∀ u d v, t = u ++ '#' :: d :: v → ¬ EndsName d → before.length ≤ u.length

def HoldsId (t : Text) : Prop := ∃ u d v, t = u ++ '#' :: d :: v ∧ ¬ EndsName d

structure ElementAt (element rest : Text) : Prop where
  word : ∀ c ∈ element, c.isAlphanum = true
  longest : ∀ c, rest.head? = some c → c.isAlphanum = false

def present? (element : Text) : Option Text := if element = [] then none else some element

inductive ReadsAs : Text → Compound → Prop where
  | everything : ReadsAs ['*'] .everything
  | withId {element rest before id after : Text} : element ++ rest ≠ ['*'] →
      ElementAt element rest → IdAt rest before id after →
      ReadsAs (element ++ rest) (.regular ⟨present? element, some id, names before ++ names after⟩)
  | withoutId {element rest : Text} : element ++ rest ≠ ['*'] → ElementAt element rest →
      ¬ HoldsId rest → ReadsAs (element ++ rest) (.regular ⟨present? element, none, names rest⟩)

/-! ## Characters -/

theorem holds_nameChar_iff_not (c : Char) : nameChar.holds c = true ↔ ¬ EndsName c := by
  rw [holds_nameChar_iff, EndsName, not_or, not_or]

theorem holds_nameChar_eq_false_iff (c : Char) : nameChar.holds c = false ↔ EndsName c := by
  rw [← Bool.not_eq_true, holds_nameChar_iff_not, Decidable.not_not]

theorem head?_any_eq_false_iff (test : Char → Bool) (t : Text) :
    t.head?.any test = false ↔ ∀ c, t.head? = some c → test c = false := by
  cases t <;> simp

theorem name_cons_ne_nil {d : Char} (h : ¬ EndsName d) (t : Text) : name (d :: t) ≠ [] := by
  have hd := (holds_nameChar_iff_not d).mpr h
  simp [name, hd]

theorem isRun_of_names {ws : List Text} (h : ∀ w ∈ ws, w ≠ [] ∧ ∀ c ∈ w, ¬ EndsName c) :
    ∀ w ∈ ws, IsRun w := fun w hw =>
  ⟨(h w hw).1, fun c hc => (holds_nameChar_iff_not c).mpr ((h w hw).2 c hc)⟩

theorem holds_asciiWord (c : Char) : asciiWord.holds c = c.isAlphanum := by
  have hlower : c.isLower = (decide ('a' ≤ c) && decide (c ≤ 'z')) := rfl
  have hupper : c.isUpper = decide ('A' ≤ c ∧ c ≤ 'Z') := rfl
  have hdigit : c.isDigit = (decide ('0' ≤ c) && decide (c ≤ '9')) := rfl
  show asciiWord.holds c = (c.isUpper || c.isLower || c.isDigit)
  rw [hlower, hupper, hdigit, Bool.eq_iff_iff]
  simp only [asciiWord, CharTest.holds, SetMember.holds, List.any_cons, List.any_nil, Bool.or_false,
    Bool.or_eq_true, Bool.and_eq_true, decide_eq_true_eq]
  rw [or_left_comm, or_assoc]

/-! ## The id -/

theorem first_of_splitId? {t : Text} {f : Found} (h : splitId? t = some f) :
    ∀ u d v, t = u ++ '#' :: d :: v → ¬ EndsName d → f.before.length ≤ u.length := by
  induction t generalizing f with
  | nil => cases h
  | cons c t ih =>
      intro u d v htext hd
      rw [splitId?] at h
      split at h
      · obtain rfl := Option.some.inj h
        exact Nat.zero_le _
      · next hmark =>
          obtain ⟨g, hg, rfl⟩ := Option.map_eq_some_iff.mp h
          cases u with
          | nil =>
              obtain ⟨rfl, rfl⟩ := List.cons.inj htext
              exact absurd ⟨rfl, name_cons_ne_nil hd v⟩ hmark
          | cons b u =>
              obtain ⟨-, ht⟩ := List.cons.inj htext
              exact Nat.succ_le_succ (ih hg u d v ht hd)

theorem idAt_of_splitId? {t : Text} {f : Found} (h : splitId? t = some f) :
    IdAt t f.before f.hit f.after where
  text := by simpa using splitId?_text h
  ne_nil := (splitId?_hit h).1
  name c hc := (holds_nameChar_iff_not c).mp ((splitId?_hit h).2 c hc)
  whole c hc := (holds_nameChar_eq_false_iff c).mp
    ((head?_any_eq_false_iff _ _).mp (splitId?_after h) c hc)
  first := first_of_splitId? h

theorem not_holdsId_of_splitId? {t : Text} (h : splitId? t = none) : ¬ HoldsId t := by
  rintro ⟨u, d, v, rfl, hd⟩
  induction u with
  | nil =>
      rw [List.nil_append, splitId?, if_pos ⟨rfl, name_cons_ne_nil hd v⟩] at h
      cases h
  | cons c u ih =>
      rw [List.cons_append, splitId?] at h
      split at h
      · cases h
      · exact ih (Option.map_eq_none_iff.mp h)

theorem IdAt.holdsId {t before id after : Text} (h : IdAt t before id after) : HoldsId t := by
  obtain ⟨d, rest, rfl⟩ := List.exists_cons_of_ne_nil h.ne_nil
  exact ⟨before, d, rest ++ after, h.text, h.name d (by simp)⟩

theorem IdAt.length_le {t before id after before' id' after' : Text} (h : IdAt t before id after)
    (h' : IdAt t before' id' after') : before.length ≤ before'.length := by
  obtain ⟨d, rest, rfl⟩ := List.exists_cons_of_ne_nil h'.ne_nil
  exact h.first before' d (rest ++ after') h'.text (h'.name d (by simp))

theorem IdAt.name_eq {t before id after : Text} (h : IdAt t before id after) :
    Compound.name (id ++ after) = id := by
  apply name_append
  · exact fun c hc => (holds_nameChar_iff_not c).mpr (h.name c hc)
  · rw [head?_any_eq_false_iff]
    exact fun c hc => (holds_nameChar_eq_false_iff c).mpr (h.whole c hc)

/-- A text has its id at one place. -/
theorem IdAt.unique {t before id after before' id' after' : Text} (h : IdAt t before id after)
    (h' : IdAt t before' id' after') : before = before' ∧ id = id' ∧ after = after' := by
  have hlength := Nat.le_antisymm (h.length_le h') (h'.length_le h)
  obtain ⟨hbefore, hrest⟩ := List.append_inj (h.text.symm.trans h'.text) hlength
  have htail := (List.cons.inj hrest).2
  have hid : id = id' := by rw [← h.name_eq, htail, h'.name_eq]
  rw [hid] at htail
  exact ⟨hbefore, hid, List.append_cancel_left htail⟩

/-- The scan finds the id of a text where it is. -/
theorem IdAt.splitId?_eq {t before id after : Text} (h : IdAt t before id after) :
    splitId? t = some ⟨before, id, after⟩ := by
  cases hfound : splitId? t with
  | none => exact absurd h.holdsId (not_holdsId_of_splitId? hfound)
  | some f =>
      obtain ⟨rfl, rfl, rfl⟩ := (idAt_of_splitId? hfound).unique h
      rfl

/-! ## Reading -/

theorem ElementAt.span_eq {element rest : Text} (h : ElementAt element rest) :
    (element ++ rest).takeWhile asciiWord.holds = element ∧
      (element ++ rest).dropWhile asciiWord.holds = rest := by
  apply span_element
  · exact fun c hc => (holds_asciiWord c).trans (h.word c hc)
  · rw [head?_any_eq_false_iff]
    exact fun c hc => (holds_asciiWord c).trans (h.longest c hc)

theorem elementAt_span (t : Text) :
    ElementAt (t.takeWhile asciiWord.holds) (t.dropWhile asciiWord.holds) where
  word c hc := (holds_asciiWord c).symm.trans (List.mem_takeWhile_imp hc)
  longest c hc := by
    have hstop := List.head?_dropWhile_not asciiWord.holds t
    rw [hc] at hstop
    rw [← holds_asciiWord]
    simpa using hstop

theorem ReadsAs.read_eq {t : Text} {c : Compound} (h : ReadsAs t c) : read t = c := by
  cases h with
  | everything => rfl
  | withId hstar helement hid =>
      obtain ⟨htake, hdrop⟩ := helement.span_eq
      rw [read_eq_scan, if_neg hstar, scan, htake, hdrop]
      simp only [hid.splitId?_eq, present?]
  | @withoutId element rest hstar helement hid =>
      obtain ⟨htake, hdrop⟩ := helement.span_eq
      have hnone : splitId? rest = none := by
        cases hfound : splitId? rest with
        | none => rfl
        | some f => exact absurd (idAt_of_splitId? hfound).holdsId hid
      rw [read_eq_scan, if_neg hstar, scan, htake, hdrop]
      simp only [hnone, present?]

theorem exists_readsAs (t : Text) : ∃ c, ReadsAs t c := by
  by_cases hstar : t = ['*']
  · subst hstar
    exact ⟨_, .everything⟩
  · have hsplit := List.takeWhile_append_dropWhile (p := asciiWord.holds) (l := t)
    have helement := elementAt_span t
    rw [← hsplit] at hstar ⊢
    cases hid : splitId? (t.dropWhile asciiWord.holds) with
    | none => exact ⟨_, .withoutId hstar helement (not_holdsId_of_splitId? hid)⟩
    | some f => exact ⟨_, .withId hstar helement (idAt_of_splitId? hid)⟩

theorem read_eq_iff_readsAs (t : Text) (c : Compound) : read t = c ↔ ReadsAs t c := by
  constructor
  · intro hread
    obtain ⟨d, hd⟩ := exists_readsAs t
    rw [← hread, hd.read_eq]
    exact hd
  · exact ReadsAs.read_eq

/-- A `#` begins the id of a text when none stands before it. -/
theorem idAt_of_notMem {before id after : Text} (hbefore : '#' ∉ before) (hne : id ≠ [])
    (hname : ∀ c ∈ id, ¬ EndsName c) (hwhole : ∀ c, after.head? = some c → EndsName c) :
    IdAt (before ++ '#' :: (id ++ after)) before id after := by
  refine ⟨rfl, hne, hname, hwhole, fun u d v htext _ => ?_⟩
  rcases List.append_eq_append_iff.mp htext with ⟨x, rfl, -⟩ | ⟨x, rfl, hx⟩
  · simp
  · cases x with
    | nil => simp
    | cons c x =>
        obtain ⟨rfl, -⟩ := List.cons.inj hx
        simp at hbefore

/-- No letter or digit stands where the classes or the id begin. -/
theorem elementAt_of_dotted {element : Text} (helement : ∀ c ∈ element, c.isAlphanum = true)
    (before : List Text) (t : Text) : ElementAt element (dotted before ++ '#' :: t) := by
  refine ⟨helement, fun c hc => ?_⟩
  cases before with
  | nil =>
      obtain rfl := Option.some.inj hc
      decide
  | cons w ws =>
      obtain rfl := Option.some.inj hc
      decide

theorem hash_notMem_dotted {ws : List Text} (h : ∀ w ∈ ws, '#' ∉ w) : '#' ∉ dotted ws := by
  intro hmem
  obtain ⟨w, hw, hc⟩ := List.mem_flatMap.mp hmem
  rcases List.mem_cons.mp hc with hc | hc
  · exact absurd hc (by decide)
  · exact h w hw hc

theorem endsName_head?_dotted (ws : List Text) :
    ∀ c, (dotted ws).head? = some c → EndsName c := fun c hc =>
  (holds_nameChar_eq_false_iff c).mp ((head?_any_eq_false_iff _ _).mp (head?_dotted ws) c hc)

/-- A compound is read as what it says. An id may stand anywhere among the classes, as long as none of
those before it holds a `#`: the parts are the same. -/
theorem read_as_said :
    (∀ t c, read t = c ↔ ReadsAs t c) ∧
    ∀ element id : Text, ∀ before after : List Text, (∀ c ∈ element, c.isAlphanum = true) →
      (∀ w ∈ id :: (before ++ after), w ≠ [] ∧ ∀ c ∈ w, ¬ EndsName c) → (∀ w ∈ before, '#' ∉ w) →
      read (element ++ dotted before ++ '#' :: id ++ dotted after) =
        .regular ⟨present? element, some id, before ++ after⟩ := by
  refine ⟨read_eq_iff_readsAs, ?_⟩
  intro element id before after helement hnames hhash
  obtain ⟨⟨hne, hid⟩, hclasses⟩ := List.forall_mem_cons.mp hnames
  obtain ⟨hbefore, hafter⟩ := List.forall_mem_append.mp hclasses
  have hat := idAt_of_notMem (hash_notMem_dotted hhash) hne hid (endsName_head?_dotted after)
  have hstar : element ++ (dotted before ++ '#' :: (id ++ dotted after)) ≠ ['*'] := by
    intro heq
    have hmem : '#' ∈ ['*'] := by simp [← heq]
    exact absurd hmem (by decide)
  have hread := (ReadsAs.withId hstar (elementAt_of_dotted helement before _) hat).read_eq
  rw [names_dotted (isRun_of_names hbefore), names_dotted (isRun_of_names hafter)] at hread
  rw [← hread]
  simp

/-- An id between two classes, of which the first holds a blank and the second a `#`. -/
theorem id_between_classes :
    read "h1.x y#i>#j.z#k" = .regular ⟨some "h1", some "i>#j", ["x y", "z#k"]⟩ := by
  have helement : ∀ c ∈ ("h1" : Text), c.isAlphanum = true := List.all_eq_true.mp rfl
  have hnames : ∀ w ∈ (["i>#j", "x y", "z#k"] : List Text), w ≠ [] ∧ ∀ c ∈ w, ¬ EndsName c := by
    simp [EndsName]
  exact read_as_said.2 "h1" "i>#j" ["x y"] ["z#k"] helement hnames (by decide)

end Hypertag.Compound
