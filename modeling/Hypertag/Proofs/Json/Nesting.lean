import Hypertag.Json.Reader
import Hypertag.Proofs.Results
import Mathlib.Data.List.TakeWhile

/-!
# Nesting of documents

A scan of a document counts the containers that are open and keeps apart what stands in strings. What
a reader takes from the front of a text closes every container it opens, so a document that is read
leaves none open.
-/

namespace Hypertag.Json

/-- Outside of strings, in one, or in one after a backslash. -/
inductive Mode where
  | outside
  | inside
  | escaped
  deriving DecidableEq, Repr

structure Nest where
  depth : Int
  mode : Mode
  deriving DecidableEq, Repr

namespace Nest

def next (s : Nest) (c : Char) : Nest :=
  match s.mode with
  | .escaped => { s with mode := .inside }
  | .inside =>
      if c = '"' then { s with mode := .outside }
      else if c = '\\' then { s with mode := .escaped }
      else s
  | .outside =>
      if c = '"' then { s with mode := .inside }
      else if c = '[' ∨ c = '\x7b' then { s with depth := s.depth + 1 }
      else if c = ']' ∨ c = '\x7d' then { s with depth := s.depth - 1 }
      else s

def scan (s : Nest) (t : Text) : Nest := t.foldl next s

@[simp] theorem scan_nil (s : Nest) : s.scan [] = s := rfl

@[simp] theorem scan_cons (s : Nest) (c : Char) (t : Text) : s.scan (c :: t) = (s.next c).scan t := rfl

theorem scan_append (s : Nest) (t u : Text) : s.scan (t ++ u) = (s.scan t).scan u := by
  rw [scan, List.foldl_append]
  rfl

end Nest

def IsNeutral (c : Char) : Prop := c ∉ ['"', '[', ']', '\x7b', '\x7d']

instance (c : Char) : Decidable (IsNeutral c) :=
  inferInstanceAs (Decidable (c ∉ ['"', '[', ']', '\x7b', '\x7d']))

theorem isNeutral_of_all {t : Text} (h : t.all (fun c => decide (IsNeutral c)) = true) :
    ∀ c ∈ t, IsNeutral c :=
  fun c hc => of_decide_eq_true (List.all_eq_true.mp h c hc)

theorem next_neutral {c : Char} (h : IsNeutral c) (d : Int) :
    Nest.next ⟨d, .outside⟩ c = ⟨d, .outside⟩ := by
  simp only [IsNeutral, List.mem_cons, List.not_mem_nil, or_false, not_or] at h
  simp [Nest.next, h]

theorem next_open {c : Char} (h : c = '[' ∨ c = '\x7b') (d : Int) :
    Nest.next ⟨d, .outside⟩ c = ⟨d + 1, .outside⟩ := by
  rcases h with rfl | rfl <;> rfl

theorem next_close {c : Char} (h : c = ']' ∨ c = '\x7d') (d : Int) :
    Nest.next ⟨d, .outside⟩ c = ⟨d + -1, .outside⟩ := by
  rcases h with rfl | rfl <;> rfl

theorem next_inside {c : Char} (hquote : c ≠ '"') (hbackslash : c ≠ '\\') (d : Int) :
    Nest.next ⟨d, .inside⟩ c = ⟨d, .inside⟩ := by
  simp [Nest.next, hquote, hbackslash]

/-! ## Passing a text -/

/-- A text leads from one mode to another and opens `change` more containers than it closes. -/
def Leads (m m' : Mode) (change : Int) (t : Text) : Prop :=
  ∀ d, Nest.scan ⟨d, m⟩ t = ⟨d + change, m'⟩

namespace Leads

variable {m m' m'' : Mode} {x y : Int} {t u : Text}

theorem nil (m : Mode) : Leads m m 0 [] := fun d => by rw [Nest.scan_nil, Int.add_zero]

theorem append (ht : Leads m m' x t) (hu : Leads m' m'' y u) : Leads m m'' (x + y) (t ++ u) := by
  intro d
  rw [Nest.scan_append, ht, hu, Int.add_assoc]

theorem singleton {c : Char} (hc : ∀ d, Nest.next ⟨d, m⟩ c = ⟨d + x, m'⟩) : Leads m m' x [c] := hc

theorem neutral (h : ∀ c ∈ t, IsNeutral c) : Leads .outside .outside 0 t := by
  intro d
  rw [Int.add_zero]
  induction t with
  | nil => rfl
  | cons c t ih =>
      rw [Nest.scan_cons, next_neutral (h c (by simp)), ih fun x hx => h x (by simp [hx])]

/-- A text leads to one number of open containers only. -/
theorem unique (h : Leads m m' x t) (h' : Leads m m'' y t) : x = y := by
  have heq := (h 0).symm.trans (h' 0)
  rw [Nest.mk.injEq] at heq
  omega

end Leads

def Crosses (m m' : Mode) (change : Int) (before after : Text) : Prop :=
  ∃ used, before = used ++ after ∧ Leads m m' change used

namespace Crosses

variable {m m' m'' : Mode} {x y : Int} {t u v : Text}

theorem refl (m : Mode) (t : Text) : Crosses m m 0 t t := ⟨[], rfl, .nil m⟩

theorem trans (h : Crosses m m' x t u) (h' : Crosses m' m'' y u v) :
    Crosses m m'' (x + y) t v := by
  obtain ⟨used, rfl, hused⟩ := h
  obtain ⟨more, rfl, hmore⟩ := h'
  exact ⟨used ++ more, (List.append_assoc _ _ _).symm, hused.append hmore⟩

theorem cons {c : Char} (hc : ∀ d, Nest.next ⟨d, m⟩ c = ⟨d + x, m'⟩) : Crosses m m' x (c :: t) t :=
  ⟨[c], rfl, .singleton hc⟩

end Crosses

/-- The part that is dropped from a place. -/
theorem Place.crosses_drop {p : Place} (used : Text) {rest : Text} (hrest : p.rest = used ++ rest)
    (h : ∀ c ∈ used, IsNeutral c) : Crosses .outside .outside 0 p.rest (p.drop used.length).rest := by
  rw [Place.drop, hrest, List.drop_left]
  exact ⟨used, rfl, .neutral h⟩

theorem Place.crosses_skipBlanks (p : Place) :
    Crosses .outside .outside 0 p.rest p.skipBlanks.rest := by
  refine p.crosses_drop _ (List.takeWhile_append_dropWhile (p := isJsonBlank)).symm fun c hc => ?_
  have hblank := List.mem_takeWhile_imp hc
  simp only [isJsonBlank, Bool.or_eq_true, beq_iff_eq] at hblank
  rcases hblank with ((rfl | rfl) | rfl) | rfl <;> decide

/-! ## Strings -/

private theorem exists_of_prepend {c : Char} {r : Except Failure (Text × Place)} {t : Text}
    {p : Place} (h : prepend c r = .ok (t, p)) : ∃ u, r = .ok (u, p) := by
  obtain ⟨⟨u, q⟩, hr, heq⟩ := exists_of_map_ok h
  obtain ⟨-, rfl⟩ := Prod.mk.inj heq
  exact ⟨u, hr⟩

theorem next_hexDigit {c : Char} {n : Nat} (h : hexValue? c = some n) (d : Int) :
    Nest.next ⟨d, .inside⟩ c = ⟨d, .inside⟩ := by
  have hquote : hexValue? '"' = none := by decide
  have hbackslash : hexValue? '\\' = none := by decide
  refine next_inside ?_ ?_ d
  · rintro rfl
    rw [hquote] at h
    cases h
  · rintro rfl
    rw [hbackslash] at h
    cases h

/-- A code escape begins and ends inside of the string. -/
theorem crosses_escape {a b c d : Char} {n : Nat} (h : hexCode? a b c d = some n) (t : Text) :
    Crosses .inside .inside 0 ('\\' :: 'u' :: a :: b :: c :: d :: t) t := by
  simp only [hexCode?, Option.bind_eq_bind, Option.bind_eq_some_iff] at h
  obtain ⟨_, ha, _, hb, _, hc, _, hd, -⟩ := h
  refine ⟨['\\', 'u', a, b, c, d], rfl, fun depth => ?_⟩
  have hmark : Nest.scan ⟨depth, .inside⟩ ['\\', 'u'] = ⟨depth, .inside⟩ := rfl
  rw [show ['\\', 'u', a, b, c, d] = ['\\', 'u'] ++ [a, b, c, d] from rfl, Nest.scan_append, hmark]
  simp only [Nest.scan_cons, Nest.scan_nil, next_hexDigit ha, next_hexDigit hb, next_hexDigit hc,
    next_hexDigit hd, Int.add_zero]

/-- So does any other character that a backslash sets off. -/
theorem crosses_backslash (c : Char) (t : Text) : Crosses .inside .inside 0 ('\\' :: c :: t) t :=
  ⟨['\\', c], rfl, fun d => by simp [Nest.next]⟩

/-- A string that is read ends at its closing quote. -/
theorem crosses_readStringFrom {opened position : Nat} {t s : Text} {p : Place}
    (h : readStringFrom opened position t = .ok (s, p)) : Crosses .inside .outside 0 t p.rest := by
  fun_induction readStringFrom opened position t generalizing s with
  | case2 position rest =>
      obtain ⟨-, rfl⟩ := Prod.mk.inj (Except.ok.inj h)
      exact .cons fun d => by simp [Nest.next]
  | case6 position a b c d high hhigh e f g h' last after _ low hlow _ ih =>
      obtain ⟨u, hu⟩ := exists_of_prepend h
      exact ((crosses_escape hhigh _).trans (crosses_escape hlow _)).trans (ih hu)
  | case7 position a b c d high hhigh e f g h' last after _ low hlow _ ih =>
      obtain ⟨u, hu⟩ := exists_of_prepend h
      exact (crosses_escape hhigh _).trans (ih hu)
  | case8 position a b c d high hhigh next rest _ ih =>
      obtain ⟨u, hu⟩ := exists_of_prepend h
      exact (crosses_escape hhigh _).trans (ih hu)
  | case10 position c rest _ _ e he ih =>
      obtain ⟨u, hu⟩ := exists_of_prepend h
      exact (crosses_backslash c _).trans (ih hu)
  | case13 position c rest hquote hend _ _ hpair _ ih =>
      obtain ⟨u, hu⟩ := exists_of_prepend h
      have hne : c ≠ '\\' := by
        intro heq
        cases rest with
        | nil => exact hend heq rfl
        | cons d rest => exact hpair d rest heq rfl
      have hfirst : Crosses .inside .inside 0 (c :: rest) rest :=
        .cons fun d => by rw [next_inside hquote hne, Int.add_zero]
      exact hfirst.trans (ih hu)
  | _ => cases h

/-! ## Words and numbers -/

theorem crosses_readWord? {p q : Place} {v : Value} (h : readWord? p = some (v, q)) :
    Crosses .outside .outside 0 p.rest q.rest := by
  obtain ⟨⟨word, v⟩, hfound, heq⟩ := Option.map_eq_some_iff.mp h
  obtain ⟨rfl, rfl⟩ := Prod.mk.inj heq
  have hprefix : word.isPrefixOf p.rest = true := by simpa using List.find?_some hfound
  obtain ⟨rest, hrest⟩ := List.isPrefixOf_iff_prefix.mp hprefix
  have hwords : (words.all fun entry => entry.1.all fun c => decide (IsNeutral c)) = true := by decide
  have hword := List.all_eq_true.mp hwords _ (List.mem_of_find?_eq_some hfound)
  exact p.crosses_drop word hrest.symm (isNeutral_of_all hword)

theorem isNeutral_of_isDigit {c : Char} (h : c.isDigit = true) : IsNeutral c := by
  intro hmem
  simp only [List.mem_cons, List.not_mem_nil, or_false] at hmem
  rcases hmem with rfl | rfl | rfl | rfl | rfl <;> exact absurd h (by decide)

/-- Digits after marks that are neutral. -/
private theorem crosses_drop_digits {p : Place} (marks : Text) {rest : Text} (hrest : p.rest = marks ++ rest)
    (hmarks : ∀ c ∈ marks, IsNeutral c) :
    Crosses .outside .outside 0 p.rest
      (p.drop (marks.length + (rest.takeWhile Char.isDigit).length)).rest := by
  have hsplit : p.rest =
      (marks ++ rest.takeWhile Char.isDigit) ++ rest.dropWhile Char.isDigit := by
    rw [List.append_assoc, List.takeWhile_append_dropWhile, hrest]
  have hcross := p.crosses_drop _ hsplit fun c hc => by
    rcases List.mem_append.mp hc with hc | hc
    · exact hmarks c hc
    · exact isNeutral_of_isDigit (List.mem_takeWhile_imp hc)
  rwa [List.length_append] at hcross

namespace Place

def afterSign (p : Place) : Place := if p.rest.head? == some '-' then p.drop 1 else p

def whole (p : Place) : Text :=
  if p.rest.head? == some '0' then ['0'] else p.rest.takeWhile Char.isDigit

def fraction (p : Place) : Text :=
  match p.rest with
  | '.' :: rest => rest.takeWhile Char.isDigit
  | _ => []

def afterFraction (p : Place) : Place :=
  if p.fraction.isEmpty then p else p.drop (p.fraction.length + 1)

theorem crosses_afterSign (p : Place) : Crosses .outside .outside 0 p.rest p.afterSign.rest := by
  rw [afterSign]
  split
  · next hsign =>
      obtain ⟨rest, hrest⟩ := List.head?_eq_some_iff.mp (beq_iff_eq.mp hsign)
      exact p.crosses_drop ['-'] hrest (isNeutral_of_all (by decide))
  · exact .refl _ _

theorem crosses_whole (p : Place) :
    Crosses .outside .outside 0 p.rest (p.drop p.whole.length).rest := by
  rw [whole]
  split
  · next hzero =>
      obtain ⟨rest, hrest⟩ := List.head?_eq_some_iff.mp (beq_iff_eq.mp hzero)
      exact p.crosses_drop ['0'] hrest (isNeutral_of_all (by decide))
  · simpa using crosses_drop_digits (p := p) [] rfl (by simp)

theorem crosses_afterFraction (p : Place) :
    Crosses .outside .outside 0 p.rest p.afterFraction.rest := by
  rw [afterFraction]
  split
  · exact .refl _ _
  · next hsome =>
      rw [fraction] at hsome ⊢
      split
      · next rest hrest =>
          have hcross := crosses_drop_digits ['.'] hrest (isNeutral_of_all (by decide))
          rwa [Nat.add_comm]
      · next hnone => simp at hsome

/-- An exponent is marked by a letter and perhaps a sign, before its digits. -/
theorem exists_marks_of_exponent? {t : Text} {found : Bool × Text × Nat}
    (h : exponent? t = some found) :
    ∃ marks rest, t = marks ++ rest ∧ (∀ c ∈ marks, IsNeutral c) ∧
      found.2.2 = marks.length + (rest.takeWhile Char.isDigit).length := by
  revert h
  fun_cases exponent? t with
  | case2 e rest hletter negative marks digits hsign shown _ =>
      intro h
      obtain rfl := Option.some.inj h
      have he : IsNeutral e := by
        rcases Bool.or_eq_true_iff.mp hletter with he | he <;> rw [beq_iff_eq.mp he] <;> decide
      split at hsign <;> cases hsign
      · exact ⟨[e, '-'], digits, rfl, by simp [he]; decide, rfl⟩
      · exact ⟨[e, '+'], digits, rfl, by simp [he]; decide, rfl⟩
      · exact ⟨[e], rest, rfl, by simp [he], rfl⟩
  | _ => exact fun h => by cases h

theorem crosses_exponent {p : Place} {down : Bool} {digits : Text} {taken : Nat}
    (h : exponent? p.rest = some (down, digits, taken)) :
    Crosses .outside .outside 0 p.rest (p.drop taken).rest := by
  obtain ⟨marks, rest, hrest, hmarks, rfl⟩ := exists_marks_of_exponent? h
  exact crosses_drop_digits marks hrest hmarks

end Place

/-- A number by its parts. -/
theorem readNumber_eq (p : Place) :
    readNumber p =
      let negative := p.rest.head? == some '-'
      let whole := p.afterSign.whole
      let fraction := (p.afterSign.drop whole.length).fraction
      let last := (p.afterSign.drop whole.length).afterFraction
      if whole.isEmpty then p.fail .expectingValue
      else
        match exponent? last.rest with
        | some (down, digits, taken) =>
            let power : Int := Text.digitsValue digits
            let power := (if down then -power else power) - fraction.length
            .ok (.real (.ofDecimal negative (Text.digitsValue (whole ++ fraction)) power),
              last.drop taken)
        | none =>
            if fraction.isEmpty then
              if Text.longestNumeral < whole.length then .error (.tooManyDigits whole.length)
              else
                let n : Int := Text.digitsValue whole
                .ok (.int (if negative then -n else n), last)
            else
              .ok (.real (.ofDecimal negative (Text.digitsValue (whole ++ fraction))
                (-fraction.length)), last) :=
  rfl

/-- A number ends behind its exponent, or behind its fraction when it has none. -/
theorem crosses_readNumber {p q : Place} {v : Value} (h : readNumber p = .ok (v, q)) :
    Crosses .outside .outside 0 p.rest q.rest := by
  have hlast := (p.crosses_afterSign.trans p.afterSign.crosses_whole).trans
    (Place.crosses_afterFraction _)
  rw [readNumber_eq] at h
  dsimp only at h
  generalize (p.afterSign.drop p.afterSign.whole.length).afterFraction = last at h hlast
  split at h
  · cases h
  · split at h
    · next down digits taken hexponent =>
        obtain ⟨-, rfl⟩ := Prod.mk.inj (Except.ok.inj h)
        exact hlast.trans (Place.crosses_exponent hexponent)
    · split at h
      · split at h
        · cases h
        · obtain ⟨-, rfl⟩ := Prod.mk.inj (Except.ok.inj h)
          exact hlast
      · obtain ⟨-, rfl⟩ := Prod.mk.inj (Except.ok.inj h)
        exact hlast

/-! ## Values -/

/-- The first character of a place is passed. -/
theorem Place.crosses_first {m m' : Mode} {x : Int} {p : Place} {c : Char} {rest : Text}
    (hrest : p.rest = c :: rest) (hc : ∀ d, Nest.next ⟨d, m⟩ c = ⟨d + x, m'⟩) :
    Crosses m m' x p.rest (p.drop 1).rest := by
  rw [Place.drop, hrest]
  exact .cons hc

theorem crosses_readString {p q : Place} {rest t : Text} (hrest : p.rest = '"' :: rest)
    (h : readStringFrom p.position (p.position + 1) rest = .ok (t, q)) :
    Crosses .outside .outside 0 p.rest q.rest := by
  rw [hrest]
  have hquote : Crosses .outside .inside 0 ('"' :: rest) rest :=
    .cons fun d => by simp [Nest.next]
  exact hquote.trans (crosses_readStringFrom h)

/-- A mark between two parts is passed together with the blanks behind it. -/
theorem Place.crosses_mark {p : Place} {c : Char} {rest : Text} (hrest : p.rest = c :: rest)
    (hc : IsNeutral c) : Crosses .outside .outside 0 p.rest (p.drop 1).skipBlanks.rest := by
  have hfirst : Crosses .outside .outside 0 p.rest (p.drop 1).rest :=
    p.crosses_first hrest fun d => by rw [next_neutral hc, Int.add_zero]
  exact hfirst.trans (Place.crosses_skipBlanks _)

/-- What readers with so much fuel take: a value as a whole, or the rest of a container and its end. -/
structure Closes (fuel : Nat) : Prop where
  value : ∀ {depth p v q}, readValue depth fuel p = .ok (v, q) →
    Crosses .outside .outside 0 p.rest q.rest
  items : ∀ {depth p vs q}, readItems depth fuel p = .ok (vs, q) →
    Crosses .outside .outside (-1) p.rest q.rest
  entries : ∀ {depth p es q}, readEntries depth fuel p = .ok (es, q) →
    Crosses .outside .outside (-1) p.rest q.rest

section Readers

variable {depth fuel : Nat} {p q : Place}

/-- A container that is not too deep is empty, or its contents are read to the mark that ends it. -/
theorem crosses_container {α : Type} {first last : Char} {rest : Text} {v empty : Value}
    {e : Failure} {contents : Except Failure (α × Place)} {make : α → Value}
    (hrest : p.rest = first :: rest) (hfirst : first = '[' ∨ first = '\x7b')
    (hlast : last = ']' ∨ last = '\x7d')
    (hcontents : ∀ {a r}, contents = .ok (a, r) →
      Crosses .outside .outside (-1) (p.drop 1).skipBlanks.rest r.rest)
    (h : (if deepest ≤ depth then .error e
      else if (p.drop 1).skipBlanks.rest.head? == some last then
        .ok (empty, (p.drop 1).skipBlanks.drop 1)
      else contents.map fun found => (make found.1, found.2)) = .ok (v, q)) :
    Crosses .outside .outside 0 p.rest q.rest := by
  have hinside : Crosses .outside .outside 1 p.rest (p.drop 1).skipBlanks.rest :=
    (p.crosses_first hrest (next_open hfirst)).trans (Place.crosses_skipBlanks _)
  split at h
  · cases h
  · split at h
    · next hhead =>
        obtain ⟨-, rfl⟩ := Prod.mk.inj (Except.ok.inj h)
        obtain ⟨more, hmore⟩ := List.head?_eq_some_iff.mp (beq_iff_eq.mp hhead)
        exact hinside.trans (Place.crosses_first hmore (next_close hlast))
    · obtain ⟨⟨a, after⟩, hread, heq⟩ := exists_of_map_ok h
      obtain ⟨-, rfl⟩ := Prod.mk.inj heq
      exact hinside.trans (hcontents hread)

theorem crosses_readValue {v : Value} (hfuel : Closes fuel)
    (h : readValue depth (fuel + 1) p = .ok (v, q)) : Crosses .outside .outside 0 p.rest q.rest := by
  rw [readValue.eq_def] at h
  dsimp only at h
  split at h
  · next rest hrest =>
      obtain ⟨⟨t, after⟩, hread, heq⟩ := exists_of_map_ok h
      obtain ⟨-, rfl⟩ := Prod.mk.inj heq
      exact crosses_readString hrest hread
  · next rest hrest => exact crosses_container hrest (.inl rfl) (.inl rfl) hfuel.items h
  · next rest hrest => exact crosses_container hrest (.inr rfl) (.inr rfl) hfuel.entries h
  · split at h
    · next r hword =>
        obtain rfl := Except.ok.inj h
        exact crosses_readWord? hword
    · exact crosses_readNumber h

theorem crosses_readItems {vs : List Value} (hfuel : Closes fuel)
    (h : readItems depth (fuel + 1) p = .ok (vs, q)) :
    Crosses .outside .outside (-1) p.rest q.rest := by
  rw [readItems.eq_def] at h
  dsimp only at h
  obtain ⟨⟨v, after⟩, hvalue, h⟩ := exists_of_bind_ok h
  have hafter := (hfuel.value hvalue).trans after.crosses_skipBlanks
  dsimp only at h
  split at h
  · next rest hrest =>
      obtain ⟨-, rfl⟩ := Prod.mk.inj (Except.ok.inj h)
      exact hafter.trans (Place.crosses_first hrest (next_close (.inl rfl)))
  · next rest hrest =>
      obtain ⟨⟨items, last⟩, hitems, h⟩ := exists_of_bind_ok h
      obtain ⟨-, rfl⟩ := Prod.mk.inj (Except.ok.inj h)
      exact (hafter.trans (Place.crosses_mark hrest (by decide))).trans (hfuel.items hitems)
  · cases h

theorem crosses_readEntries {es : List (Value × Value)} (hfuel : Closes fuel)
    (h : readEntries depth (fuel + 1) p = .ok (es, q)) :
    Crosses .outside .outside (-1) p.rest q.rest := by
  rw [readEntries.eq_def] at h
  dsimp only at h
  split at h
  · next rest hrest =>
      obtain ⟨⟨name, after⟩, hname, h⟩ := exists_of_bind_ok h
      have hcolon := (crosses_readString hrest hname).trans after.crosses_skipBlanks
      dsimp only at h
      split at h
      · obtain ⟨_, hfail, -⟩ := exists_of_bind_ok h
        cases hfail
      · next hhead =>
          have hhead : after.skipBlanks.rest.head? = some ':' := by simpa using hhead
          obtain ⟨more, hmore⟩ := List.head?_eq_some_iff.mp hhead
          obtain ⟨⟨v, last⟩, hvalue, h⟩ := exists_of_bind_ok h
          have hentry := ((hcolon.trans (Place.crosses_mark hmore (by decide))).trans
            (hfuel.value hvalue)).trans last.crosses_skipBlanks
          dsimp only at h
          split at h
          · next hend =>
              obtain ⟨-, rfl⟩ := Prod.mk.inj (Except.ok.inj h)
              exact hentry.trans (Place.crosses_first hend (next_close (.inr rfl)))
          · next hcomma =>
              obtain ⟨⟨entries, last⟩, hentries, h⟩ := exists_of_bind_ok h
              obtain ⟨-, rfl⟩ := Prod.mk.inj (Except.ok.inj h)
              exact (hentry.trans (Place.crosses_mark hcomma (by decide))).trans
                (hfuel.entries hentries)
          · cases h
  · cases h

end Readers

theorem closes (fuel : Nat) : Closes fuel := by
  induction fuel with
  | zero => constructor <;> exact fun h => nomatch h
  | succ fuel ih => exact ⟨crosses_readValue ih, crosses_readItems ih, crosses_readEntries ih⟩

/-- A document that is read leaves no container open, and no string. -/
theorem leads_of_readDocument {t : Text} {v : Value} (h : readDocument t = .ok v) :
    Leads .outside .outside 0 t := by
  rw [readDocument] at h
  dsimp only at h
  split at h
  · obtain ⟨_, hfail, -⟩ := exists_of_bind_ok h
    cases hfail
  · obtain ⟨⟨v, after⟩, hvalue, h⟩ := exists_of_bind_ok h
    have hcross := ((Place.crosses_skipBlanks ⟨0, t⟩).trans ((closes _).value hvalue)).trans
      after.crosses_skipBlanks
    dsimp only at h
    split at h
    · next hempty =>
        obtain ⟨used, hused, hlead⟩ := hcross
        have hall : t = used := by rwa [List.isEmpty_iff.mp hempty, List.append_nil] at hused
        exact hall ▸ hlead
    · cases h

/-- An empty document is none. -/
theorem readDocument_nil (v : Value) : readDocument [] ≠ .ok v := fun h => by cases h

/-- Line ends count for nothing in a document's nesting. -/
theorem scan_unifyNewlines (s : Nest) (t : Text) : s.scan t.unifyNewlines = s.scan t := by
  have hline : ∀ s : Nest, (s.next '\r').next '\n' = s.next '\n' := by
    rintro ⟨d, m⟩
    cases m <;> rfl
  have hreturn : ∀ s : Nest, s.next '\r' = s.next '\n' := by
    rintro ⟨d, m⟩
    cases m <;> rfl
  fun_induction Text.unifyNewlines t generalizing s with
  | case1 => rfl
  | case2 rest ih => rw [Nest.scan_cons, Nest.scan_cons, Nest.scan_cons, hline, ih]
  | case3 c rest _ ih =>
      rw [Nest.scan_cons, Nest.scan_cons, ih]
      split
      · next hc => rw [beq_iff_eq.mp hc, hreturn]
      · rfl

end Hypertag.Json
