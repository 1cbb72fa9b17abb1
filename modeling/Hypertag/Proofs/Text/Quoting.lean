import Hypertag.Proofs.Text.Encoding
import Hypertag.Proofs.Text.Hexadecimal
import Hypertag.Text.Quoted

/-!
# Quoted text is read back

A quoted character can be told from whatever follows it, so quoted text gives back the text and what
stands behind the closing mark. It holds printable characters only, and so no end of a line.
-/

namespace Hypertag.Text

/-! ## Reading -/

/-- A character by so many hexadecimal digits, and what follows them. -/
def codeUnescaped? (width : Nat) (t : Text) : Option (Char × Text) :=
  (hexNumber? (t.take width)).map fun n => (Char.ofNat n, t.drop width)

def unquoteChar? : Text → Option (Char × Text)
  | '\\' :: 'n' :: rest => some ('\n', rest)
  | '\\' :: 'r' :: rest => some ('\r', rest)
  | '\\' :: 't' :: rest => some ('\t', rest)
  | '\\' :: 'x' :: rest => codeUnescaped? 2 rest
  | '\\' :: 'u' :: rest => codeUnescaped? 4 rest
  | '\\' :: 'U' :: rest => codeUnescaped? 8 rest
  | '\\' :: c :: rest => some (c, rest)
  | c :: rest => some (c, rest)
  | [] => none

theorem codeUnescaped?_hex (width : Nat) {c : Char} (h : c.toNat < 16 ^ (width + 1)) (rest : Text) :
    codeUnescaped? (width + 1) (hex (width + 1) c.toNat ++ rest) = some (c, rest) := by
  have hlength := length_hex width h
  rw [codeUnescaped?, List.take_left' hlength, List.drop_left' hlength, hexNumber?_hex width h,
    Option.map_some, Char.ofNat_toNat]

theorem unquoteChar?_codeEscape (c : Char) (rest : Text) :
    unquoteChar? (codeEscape c ++ rest) = some (c, rest) := by
  have hvalid := Encoding.valid_toNat c
  rw [codeEscape]
  split_ifs with htwo hfour
  · exact codeUnescaped?_hex 1 htwo rest
  · exact codeUnescaped?_hex 3 hfour rest
  · exact codeUnescaped?_hex 7 (by omega) rest

def IsQuoteMark (mark : Char) : Prop := mark = '\'' ∨ mark = '"'

theorem isQuoteMark_quoteMark (t : Text) : IsQuoteMark (quoteMark t) := by
  unfold quoteMark
  split
  · exact .inr rfl
  · exact .inl rfl

inductive QuotedAs (mark c : Char) : Text → Prop where
  | itself (special : c = mark ∨ c = '\\') : QuotedAs mark c ['\\', c]
  | letter {e : Char} (named : (e, c) ∈ [('n', '\n'), ('r', '\r'), ('t', '\t')]) :
      QuotedAs mark c ['\\', e]
  | plain (notMark : c ≠ mark) (backslash : c ≠ '\\') (printable : isPrintable c = true) :
      QuotedAs mark c [c]
  | code : QuotedAs mark c (codeEscape c)

theorem quotedAs_quoteChar (mark c : Char) : QuotedAs mark c (quoteChar mark c) := by
  rw [quoteChar]
  split_ifs with hself hn hr ht hprint
  · exact .itself (by simpa using hself)
  · exact .letter (by simpa using hn)
  · exact .letter (by simpa using hr)
  · exact .letter (by simpa using ht)
  · rw [Bool.or_eq_true, beq_iff_eq, beq_iff_eq, not_or] at hself
    exact .plain hself.1 hself.2 hprint
  · exact .code

section Marks

variable {mark c : Char} {w : Text} (hmark : IsQuoteMark mark)

include hmark

/-- Every form of a character is read as it, before whatever follows. -/
theorem QuotedAs.unquoteChar?_eq (h : QuotedAs mark c w) (rest : Text) :
    unquoteChar? (w ++ rest) = some (c, rest) := by
  cases h with
  | itself special =>
      rcases special with rfl | rfl
      · rcases hmark with rfl | rfl <;> rfl
      · rfl
  | letter named =>
      simp only [List.mem_cons, Prod.mk.injEq, List.not_mem_nil, or_false] at named
      rcases named with ⟨rfl, rfl⟩ | ⟨rfl, rfl⟩ | ⟨rfl, rfl⟩ <;> rfl
  | plain _ backslash _ =>
      rw [List.singleton_append, unquoteChar?]
      all_goals intros; contradiction
  | code => exact unquoteChar?_codeEscape c rest

/-- No form of a character begins with the mark. -/
theorem QuotedAs.head?_ne (h : QuotedAs mark c w) (rest : Text) :
    (w ++ rest).head? ≠ some mark := by
  have hbackslash : '\\' ≠ mark := by
    rcases hmark with rfl | rfl <;> decide
  cases h with
  | itself _ | letter _ => simpa using hbackslash
  | plain notMark _ _ => simpa using notMark
  | code =>
      rw [codeEscape]
      split_ifs <;> simpa using hbackslash

theorem flatMap_quoteChar_inj {t u rest more : Text}
    (h : t.flatMap (quoteChar mark) ++ mark :: rest = u.flatMap (quoteChar mark) ++ mark :: more) :
    t = u ∧ rest = more := by
  induction t generalizing u with
  | nil =>
      cases u with
      | nil => exact ⟨rfl, by simpa using h⟩
      | cons d u =>
          rw [List.flatMap_cons, List.append_assoc] at h
          exact absurd (congrArg List.head? h).symm ((quotedAs_quoteChar mark d).head?_ne hmark _)
  | cons c t ih =>
      cases u with
      | nil =>
          rw [List.flatMap_cons, List.append_assoc] at h
          exact absurd (congrArg List.head? h) ((quotedAs_quoteChar mark c).head?_ne hmark _)
      | cons d u =>
          rw [List.flatMap_cons, List.flatMap_cons, List.append_assoc, List.append_assoc] at h
          have hread := congrArg unquoteChar? h
          rw [(quotedAs_quoteChar mark c).unquoteChar?_eq hmark,
            (quotedAs_quoteChar mark d).unquoteChar?_eq hmark] at hread
          obtain ⟨rfl, htail⟩ := Prod.mk.inj (Option.some.inj hread)
          obtain ⟨rfl, hrest⟩ := ih htail
          exact ⟨rfl, hrest⟩

end Marks

/-- Quoted text and what follows it can be told apart. -/
theorem quoted_append_inj {t u rest more : Text} (h : quoted t ++ rest = quoted u ++ more) :
    t = u ∧ rest = more := by
  rw [quoted, quoted] at h
  simp only [List.cons_append, List.append_assoc, List.nil_append, List.cons.injEq] at h
  obtain ⟨hmark, hbody⟩ := h
  rw [← hmark] at hbody
  exact flatMap_quoteChar_inj (isQuoteMark_quoteMark t) hbody

/-! ## Printable characters -/

def lineBoundaries : List Char :=
  ['\n', '\x0b', '\x0c', '\r', '\x1c', '\x1d', '\x1e', '\u0085', '\u2028', '\u2029']

theorem notMem_lineBoundaries_of_isPrintable {c : Char} (h : isPrintable c = true) :
    c ∉ lineBoundaries := by
  intro hmem
  have hends := List.all_eq_true.mp isPrintable_lineEnds c hmem
  simp [h] at hends

theorem notMem_lineBoundaries_of_isDigit {c : Char} (h : c.isDigit = true) :
    c ∉ lineBoundaries := by
  have hends : lineBoundaries.all (fun d => !d.isDigit) = true := by decide
  intro hmem
  have hend := List.all_eq_true.mp hends c hmem
  simp [h] at hend

/-- Fixed text on one line. -/
theorem notMem_lineBoundaries_of_all {t : Text}
    (h : t.all (fun c => !lineBoundaries.contains c) = true) : ∀ c ∈ t, c ∉ lineBoundaries := by
  intro c hc
  simpa using List.all_eq_true.mp h c hc

theorem isPrintable_escapes :
    ['\\', '\'', '"', 'n', 'r', 't', 'x', 'u', 'U'].all isPrintable = true := by
  decide +kernel

theorem isPrintable_digitChar : ∀ d < 16, isPrintable d.digitChar = true := by
  decide +kernel

theorem isPrintable_codeEscape (c : Char) : ∀ d ∈ codeEscape c, isPrintable d = true := by
  have hvalid := Encoding.valid_toNat c
  have hescapes := List.all_eq_true.mp isPrintable_escapes
  have hdigits : ∀ width, c.toNat < 16 ^ (width + 1) →
      ∀ d ∈ hex (width + 1) c.toNat, isPrintable d = true := by
    intro width hwidth d hd
    obtain ⟨digit, hdigit, rfl⟩ := mem_hex width hwidth hd
    exact isPrintable_digitChar digit hdigit
  have hletter : ∀ letter ∈ ['x', 'u', 'U'], ∀ digits : Text,
      (∀ d ∈ digits, isPrintable d = true) → ∀ d ∈ '\\' :: letter :: digits, isPrintable d = true := by
    intro letter hmem digits hprint
    refine List.forall_mem_cons.mpr ⟨hescapes _ (by simp), List.forall_mem_cons.mpr ⟨?_, hprint⟩⟩
    exact hescapes _ (List.mem_of_mem_drop (i := 6) hmem)
  rw [codeEscape]
  split_ifs with htwo hfour
  · exact hletter 'x' (by decide) _ (hdigits 1 htwo)
  · exact hletter 'u' (by decide) _ (hdigits 3 hfour)
  · exact hletter 'U' (by decide) _ (hdigits 7 (by omega))

theorem QuotedAs.isPrintable_of_mem {mark c : Char} {w : Text} (hmark : IsQuoteMark mark)
    (h : QuotedAs mark c w) : ∀ d ∈ w, isPrintable d = true := by
  have hescapes := List.all_eq_true.mp isPrintable_escapes
  have hpair : ∀ d, isPrintable d = true → ∀ e ∈ ['\\', d], isPrintable e = true := fun d hd =>
    List.forall_mem_cons.mpr ⟨hescapes _ (by simp), List.forall_mem_singleton.mpr hd⟩
  cases h with
  | itself special =>
      apply hpair
      apply hescapes
      rcases special with rfl | rfl
      · rcases hmark with rfl | rfl <;> simp
      · simp
  | letter named =>
      apply hpair
      apply hescapes
      simp only [List.mem_cons, Prod.mk.injEq, List.not_mem_nil, or_false] at named
      rcases named with ⟨rfl, -⟩ | ⟨rfl, -⟩ | ⟨rfl, -⟩ <;> simp
  | plain _ _ printable => exact List.forall_mem_singleton.mpr printable
  | code => exact isPrintable_codeEscape c

/-- Whatever the text holds, it stands on one line. -/
theorem isPrintable_quoted (t : Text) : ∀ c ∈ quoted t, isPrintable c = true := by
  have hescapes := List.all_eq_true.mp isPrintable_escapes
  have hmark : isPrintable (quoteMark t) = true := by
    apply hescapes
    rcases isQuoteMark_quoteMark t with h | h <;> simp [h]
  refine List.forall_mem_cons.mpr ⟨hmark, List.forall_mem_append.mpr ⟨fun c hc => ?_, ?_⟩⟩
  · obtain ⟨d, -, hd⟩ := List.mem_flatMap.mp hc
    exact (quotedAs_quoteChar _ d).isPrintable_of_mem (isQuoteMark_quoteMark t) c hd
  · exact List.forall_mem_singleton.mpr hmark

end Hypertag.Text
