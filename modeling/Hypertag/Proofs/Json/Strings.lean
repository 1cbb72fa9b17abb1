import Hypertag.Json.Writer
import Hypertag.Proofs.Text.Encoding
import Hypertag.Proofs.Text.Hexadecimal

/-!
# Strings that are written and read

A character is written in a way that reading takes for it, whatever follows. So a string is read back,
and what follows it begins where its writing ends.
-/

namespace Hypertag.Json

variable {opened position : Nat}

/-! ## Steps of the reader -/

theorem readStringFrom_quote (rest : Text) :
    readStringFrom opened position ('"' :: rest) = .ok ([], ⟨position + 1, rest⟩) := by
  rw [readStringFrom]

theorem readStringFrom_plain {c : Char} (hquote : c ≠ '"') (hbackslash : c ≠ '\\')
    (hcontrol : ¬ c.toNat < 0x20) (rest : Text) :
    readStringFrom opened position (c :: rest) =
      prepend c (readStringFrom opened (position + 1) rest) := by
  rw [readStringFrom, if_neg hcontrol]
  all_goals intros; contradiction

theorem readStringFrom_escape {c e : Char} (h : simpleEscape? c = some e) (rest : Text) :
    readStringFrom opened position ('\\' :: c :: rest) =
      prepend e (readStringFrom opened (position + 2) rest) := by
  have hcode : c ≠ 'u' := by
    rintro rfl
    cases h
  rw [readStringFrom]
  · simp only [h]
  all_goals intros; contradiction

/-- A code escape that stands for a character by itself. -/
theorem readStringFrom_code {a b c d : Char} {n : Nat} (h : hexCode? a b c d = some n)
    (hsingle : isHighSurrogate n = false) {rest : Text} (hrest : rest ≠ []) :
    readStringFrom opened position ('\\' :: 'u' :: a :: b :: c :: d :: rest) =
      prepend (codeChar n) (readStringFrom opened (position + 6) rest) := by
  obtain ⟨next, rest, rfl⟩ := List.exists_cons_of_ne_nil hrest
  rw [readStringFrom]
  simp [h, hsingle]

/-- Two code escapes that stand for one character. -/
theorem readStringFrom_pair {a b c d e f g k : Char} {high low : Nat}
    (hhigh : hexCode? a b c d = some high) (hlow : hexCode? e f g k = some low)
    (hfirst : isHighSurrogate high = true) (hlast : isLowSurrogate low = true) {rest : Text}
    (hrest : rest ≠ []) :
    readStringFrom opened position
        ('\\' :: 'u' :: a :: b :: c :: d :: '\\' :: 'u' :: e :: f :: g :: k :: rest) =
      prepend (joinSurrogates high low) (readStringFrom opened (position + 12) rest) := by
  obtain ⟨next, rest, rfl⟩ := List.exists_cons_of_ne_nil hrest
  rw [readStringFrom]
  simp [hhigh, hlow, hfirst, hlast]

/-! ## Characters -/

theorem not_isHighSurrogate (c : Char) : isHighSurrogate c.toNat = false := by
  have hvalid := Encoding.valid_toNat c
  simp only [isHighSurrogate, Bool.and_eq_false_iff, decide_eq_false_iff_not]
  omega

theorem codeChar_toNat (c : Char) : codeChar c.toNat = c := by
  have hvalid := Encoding.valid_toNat c
  have hsurrogate : ¬ (0xD800 ≤ c.toNat ∧ c.toNat ≤ 0xDFFF) := by omega
  rw [codeChar, if_neg (by simpa using hsurrogate), Char.ofNat_toNat]

/-- A character with a code of four digits. -/
theorem readStringFrom_escapeCode {c : Char} (h : c.toNat < 0x10000) {rest : Text}
    (hrest : rest ≠ []) :
    readStringFrom opened position (escapeCode c.toNat ++ rest) =
      prepend c (readStringFrom opened (position + 6) rest) := by
  obtain ⟨a, b, d, e, hdigits, hcode⟩ := Text.exists_hexCode h
  rw [escapeCode, hdigits]
  simp only [List.cons_append, List.nil_append]
  rw [readStringFrom_code hcode (not_isHighSurrogate c) hrest, codeChar_toNat]

/-- A character with a code of more digits, which two surrogates write. -/
theorem readStringFrom_surrogates {c : Char} (h : ¬ c.toNat < 0x10000) {rest : Text}
    (hrest : rest ≠ []) :
    readStringFrom opened position
        (escapeCode (0xD800 + (c.toNat - 0x10000) / 0x400) ++
          escapeCode (0xDC00 + (c.toNat - 0x10000) % 0x400) ++ rest) =
      prepend c (readStringFrom opened (position + 12) rest) := by
  have hvalid := Encoding.valid_toNat c
  have hchar := Char.ofNat_toNat c
  revert hvalid hchar h
  generalize c.toNat = n
  intro h hvalid hchar
  have hhighBound : 0xD800 + (n - 0x10000) / 0x400 < 0x10000 := by omega
  have hlowBound : 0xDC00 + (n - 0x10000) % 0x400 < 0x10000 := by omega
  obtain ⟨a, b, d, e, hhigh, hfirst⟩ := Text.exists_hexCode hhighBound
  obtain ⟨f, g, k, l, hlow, hlast⟩ := Text.exists_hexCode hlowBound
  rw [escapeCode, escapeCode, hhigh, hlow]
  simp only [List.cons_append, List.nil_append]
  rw [readStringFrom_pair hfirst hlast
    (by simp only [isHighSurrogate, Bool.and_eq_true, decide_eq_true_eq]; omega)
    (by simp only [isLowSurrogate, Bool.and_eq_true, decide_eq_true_eq]; omega) hrest]
  have hsum : 0x10000 + (0xD800 + (n - 0x10000) / 0x400 - 0xD800) * 0x400 +
      (0xDC00 + (n - 0x10000) % 0x400 - 0xDC00) = n := by omega
  rw [joinSurrogates, hsum, hchar]

theorem length_escapeCode {n : Nat} (h : n < 0x10000) : (escapeCode n).length = 6 := by
  rw [escapeCode, List.length_cons, List.length_cons, Text.length_hex 3 h]

inductive Writing (c : Char) : Text → Prop where
  | short {e : Char} (read : simpleEscape? e = some c) (visible : 0x20 ≤ e.toNat) :
      Writing c ['\\', e]
  | code (small : c.toNat < 0x10000) : Writing c (escapeCode c.toNat)
  | pair (large : ¬ c.toNat < 0x10000) :
      Writing c (escapeCode (0xD800 + (c.toNat - 0x10000) / 0x400) ++
        escapeCode (0xDC00 + (c.toNat - 0x10000) % 0x400))
  | plain (quote : c ≠ '"') (backslash : c ≠ '\\') (visible : ¬ c.toNat < 0x20) : Writing c [c]

theorem writing_writeChar (alphabet : Alphabet) (c : Char) : Writing c (writeChar alphabet c) := by
  have hshort : ∀ {d e : Char}, (c == d) = true → simpleEscape? e = some d → 0x20 ≤ e.toNat →
      Writing c ['\\', e] := by
    intro d e hd read visible
    rw [beq_iff_eq.mp hd]
    exact .short read visible
  rw [writeChar]
  split_ifs with hquote hbackslash hn hr ht hb hf hcontrol hascii
  · exact hshort hquote rfl (by decide)
  · exact hshort hbackslash rfl (by decide)
  · exact hshort hn rfl (by decide)
  · exact hshort hr rfl (by decide)
  · exact hshort ht rfl (by decide)
  · exact hshort hb rfl (by decide)
  · exact hshort hf rfl (by decide)
  · exact .code (by omega)
  · rw [escapeChar]
    split_ifs with hsmall
    · exact .code hsmall
    · exact .pair hsmall
  · exact .plain (by simpa using hquote) (by simpa using hbackslash) hcontrol

/-- Every form of a character is read as it. -/
theorem Writing.readStringFrom_eq {c : Char} {w rest : Text} (h : Writing c w) (hrest : rest ≠ []) :
    readStringFrom opened position (w ++ rest) =
      prepend c (readStringFrom opened (position + w.length) rest) := by
  have hvalid := Encoding.valid_toNat c
  cases h with
  | short read _ => exact readStringFrom_escape read rest
  | code small => rw [readStringFrom_escapeCode small hrest, length_escapeCode small]
  | pair large =>
      rw [readStringFrom_surrogates large hrest, List.length_append, length_escapeCode (by omega),
        length_escapeCode (by omega)]
  | plain quote backslash visible => exact readStringFrom_plain quote backslash visible rest

theorem escapeCode_not_control {n : Nat} (h : n < 0x10000) : ∀ c ∈ escapeCode n, 0x20 ≤ c.toNat := by
  have hdigit : ∀ d < 16, 0x20 ≤ d.digitChar.toNat := by decide
  intro c hc
  rcases List.mem_cons.mp hc with rfl | hc
  · decide
  rcases List.mem_cons.mp hc with rfl | hc
  · decide
  · obtain ⟨d, hd, rfl⟩ := Text.mem_hex 3 h hc
    exact hdigit d hd

/-- No form of a character holds a control character. -/
theorem Writing.not_control {c : Char} {w : Text} (h : Writing c w) : ∀ d ∈ w, 0x20 ≤ d.toNat := by
  have hvalid := Encoding.valid_toNat c
  cases h with
  | short _ visible =>
      exact List.forall_mem_cons.mpr ⟨by decide, List.forall_mem_singleton.mpr visible⟩
  | code small => exact escapeCode_not_control small
  | pair large =>
      rw [List.forall_mem_append]
      exact ⟨escapeCode_not_control (by omega), escapeCode_not_control (by omega)⟩
  | plain _ _ visible => exact List.forall_mem_singleton.mpr (Nat.le_of_not_lt visible)

/-! ## Strings -/

theorem writeString_not_control (alphabet : Alphabet) (t : Text) :
    ∀ c ∈ writeString alphabet t, 0x20 ≤ c.toNat := by
  have hmark : ∀ c ∈ ['"'], 0x20 ≤ c.toNat := List.forall_mem_singleton.mpr (by decide)
  refine List.forall_mem_cons.mpr ⟨by decide, List.forall_mem_append.mpr ⟨fun c hc => ?_, hmark⟩⟩
  obtain ⟨d, -, hd⟩ := List.mem_flatMap.mp hc
  exact (writing_writeChar alphabet d).not_control c hd

/-- A string is read back up to its closing quote. -/
theorem readStringFrom_written (alphabet : Alphabet) (t rest : Text) :
    readStringFrom opened position (t.flatMap (writeChar alphabet) ++ '"' :: rest) =
      .ok (t, ⟨position + (t.flatMap (writeChar alphabet)).length + 1, rest⟩) := by
  induction t generalizing position with
  | nil => exact readStringFrom_quote rest
  | cons c t ih =>
      rw [List.flatMap_cons, List.append_assoc,
        (writing_writeChar alphabet c).readStringFrom_eq (by simp), ih, List.length_append]
      simp only [prepend, Except.map, Nat.add_assoc]

/-- A string and what follows it can be told apart. -/
theorem writeString_append_inj {alphabet : Alphabet} {t u rest more : Text}
    (h : writeString alphabet t ++ rest = writeString alphabet u ++ more) : t = u ∧ rest = more := by
  simp only [writeString, List.cons_append, List.append_assoc, List.nil_append,
    List.cons.injEq, true_and] at h
  have hread : readStringFrom 0 0 (t.flatMap (writeChar alphabet) ++ '"' :: rest) = _ :=
    readStringFrom_written alphabet t rest
  rw [h, readStringFrom_written] at hread
  simp only [Except.ok.injEq, Prod.mk.injEq, Place.mk.injEq] at hread
  exact ⟨hread.1.symm, hread.2.2.symm⟩

end Hypertag.Json
