import Hypertag.Json.Reader
import Mathlib.Algebra.Group.Nat.Defs

/-!
# Hexadecimal numerals

A number below a power of sixteen is written with as many digits as the power says, and is read back
from them.
-/

namespace Hypertag.Text

open Json (hexValue? hexCode?)

def hexNumber? (digits : Text) : Option Nat :=
  digits.foldlM (fun n c => (hexValue? c).map fun d => 16 * n + d) 0

theorem hexValue?_digitChar : ∀ d < 16, hexValue? d.digitChar = some d := by decide

theorem hex_of_lt {n : Nat} (h : n < 16) (width : Nat) :
    hex (width + 1) n = List.replicate width '0' ++ [n.digitChar] := by
  rw [hex, Nat.toDigits_of_lt_base h]
  rfl

/-- The last digit is apart from the others, which write a sixteenth of the number. -/
theorem hex_succ (width n : Nat) :
    hex (width + 2) n = hex (width + 1) (n / 16) ++ [(n % 16).digitChar] := by
  rcases Nat.lt_or_ge n 16 with hsmall | hlarge
  · rw [hex_of_lt hsmall, Nat.div_eq_of_lt hsmall, hex_of_lt (by decide), Nat.mod_eq_of_lt hsmall,
      List.replicate_succ']
    rfl
  · have hdigits : Nat.toDigits 16 n = Nat.toDigits 16 (n / 16) ++ [(n % 16).digitChar] :=
      Nat.toDigits_of_base_le (by decide) hlarge
    have hzeros : width + 2 - ((Nat.toDigits 16 (n / 16)).length + 1) =
        width + 1 - (Nat.toDigits 16 (n / 16)).length := by omega
    rw [hex, hex, hdigits, List.length_append, List.length_singleton, List.append_assoc, hzeros]

theorem hexNumber?_concat (digits : Text) (c : Char) :
    hexNumber? (digits ++ [c]) =
      (hexNumber? digits).bind fun n => (hexValue? c).map fun d => 16 * n + d := by
  rw [hexNumber?, List.foldlM_append]
  cases h : hexNumber? digits with
  | none => rw [hexNumber?] at h; simp [h]
  | some n => rw [hexNumber?] at h; simp [h]

theorem length_hex (width : Nat) {n : Nat} (h : n < 16 ^ (width + 1)) :
    (hex (width + 1) n).length = width + 1 := by
  induction width generalizing n with
  | zero => rw [hex_of_lt (by simpa using h)]; rfl
  | succ width ih =>
      rw [hex_succ, List.length_append, ih (by rw [Nat.pow_succ] at h; omega)]
      rfl

/-- Digits are read back. -/
theorem hexNumber?_hex (width : Nat) {n : Nat} (h : n < 16 ^ (width + 1)) :
    hexNumber? (hex (width + 1) n) = some n := by
  induction width generalizing n with
  | zero =>
      have hsmall : n < 16 := by simpa using h
      rw [hex_of_lt hsmall, hexNumber?_concat, hexValue?_digitChar n hsmall]
      simp [hexNumber?]
  | succ width ih =>
      rw [hex_succ, hexNumber?_concat, ih (by rw [Nat.pow_succ] at h; omega),
        hexValue?_digitChar _ (Nat.mod_lt n (by decide))]
      simp only [Option.bind_some, Option.map_some]
      congr 1
      omega

theorem mem_hex (width : Nat) {n : Nat} (h : n < 16 ^ (width + 1)) {c : Char}
    (hc : c ∈ hex (width + 1) n) : ∃ d < 16, c = d.digitChar := by
  induction width generalizing n with
  | zero =>
      have hsmall : n < 16 := by simpa using h
      rw [hex_of_lt hsmall] at hc
      exact ⟨n, hsmall, by simpa using hc⟩
  | succ width ih =>
      rw [hex_succ, List.mem_append, List.mem_singleton] at hc
      rcases hc with hc | rfl
      · exact ih (by rw [Nat.pow_succ] at h; omega) hc
      · exact ⟨n % 16, Nat.mod_lt n (by decide), rfl⟩

theorem hexCode?_eq (a b c d : Char) : hexCode? a b c d = hexNumber? [a, b, c, d] := by
  simp only [hexCode?, hexNumber?, List.foldlM_cons, List.foldlM_nil]
  cases hexValue? a <;> cases hexValue? b <;> cases hexValue? c <;> cases hexValue? d <;>
    simp [bind, Option.bind]
  omega

/-- The four digits of a code escape. -/
theorem exists_hexCode {n : Nat} (h : n < 0x10000) :
    ∃ a b c d, hex 4 n = [a, b, c, d] ∧ hexCode? a b c d = some n := by
  have hlength : (hex 4 n).length = 4 := length_hex 3 h
  match hdigits : hex 4 n, hlength with
  | [a, b, c, d], _ =>
      refine ⟨a, b, c, d, rfl, ?_⟩
      rw [hexCode?_eq, ← hdigits]
      exact hexNumber?_hex 3 h

end Hypertag.Text
