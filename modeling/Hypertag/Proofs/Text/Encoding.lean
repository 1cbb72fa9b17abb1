import Hypertag.Text.Encoding
import Mathlib.Tactic.SplitIfs

/-!
# UTF-8 read back

The bytes of a character are read as that character, whatever follows them, so text that was encoded
is decoded to itself.
-/

namespace Hypertag.Encoding

/-! ## One byte -/

theorem toNat_toUInt8 {n : Nat} (h : n < 0x100) : n.toUInt8.toNat = n := by
  simp only [Nat.toUInt8, UInt8.toNat_ofNat']
  omega

section Bytes

variable {position k : Nat} {b : UInt8} {p : Pending} {rest : Bytes}

theorem decodeFrom_ascii (hb : b.toNat < 0x80) :
    decodeFrom position none (b :: rest) =
      (decodeFrom (position + 1) none rest).map (Char.ofNat b.toNat :: ·) := by
  rw [decodeFrom, if_pos hb]

theorem decodeFrom_lead (hb : 0x80 ≤ b.toNat) (hlead : lead? position b = some p) :
    decodeFrom position none (b :: rest) = decodeFrom (position + 1) (some p) rest := by
  rw [decodeFrom, if_neg (by omega), hlead]

/-- A byte after the first adds six bits. -/
theorem decodeFrom_further (hlow : p.low ≤ 0x80 + k % 0x40) (hhigh : 0x80 + k % 0x40 ≤ p.high)
    (howed : 1 < p.owed) :
    decodeFrom position (some p) ((0x80 + k % 0x40).toUInt8 :: rest) =
      decodeFrom (position + 1)
        (some ⟨p.position, p.first, p.count + 1, p.code * 0x40 + k % 0x40, p.owed - 1, 0x80, 0xBF⟩)
        rest := by
  have hb : (0x80 + k % 0x40).toUInt8.toNat = 0x80 + k % 0x40 := toNat_toUInt8 (by omega)
  rw [decodeFrom]
  simp only [hb, hlow, hhigh, decide_true, Bool.and_true, if_true, Nat.add_sub_cancel_left]
  exact if_neg (by omega)

theorem decodeFrom_last (hlow : p.low ≤ 0x80 + k % 0x40) (hhigh : 0x80 + k % 0x40 ≤ p.high)
    (howed : p.owed ≤ 1) :
    decodeFrom position (some p) ((0x80 + k % 0x40).toUInt8 :: rest) =
      (decodeFrom (position + 1) none rest).map (Char.ofNat (p.code * 0x40 + k % 0x40) :: ·) := by
  have hb : (0x80 + k % 0x40).toUInt8.toNat = 0x80 + k % 0x40 := toNat_toUInt8 (by omega)
  rw [decodeFrom]
  simp only [hb, hlow, hhigh, decide_true, Bool.and_true, if_true, Nat.add_sub_cancel_left]
  exact if_pos howed

end Bytes

/-! ## First bytes -/

theorem lead?_two (position : Nat) {k : Nat} (hlow : 2 ≤ k) (hhigh : k < 0x20) :
    lead? position (0xC0 + k).toUInt8 =
      some ⟨position, (0xC0 + k).toUInt8, 1, k, 1, 0x80, 0xBF⟩ := by
  have hb : (0xC0 + k).toUInt8.toNat = 0xC0 + k := toNat_toUInt8 (by omega)
  have hcode : 0xC0 + k - 0xC0 = k := by omega
  rw [lead?]
  simp only [hb, hcode, Bool.and_eq_true, decide_eq_true_eq]
  rw [if_pos (by omega)]

/-- The range of the second byte leaves out overlong forms and surrogates. -/
theorem lead?_three (position : Nat) {n : Nat} (hlow : 0x800 ≤ n) (hhigh : n < 0x10000)
    (hvalid : n < 0xD800 ∨ 0xDFFF < n) :
    ∃ low high,
      lead? position (0xE0 + n / 0x1000).toUInt8 =
          some ⟨position, (0xE0 + n / 0x1000).toUInt8, 1, n / 0x1000, 2, low, high⟩ ∧
        low ≤ 0x80 + n / 0x40 % 0x40 ∧ 0x80 + n / 0x40 % 0x40 ≤ high := by
  have hb : (0xE0 + n / 0x1000).toUInt8.toNat = 0xE0 + n / 0x1000 := toNat_toUInt8 (by omega)
  have hcode : 0xE0 + n / 0x1000 - 0xE0 = n / 0x1000 := by omega
  rw [lead?]
  simp only [hb, hcode, Bool.and_eq_true, decide_eq_true_eq, beq_iff_eq]
  split_ifs
  · omega
  · exact ⟨_, _, rfl, by omega, by omega⟩
  · exact ⟨_, _, rfl, by omega, by omega⟩
  · exact ⟨_, _, rfl, by omega, by omega⟩
  all_goals omega

theorem lead?_four (position : Nat) {n : Nat} (hlow : 0x10000 ≤ n) (hhigh : n < 0x110000) :
    ∃ low high,
      lead? position (0xF0 + n / 0x40000).toUInt8 =
          some ⟨position, (0xF0 + n / 0x40000).toUInt8, 1, n / 0x40000, 3, low, high⟩ ∧
        low ≤ 0x80 + n / 0x1000 % 0x40 ∧ 0x80 + n / 0x1000 % 0x40 ≤ high := by
  have hb : (0xF0 + n / 0x40000).toUInt8.toNat = 0xF0 + n / 0x40000 := toNat_toUInt8 (by omega)
  have hcode : 0xF0 + n / 0x40000 - 0xF0 = n / 0x40000 := by omega
  rw [lead?]
  simp only [hb, hcode, Bool.and_eq_true, decide_eq_true_eq, beq_iff_eq]
  split_ifs
  · omega
  · omega
  · omega
  · omega
  · exact ⟨_, _, rfl, by omega, by omega⟩
  · exact ⟨_, _, rfl, by omega, by omega⟩
  · exact ⟨_, _, rfl, by omega, by omega⟩
  · omega

/-! ## Characters -/

theorem valid_toNat (c : Char) : c.toNat < 0xD800 ∨ 0xDFFF < c.toNat ∧ c.toNat < 0x110000 := c.valid

/-- The bytes of a character are read as it, before whatever follows. -/
theorem decodeFrom_encodeChar (position : Nat) (c : Char) (rest : Bytes) :
    decodeFrom position none (encodeChar c ++ rest) =
      (decodeFrom (position + (encodeChar c).length) none rest).map (c :: ·) := by
  have hvalid := valid_toNat c
  have hchar := Char.ofNat_toNat c
  revert hvalid hchar
  rw [encodeChar]
  generalize c.toNat = n
  intro hvalid hchar
  split_ifs with hone htwo hthree
  · have hb : n.toUInt8.toNat = n := toNat_toUInt8 (by omega)
    rw [List.singleton_append, decodeFrom_ascii (by omega), hb, hchar]
    rfl
  · have hb : (0xC0 + n / 0x40).toUInt8.toNat = 0xC0 + n / 0x40 := toNat_toUInt8 (by omega)
    have hcode : n / 0x40 * 0x40 + n % 0x40 = n := by omega
    simp only [List.cons_append, List.nil_append]
    rw [decodeFrom_lead (by omega) (lead?_two position (by omega) (by omega)),
      decodeFrom_last (by simp) (by simp only; omega) (Nat.le_refl 1), hcode, hchar]
    rfl
  · have hb : (0xE0 + n / 0x1000).toUInt8.toNat = 0xE0 + n / 0x1000 := toNat_toUInt8 (by omega)
    obtain ⟨low, high, hlead, hlow, hhigh⟩ :=
      lead?_three position (n := n) (by omega) hthree (by omega)
    have hcode : (n / 0x1000 * 0x40 + n / 0x40 % 0x40) * 0x40 + n % 0x40 = n := by omega
    simp only [List.cons_append, List.nil_append]
    rw [decodeFrom_lead (by omega) hlead, decodeFrom_further hlow hhigh (by simp),
      decodeFrom_last (by simp) (by simp only; omega) (Nat.le_refl 1), hcode, hchar]
    rfl
  · have hb : (0xF0 + n / 0x40000).toUInt8.toNat = 0xF0 + n / 0x40000 :=
      toNat_toUInt8 (by omega)
    obtain ⟨low, high, hlead, hlow, hhigh⟩ := lead?_four position (n := n) (by omega) (by omega)
    have hcode : ((n / 0x40000 * 0x40 + n / 0x1000 % 0x40) * 0x40 + n / 0x40 % 0x40) * 0x40 +
        n % 0x40 = n := by omega
    simp only [List.cons_append, List.nil_append]
    rw [decodeFrom_lead (by omega) hlead, decodeFrom_further hlow hhigh (by simp),
      decodeFrom_further (by simp) (by simp only; omega) (by simp),
      decodeFrom_last (by simp) (by simp only; omega) (Nat.le_refl 1), hcode, hchar]
    rfl

theorem decodeFrom_encode (position : Nat) (t : Text) :
    decodeFrom position none (encode t) = .ok t := by
  induction t generalizing position with
  | nil => rfl
  | cons c t ih =>
      have hencode : encode (c :: t) = encodeChar c ++ encode t := rfl
      rw [hencode, decodeFrom_encodeChar, ih]
      rfl

theorem decode_encode (t : Text) : decode (encode t) = .ok t := decodeFrom_encode 0 t

end Hypertag.Encoding
