import Hypertag.Json.Writer
import Hypertag.Proofs.Json.Nesting

/-!
# Writings that are cut off

A value that is written closes every container it opens. When a part of it has no form, the containers
around that part stay open, so what was written before it is no document.
-/

namespace Hypertag.Json

/-! ## Numbers and strings -/

theorem isNeutral_ofNat (n : Nat) : ∀ c ∈ Text.ofNat n, IsNeutral c := fun _ hc =>
  isNeutral_of_isDigit (Nat.isDigit_of_mem_toDigits (by decide) (by decide) hc)

theorem isNeutral_ofInt (n : Int) : ∀ c ∈ Text.ofInt n, IsNeutral c := by
  rw [Text.ofInt]
  split
  · exact List.forall_mem_cons.mpr ⟨by decide, isNeutral_ofNat _⟩
  · exact isNeutral_ofNat _

theorem isNeutral_zeros (n : Nat) : ∀ c ∈ List.replicate n '0', IsNeutral c := by
  intro c hc
  rw [List.eq_of_mem_replicate hc]
  decide

theorem isNeutral_shortest (mantissa : Nat) (exponent : Int) :
    ∀ c ∈ (Binary64.shortest mantissa exponent).1, IsNeutral c := by
  unfold Binary64.shortest
  dsimp only
  split
  · exact fun _ hc => absurd hc List.not_mem_nil
  · intro c hc
    exact isNeutral_ofNat _ c
      (List.mem_reverse.mp (List.dropWhile_subset _ (List.mem_reverse.mp hc)))

theorem isNeutral_powerText (power : Int) : ∀ c ∈ Binary64.powerText power, IsNeutral c := by
  rw [Binary64.powerText, Text.padLeft]
  refine List.forall_mem_cons.mpr ⟨?_, List.forall_mem_append.mpr ⟨isNeutral_zeros _, isNeutral_ofNat _⟩⟩
  split <;> decide

theorem isNeutral_layOut {digits : Text} (h : ∀ c ∈ digits, IsNeutral c) (p : Int) :
    ∀ c ∈ Binary64.layOut digits p, IsNeutral c := by
  have htake : ∀ n, ∀ c ∈ digits.take n, IsNeutral c := fun n c hc => h c (List.mem_of_mem_take hc)
  have hdrop : ∀ n, ∀ c ∈ digits.drop n, IsNeutral c := fun n c hc => h c (List.mem_of_mem_drop hc)
  have hpoint : IsNeutral '.' := by decide
  have hzero : IsNeutral '0' := by decide
  rw [Binary64.layOut]
  dsimp only
  split
  · simp only [List.forall_mem_append, List.forall_mem_cons]
    refine ⟨⟨htake 1, ?_⟩, by decide, isNeutral_powerText _⟩
    split
    · exact List.forall_mem_cons.mpr ⟨hpoint, hdrop 1⟩
    · exact fun _ hc => absurd hc List.not_mem_nil
  · split
    · simp only [List.cons_append, List.forall_mem_append, List.forall_mem_cons]
      exact ⟨hzero, hpoint, isNeutral_zeros _, h⟩
    · split
      · simp only [List.forall_mem_append]
        exact ⟨⟨h, isNeutral_zeros _⟩, isNeutral_of_all (by decide)⟩
      · simp only [List.forall_mem_append, List.forall_mem_cons]
        exact ⟨htake _, hpoint, hdrop _⟩

theorem isNeutral_magnitudeText (mantissa : Nat) (exponent : Int) :
    ∀ c ∈ Binary64.magnitudeText mantissa exponent, IsNeutral c := by
  rw [Binary64.magnitudeText]
  split
  · exact isNeutral_of_all (by decide)
  · exact isNeutral_layOut (isNeutral_shortest mantissa exponent) _

theorem isNeutral_realText (x : Binary64) : ∀ c ∈ realText x, IsNeutral c := by
  cases x with
  | nan => exact isNeutral_of_all (by decide)
  | infinite negative => cases negative <;> exact isNeutral_of_all (by decide)
  | finite negative mantissa exponent =>
      cases negative with
      | false => exact isNeutral_magnitudeText mantissa exponent
      | true => exact List.forall_mem_cons.mpr ⟨by decide, isNeutral_magnitudeText mantissa exponent⟩

theorem leads_hexDigits {t : Text} (h : ∀ c ∈ t, c ≠ '"' ∧ c ≠ '\\') : Leads .inside .inside 0 t := by
  induction t with
  | nil => exact .nil .inside
  | cons c t ih =>
      obtain ⟨⟨hquote, hbackslash⟩, hrest⟩ := List.forall_mem_cons.mp h
      have hfirst : Leads .inside .inside 0 [c] :=
        .singleton fun d => by rw [next_inside hquote hbackslash, Int.add_zero]
      exact hfirst.append (ih hrest)

theorem plain_hexDigits (n : Nat) : ∀ c ∈ Nat.toDigits 16 n, c ≠ '"' ∧ c ≠ '\\' := by
  have hdigit : ∀ k < 16, k.digitChar ≠ '"' ∧ k.digitChar ≠ '\\' := by decide
  induction n using Nat.strongRecOn with
  | ind n ih =>
      rw [Nat.toDigits_eq_if (by decide)]
      split
      · next hsmall => exact List.forall_mem_singleton.mpr (hdigit n hsmall)
      · next hlarge =>
          refine List.forall_mem_append.mpr ⟨ih (n / 16) (by omega), ?_⟩
          exact List.forall_mem_singleton.mpr (hdigit _ (Nat.mod_lt n (by decide)))

theorem leads_escapeCode (n : Nat) : Leads .inside .inside 0 (escapeCode n) := by
  have hmark : Leads .inside .inside 0 ['\\', 'u'] := fun d => by simp [Nest.next]
  have hdigits : ∀ c ∈ Text.hex 4 n, c ≠ '"' ∧ c ≠ '\\' := by
    refine List.forall_mem_append.mpr ⟨fun c hc => ?_, plain_hexDigits n⟩
    rw [List.eq_of_mem_replicate hc]
    decide
  exact hmark.append (leads_hexDigits hdigits)

theorem leads_writeChar (alphabet : Alphabet) (c : Char) :
    Leads .inside .inside 0 (writeChar alphabet c) := by
  have hescaped : ∀ e, Leads .inside .inside 0 ['\\', e] := fun e d => by simp [Nest.next]
  rw [writeChar]
  split
  · exact hescaped '"'
  split
  · exact hescaped '\\'
  split
  · exact hescaped 'n'
  split
  · exact hescaped 'r'
  split
  · exact hescaped 't'
  split
  · exact hescaped 'b'
  split
  · exact hescaped 'f'
  split
  · exact leads_escapeCode _
  split
  · rw [escapeChar]
    split
    · exact leads_escapeCode _
    · exact (leads_escapeCode _).append (leads_escapeCode _)
  · next hquote hbackslash _ _ _ _ _ _ _ =>
      refine .singleton fun d => ?_
      rw [next_inside (by simpa using hquote) (by simpa using hbackslash), Int.add_zero]

theorem leads_writeString (alphabet : Alphabet) (t : Text) :
    Leads .outside .outside 0 (writeString alphabet t) := by
  have hchars : Leads .inside .inside 0 (t.flatMap (writeChar alphabet)) := by
    induction t with
    | nil => exact .nil .inside
    | cons c t ih => exact (leads_writeChar alphabet c).append ih
  have hopen : Leads .outside .inside 0 ['"'] := .singleton fun d => by simp [Nest.next]
  have hend : Leads .inside .outside 0 ['"'] := .singleton fun d => by simp [Nest.next]
  exact (hopen.append hchars).append hend

/-! ## Emissions -/

namespace Emission

theorem append_of_done {a : Emission} (h : a.fault = none) (b : Emission) :
    a ++ b = ⟨a.text ++ b.text, b.fault⟩ := by
  rw [HAppend.hAppend, instHAppendOfAppend]
  simp only [Append.append, append, h]

theorem append_of_stopped {a : Emission} (h : a.fault ≠ none) (b : Emission) : a ++ b = a := by
  obtain ⟨fault, hfault⟩ := Option.ne_none_iff_exists'.mp h
  rw [HAppend.hAppend, instHAppendOfAppend]
  simp only [Append.append, append, hfault]

theorem fault_append {a b : Emission} (h : a.fault = none) : (a ++ b).fault = b.fault := by
  rw [append_of_done h]

theorem append_assoc (a b c : Emission) : a ++ b ++ c = a ++ (b ++ c) := by
  by_cases ha : a.fault = none
  · have hab : (a ++ b).fault = b.fault := fault_append ha
    by_cases hb : b.fault = none
    · rw [append_of_done (hab.trans hb), append_of_done ha, append_of_done ha, append_of_done hb,
        List.append_assoc]
    · rw [append_of_stopped (hab ▸ hb), append_of_stopped hb]
  · rw [append_of_stopped ha, append_of_stopped ha, append_of_stopped ha]

/-- What was written leaves some containers open, and none when nothing stopped it. -/
def Nested (e : Emission) : Prop :=
  ∃ k : Nat, Leads .outside .outside k e.text ∧ (e.fault = none → k = 0)

/-- What a fault leaves of a whole value: nothing, or a container that is open. -/
def Enclosed (e : Emission) : Prop :=
  ∃ k : Nat, Leads .outside .outside k e.text ∧ (e.fault = none → k = 0) ∧
    (e.fault ≠ none → e.text = [] ∨ 0 < k)

theorem Enclosed.nested {e : Emission} : Enclosed e → Nested e :=
  fun ⟨k, hlead, hdone, _⟩ => ⟨k, hlead, hdone⟩

theorem enclosed_ofText {t : Text} (h : Leads .outside .outside 0 t) : Enclosed (ofText t) :=
  ⟨0, h, fun _ => rfl, fun hfault => absurd rfl hfault⟩

theorem enclosed_fault (fault : WriteFault) : Enclosed ⟨[], some fault⟩ :=
  ⟨0, .nil .outside, fun _ => rfl, fun _ => .inl rfl⟩

theorem nested_neutral {t : Text} (h : ∀ c ∈ t, IsNeutral c) : Nested (ofText t) :=
  (enclosed_ofText (.neutral h)).nested

/-- Parts of one container, one after another. -/
theorem Nested.append {a b : Emission} (ha : Nested a) (hb : Nested b) : Nested (a ++ b) := by
  by_cases hfault : a.fault = none
  · obtain ⟨j, hlead, hdone⟩ := ha
    obtain ⟨k, hmore, hend⟩ := hb
    rw [hdone hfault] at hlead
    rw [append_of_done hfault]
    exact ⟨k, by simpa using hlead.append hmore, hend⟩
  · rw [append_of_stopped hfault]
    exact ha

/-- A fault within a container leaves it open. -/
theorem Nested.enclosed {first last : Char} {body : Emission} (h : Nested body)
    (hfirst : first = '[' ∨ first = '\x7b') (hlast : last = ']' ∨ last = '\x7d') :
    Enclosed (ofText [first] ++ body ++ ofText [last]) := by
  obtain ⟨k, hlead, hdone⟩ := h
  have hopen : Leads .outside .outside 1 [first] := .singleton (next_open hfirst)
  have hclose : Leads .outside .outside (-1) [last] := .singleton (next_close hlast)
  have hinside := hopen.append hlead
  have hbegun : (ofText [first] ++ body).fault = body.fault := fault_append rfl
  have htext : (ofText [first] ++ body).text = [first] ++ body.text := by
    rw [append_of_done rfl]
    rfl
  by_cases hfault : body.fault = none
  · have hwhole := hinside.append hclose
    rw [hdone hfault] at hwhole
    rw [append_of_done (hbegun.trans hfault), htext]
    exact enclosed_ofText hwhole
  · rw [append_of_stopped (hbegun ▸ hfault)]
    refine ⟨k + 1, ?_, fun hnone => absurd (hbegun ▸ hnone) hfault, fun _ => .inr (Nat.succ_pos k)⟩
    rw [htext]
    rwa [Int.add_comm] at hinside

end Emission

/-! ## Values -/

section Writing

open Emission

theorem nested_newLine (level : Nat) : Nested (newLine level) := by
  refine nested_neutral (List.forall_mem_cons.mpr ⟨by decide, fun c hc => ?_⟩)
  rw [List.eq_of_mem_replicate hc]
  decide

theorem nested_emitKey (alphabet : Alphabet) (k : Value) : Nested (emitKey alphabet k) := by
  rw [emitKey]
  split
  · exact (enclosed_ofText ((leads_writeString alphabet _).append (.neutral (isNeutral_of_all (by decide))))).nested
  · exact (enclosed_fault _).nested

theorem nested_comma (level : Nat) : Nested (ofText [','] ++ newLine level) :=
  (nested_neutral (isNeutral_of_all (by decide))).append (nested_newLine level)

section Containers

variable {alphabet : Alphabet} {level : Nat} {k v : Value}

theorem enclosed_list {rest : List Value} (hv : Nested (emit alphabet (level + 1) v))
    (hrest : Nested (emitItems alphabet (level + 1) rest)) :
    Enclosed (emit alphabet level (.list (v :: rest))) := by
  have hbody := (((nested_newLine (level + 1)).append hv).append hrest).append (nested_newLine level)
  simpa only [emit, Emission.append_assoc] using hbody.enclosed (.inl rfl) (.inl rfl)

theorem enclosed_dict {rest : List (Value × Value)} (hv : Nested (emit alphabet (level + 1) v))
    (hrest : Nested (emitEntries alphabet (level + 1) rest)) :
    Enclosed (emit alphabet level (.dict ((k, v) :: rest))) := by
  have hkey := (nested_newLine (level + 1)).append (nested_emitKey alphabet k)
  have hbody := ((hkey.append hv).append hrest).append (nested_newLine level)
  simpa only [emit, Emission.append_assoc] using hbody.enclosed (.inr rfl) (.inr rfl)

end Containers

mutual

theorem enclosed_emit (alphabet : Alphabet) (level : Nat) :
    (v : Value) → Enclosed (emit alphabet level v)
  | .null => enclosed_ofText (.neutral (isNeutral_of_all (by decide)))
  | .bool b => enclosed_ofText (.neutral (isNeutral_of_all (by cases b <;> decide)))
  | .int n => enclosed_ofText (.neutral (isNeutral_ofInt n))
  | .real x => enclosed_ofText (.neutral (isNeutral_realText x))
  | .text t => enclosed_ofText (leads_writeString alphabet t)
  | .list [] | .tuple [] | .dict [] => enclosed_ofText fun d => by simp [Nest.next]
  | .list (v :: rest) | .tuple (v :: rest) =>
      enclosed_list (enclosed_emit alphabet (level + 1) v).nested
        (nested_emitItems alphabet (level + 1) rest)
  | .dict ((_, v) :: rest) =>
      enclosed_dict (enclosed_emit alphabet (level + 1) v).nested
        (nested_emitEntries alphabet (level + 1) rest)
  | .set _ | .bytes _ | .query _ => enclosed_fault _

theorem nested_emitItems (alphabet : Alphabet) (level : Nat) :
    (items : List Value) → Nested (emitItems alphabet level items)
  | [] => nested_neutral (isNeutral_of_all (by decide))
  | v :: rest => by
      have hvalue := (nested_comma level).append (enclosed_emit alphabet level v).nested
      rw [emitItems]
      exact hvalue.append (nested_emitItems alphabet level rest)

theorem nested_emitEntries (alphabet : Alphabet) (level : Nat) :
    (entries : List (Value × Value)) → Nested (emitEntries alphabet level entries)
  | [] => nested_neutral (isNeutral_of_all (by decide))
  | (k, v) :: rest => by
      have hcomma : Nested
          (if (keyText? k).isSome then ofText [','] ++ newLine level else ofText []) := by
        split
        · exact nested_comma level
        · exact nested_neutral (isNeutral_of_all (by decide))
      have hkey := hcomma.append (nested_emitKey alphabet k)
      rw [emitEntries]
      exact (hkey.append (enclosed_emit alphabet level v).nested).append
        (nested_emitEntries alphabet level rest)

end

/-- What stands before a fault is no document, whatever its line ends. -/
theorem not_readDocument_of_fault {alphabet : Alphabet} {v : Value}
    (h : (write alphabet v).fault ≠ none) (u : Value) :
    readDocument (write alphabet v).text.unifyNewlines ≠ .ok u := by
  intro hread
  obtain ⟨k, hlead, -, hstopped⟩ := enclosed_emit alphabet 0 v
  rcases hstopped h with hempty | hopen
  · rw [write, hempty] at hread
    exact readDocument_nil u hread
  · have hsame : Leads .outside .outside k (write alphabet v).text.unifyNewlines := by
      intro d
      rw [scan_unifyNewlines]
      exact hlead d
    have hzero := (leads_of_readDocument hread).unique hsame
    omega

end Writing

end Hypertag.Json
