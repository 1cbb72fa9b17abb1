import Hypertag.Proofs.Json.Emission
import Hypertag.Proofs.Json.Strings

/-!
# Documents that are written and read

A value made of texts, truth values, nulls, lists, and dictionaries whose keys are different texts is
written without a fault, and reading the document gives it back, as long as it is not nested too deep.
-/

namespace Hypertag.Json

def named (entries : List (Text × Value)) : List (Value × Value) :=
  entries.map fun (name, v) => (.text name, v)

/-- What a document keeps, with at most so many containers around anything in it. -/
inductive IsDocument : Nat → Value → Prop where
  | null {levels : Nat} : IsDocument levels .null
  | bool {levels : Nat} (b : Bool) : IsDocument levels (.bool b)
  | text {levels : Nat} (t : Text) : IsDocument levels (.text t)
  | list {levels : Nat} {items : List Value} :
      (∀ v ∈ items, IsDocument levels v) → IsDocument (levels + 1) (.list items)
  | dict {levels : Nat} {entries : List (Text × Value)} : (entries.map Prod.fst).Nodup →
      (∀ entry ∈ entries, IsDocument levels entry.2) → IsDocument (levels + 1) (.dict (named entries))

theorem named_cons (name : Text) (v : Value) (entries : List (Text × Value)) :
    named ((name, v) :: entries) = (.text name, v) :: named entries :=
  rfl

/-- A name that is not there yet comes last. -/
theorem insertEntry_named {entries : List (Text × Value)} {name : Text}
    (h : name ∉ entries.map Prod.fst) (v : Value) :
    Value.insertEntry (named entries) (.text name) v = named (entries ++ [(name, v)]) := by
  have hother : (named entries).any (·.1.equals (.text name)) = false := by
    rw [List.any_eq_false]
    intro entry hentry
    obtain ⟨⟨other, w⟩, hmem, rfl⟩ := List.mem_map.mp hentry
    have hne : other ≠ name := fun heq => h (heq ▸ List.mem_map_of_mem hmem)
    simpa [Value.equals] using hne
  rw [Value.insertEntry, hother, if_neg Bool.false_ne_true]
  simp [named]

theorem foldl_insertEntry_named (before : List (Text × Value)) {entries : List (Text × Value)}
    (h : ((before ++ entries).map Prod.fst).Nodup) :
    (named entries).foldl (fun d (k, v) => Value.insertEntry d k v) (named before) =
      named (before ++ entries) := by
  induction entries generalizing before with
  | nil => rw [List.append_nil]; rfl
  | cons entry entries ih =>
      obtain ⟨name, v⟩ := entry
      have hnew : name ∉ before.map Prod.fst := by
        rw [List.map_append, List.map_cons] at h
        exact fun hmem => (List.nodup_append.mp h).2.2 name hmem name List.mem_cons_self rfl
      have hsplit : before ++ (name, v) :: entries = before ++ [(name, v)] ++ entries := by simp
      rw [hsplit] at h ⊢
      rw [← ih _ h, ← insertEntry_named hnew v]
      rfl

theorem dictOf_named {entries : List (Text × Value)} (h : (entries.map Prod.fst).Nodup) :
    Value.dictOf (named entries) = .dict (named entries) := by
  have hfold := foldl_insertEntry_named [] h
  rw [Value.dictOf]
  exact congrArg Value.dict hfold

/-! ## Places -/

/-- Wherever it stands, a reader takes a text for a value. -/
def Takes {α : Type} (read : Place → Except Failure (α × Place)) (t : Text) (a : α) : Prop :=
  ∀ position rest, read ⟨position, t ++ rest⟩ = .ok (a, ⟨position + t.length, rest⟩)

def IsBlankText (t : Text) : Prop := ∀ c ∈ t, Place.isJsonBlank c = true

/-- The first character of a value is no blank and ends no container. -/
def Begins (t : Text) : Prop := ∃ c rest, t = c :: rest ∧ c ∈ ['"', '[', '\x7b', 'n', 't', 'f']

section Places

variable {blanks : Text} {c : Char}

theorem Place.skipBlanks_append (h : IsBlankText blanks) (hc : Place.isJsonBlank c = false)
    (position : Nat) (rest : Text) :
    Place.skipBlanks ⟨position, blanks ++ c :: rest⟩ = ⟨position + blanks.length, c :: rest⟩ := by
  have hrun : (blanks ++ c :: rest).takeWhile Place.isJsonBlank = blanks := by
    rw [List.takeWhile_append_of_pos h, List.takeWhile_cons_of_neg (by simp [hc]), List.append_nil]
  rw [Place.skipBlanks, hrun, Place.drop, List.drop_left]

theorem Place.skipBlanks_closing (h : IsBlankText blanks) (position : Nat) :
    Place.skipBlanks ⟨position, blanks⟩ = ⟨position + blanks.length, []⟩ := by
  have hrun : blanks.takeWhile Place.isJsonBlank = blanks := List.takeWhile_eq_self_iff.mpr h
  rw [Place.skipBlanks, hrun, Place.drop, List.drop_length]

theorem Place.skipBlanks_cons (hc : Place.isJsonBlank c = false) (position : Nat) (rest : Text) :
    Place.skipBlanks ⟨position, c :: rest⟩ = ⟨position, c :: rest⟩ := by
  have hnil : IsBlankText [] := fun _ h => absurd h List.not_mem_nil
  exact Place.skipBlanks_append hnil hc position rest

theorem Place.skipBlanks_begins {t : Text} (h : IsBlankText blanks) (ht : Begins t)
    (position : Nat) (rest : Text) :
    Place.skipBlanks ⟨position, blanks ++ (t ++ rest)⟩ = ⟨position + blanks.length, t ++ rest⟩ := by
  obtain ⟨c, more, rfl, hc⟩ := ht
  have hall : ∀ c ∈ ['"', '[', '\x7b', 'n', 't', 'f'], Place.isJsonBlank c = false := by
    simp [Place.isJsonBlank]
  exact Place.skipBlanks_append h (hall c hc) position (more ++ rest)

end Places

def lineBreak (level : Nat) : Text := '\n' :: List.replicate (2 * level) ' '

theorem isBlankText_lineBreak (level : Nat) : IsBlankText (lineBreak level) := by
  refine List.forall_mem_cons.mpr ⟨rfl, fun c hc => ?_⟩
  rw [List.eq_of_mem_replicate hc]
  rfl

/-! ## Steps of the readers -/

section Readers

variable {depth fuel position n : Nat} {p last : Place} {v : Value} {closing gap w rest : Text}

theorem readItems_last (hclosing : IsBlankText closing)
    (hv : readValue depth fuel p = .ok (v, ⟨n, closing ++ ']' :: rest⟩)) :
    readItems depth (fuel + 1) p = .ok ([v], ⟨n + closing.length + 1, rest⟩) := by
  rw [readItems, hv]
  simp only [bind, Except.bind, Place.skipBlanks_append hclosing (c := ']') rfl]
  rfl

theorem readItems_more {items : List Value} (hgap : IsBlankText gap) (hw : Begins w)
    (hv : readValue depth fuel p = .ok (v, ⟨n, ',' :: (gap ++ (w ++ rest))⟩))
    (hitems : readItems depth fuel ⟨n + 1 + gap.length, w ++ rest⟩ = .ok (items, last)) :
    readItems depth (fuel + 1) p = .ok (v :: items, last) := by
  rw [readItems, hv]
  simp only [bind, Except.bind, Place.skipBlanks_cons (c := ',') rfl, Place.drop, List.drop_one,
    List.tail_cons, Place.skipBlanks_begins hgap hw, hitems]
  rfl

def keyText (alphabet : Alphabet) (name : Text) : Text := writeString alphabet name ++ [':', ' ']

/-- An entry is read up to the end of its value. -/
theorem readEntries_key {alphabet : Alphabet} {name : Text} (hw : Begins w)
    (hv : readValue depth fuel ⟨position + (keyText alphabet name).length, w ++ rest⟩ = .ok (v, p)) :
    readEntries depth (fuel + 1) ⟨position, keyText alphabet name ++ (w ++ rest)⟩ =
      match p.skipBlanks.rest with
      | '\x7d' :: _ => .ok ([(.text name, v)], p.skipBlanks.drop 1)
      | ',' :: _ => do
          let (entries, last) ← readEntries depth fuel (p.skipBlanks.drop 1).skipBlanks
          return ((.text name, v) :: entries, last)
      | _ => p.skipBlanks.fail .expectingComma := by
  have hbegun : keyText alphabet name ++ (w ++ rest) =
      '"' :: (name.flatMap (writeChar alphabet) ++ '"' :: ':' :: ([' '] ++ (w ++ rest))) := by
    simp [keyText, writeString]
  have hlength : (keyText alphabet name).length = (name.flatMap (writeChar alphabet)).length + 4 := by
    simp [keyText, writeString]
  have hstring : readStringFrom position (position + 1) _ = _ :=
    readStringFrom_written alphabet name (':' :: ([' '] ++ (w ++ rest)))
  have hcolon : ∀ m, Place.skipBlanks ⟨m, ':' :: ([' '] ++ (w ++ rest))⟩ =
      ⟨m, ':' :: ([' '] ++ (w ++ rest))⟩ := fun m => Place.skipBlanks_cons rfl m _
  have hgap : ∀ m, Place.skipBlanks ⟨m, [' '] ++ (w ++ rest)⟩ = ⟨m + 1, w ++ rest⟩ :=
    fun m => Place.skipBlanks_begins (List.forall_mem_singleton.mpr rfl) hw m rest
  have hplace : position + 1 + (name.flatMap (writeChar alphabet)).length + 1 + 1 + 1 =
      position + ((name.flatMap (writeChar alphabet)).length + 4) := by omega
  rw [hlength] at hv
  rw [hbegun, readEntries]
  simp only [bind, Except.bind, hstring, hcolon, Place.drop, List.drop_one, List.tail_cons, hgap,
    hplace, hv]
  rfl

theorem readEntries_last {alphabet : Alphabet} {name : Text} (hclosing : IsBlankText closing)
    (hw : Begins w)
    (hv : readValue depth fuel ⟨position + (keyText alphabet name).length,
      w ++ (closing ++ '\x7d' :: rest)⟩ = .ok (v, ⟨n, closing ++ '\x7d' :: rest⟩)) :
    readEntries depth (fuel + 1)
        ⟨position, keyText alphabet name ++ (w ++ (closing ++ '\x7d' :: rest))⟩ =
      .ok ([(.text name, v)], ⟨n + closing.length + 1, rest⟩) := by
  rw [readEntries_key hw hv, Place.skipBlanks_append hclosing rfl]
  rfl

theorem readEntries_more {alphabet : Alphabet} {name next : Text} {entries : List (Value × Value)}
    (hgap : IsBlankText gap) (hw : Begins w)
    (hv : readValue depth fuel ⟨position + (keyText alphabet name).length,
        w ++ (',' :: (gap ++ (keyText alphabet next ++ rest)))⟩ =
      .ok (v, ⟨n, ',' :: (gap ++ (keyText alphabet next ++ rest))⟩))
    (hentries : readEntries depth fuel ⟨n + 1 + gap.length, keyText alphabet next ++ rest⟩ =
      .ok (entries, last)) :
    readEntries depth (fuel + 1)
        ⟨position, keyText alphabet name ++ (w ++ (',' :: (gap ++ (keyText alphabet next ++ rest))))⟩ =
      .ok ((.text name, v) :: entries, last) := by
  have hnext : Begins (keyText alphabet next) := ⟨'"', _, rfl, by decide⟩
  rw [readEntries_key hw hv, Place.skipBlanks_cons rfl]
  simp only [bind, Except.bind, Place.drop, List.drop_one, List.tail_cons,
    Place.skipBlanks_begins hgap hnext, hentries]
  rfl

theorem readValue_list {items : List Value} (hdepth : depth < deepest) (hgap : IsBlankText gap)
    (hw : Begins w)
    (hitems : readItems (depth + 1) fuel ⟨position + 1 + gap.length, w ++ rest⟩ = .ok (items, last)) :
    readValue depth (fuel + 1) ⟨position, '[' :: (gap ++ (w ++ rest))⟩ = .ok (.list items, last) := by
  have hinside : Place.skipBlanks ⟨position + 1, gap ++ (w ++ rest)⟩ = _ :=
    Place.skipBlanks_begins hgap hw _ rest
  have hopen : ((w ++ rest).head? == some ']') = false := by
    obtain ⟨c, more, rfl, hc⟩ := hw
    revert c
    simp
  rw [readValue]
  simp only [Place.drop, List.drop_one, List.tail_cons, hinside, if_neg (Nat.not_le.mpr hdepth),
    hopen, hitems]
  rfl

theorem readValue_dict {entries : List (Value × Value)} (hdepth : depth < deepest)
    (hgap : IsBlankText gap) (hw : Begins w)
    (hentries : readEntries (depth + 1) fuel ⟨position + 1 + gap.length, w ++ rest⟩ =
      .ok (entries, last)) :
    readValue depth (fuel + 1) ⟨position, '\x7b' :: (gap ++ (w ++ rest))⟩ =
      .ok (Value.dictOf entries, last) := by
  have hinside : Place.skipBlanks ⟨position + 1, gap ++ (w ++ rest)⟩ = _ :=
    Place.skipBlanks_begins hgap hw _ rest
  have hopen : ((w ++ rest).head? == some '\x7d') = false := by
    obtain ⟨c, more, rfl, hc⟩ := hw
    revert c
    simp
  rw [readValue]
  simp only [Place.drop, List.drop_one, List.tail_cons, hinside, if_neg (Nat.not_le.mpr hdepth),
    hopen, hentries]
  rfl

end Readers

/-! ## Written values -/

theorem ofText_append (t u : Text) :
    Emission.ofText t ++ Emission.ofText u = Emission.ofText (t ++ u) :=
  Emission.append_of_done rfl _

structure Written (alphabet : Alphabet) (level levels : Nat) (v : Value) (t : Text) : Prop where
  emitted : emit alphabet level v = .ofText t
  begins : Begins t
  unbroken : '\r' ∉ t
  taken : ∀ depth fuel, depth + levels ≤ deepest → t.length ≤ fuel →
    Takes (readValue depth fuel) t v

structure ItemsWritten (alphabet : Alphabet) (level levels : Nat) (items : List Value) (more : Text) :
    Prop where
  emitted : emitItems alphabet level items = .ofText more
  unbroken : '\r' ∉ more
  taken : ∀ {v : Value} {t closing : Text}, Written alphabet level levels v t → IsBlankText closing →
    ∀ depth fuel, depth + levels ≤ deepest → t.length + more.length < fuel →
      Takes (readItems depth fuel) (t ++ (more ++ (closing ++ [']']))) (v :: items)

structure EntriesWritten (alphabet : Alphabet) (level levels : Nat) (entries : List (Text × Value))
    (more : Text) : Prop where
  emitted : emitEntries alphabet level (named entries) = .ofText more
  unbroken : '\r' ∉ more
  taken : ∀ {v : Value} {t closing : Text}, Written alphabet level levels v t → IsBlankText closing →
    ∀ name depth fuel, depth + levels ≤ deepest → t.length + more.length < fuel →
      Takes (readEntries depth fuel) (keyText alphabet name ++ (t ++ (more ++ (closing ++ ['\x7d']))))
          ((.text name, v) :: named entries)

section Parts

variable {alphabet : Alphabet} {level levels : Nat} {v : Value} {t more : Text}

theorem Written.length_pos (h : Written alphabet level levels v t) : 0 < t.length := by
  obtain ⟨c, rest, rfl, -⟩ := h.begins
  exact Nat.succ_pos _

theorem return_notMem_lineBreak (level : Nat) : '\r' ∉ lineBreak level := by
  intro h
  rcases List.mem_cons.mp h with h | h
  · cases h
  · exact absurd (List.eq_of_mem_replicate h) (by decide)

theorem return_notMem_keyText (alphabet : Alphabet) (name : Text) : '\r' ∉ keyText alphabet name := by
  intro h
  rcases List.mem_append.mp h with h | h
  · exact absurd (writeString_not_control alphabet name '\r' h) (by decide)
  · exact absurd h (by decide)

theorem itemsWritten_nil : ItemsWritten alphabet level levels [] [] where
  emitted := rfl
  unbroken := List.not_mem_nil
  taken := by
    intro v t closing hv hclosing depth fuel hdepth hfuel position rest
    obtain ⟨fuel, rfl⟩ := Nat.exists_eq_succ_of_ne_zero (Nat.ne_zero_of_lt hfuel)
    have hvalue := hv.taken depth fuel hdepth (Nat.le_of_lt_succ hfuel) position (closing ++ ']' :: rest)
    simp only [List.append_assoc, List.nil_append, List.cons_append]
    rw [readItems_last hclosing hvalue]
    simp [Nat.add_assoc]

theorem itemsWritten_cons {items : List Value} (hv : Written alphabet level levels v t)
    (h : ItemsWritten alphabet level levels items more) :
    ItemsWritten alphabet level levels (v :: items) (',' :: (lineBreak level ++ (t ++ more))) where
  emitted := by
    rw [emitItems, hv.emitted, h.emitted]
    simp only [newLine, ofText_append, List.append_assoc]
    rfl
  unbroken := by
    simp [return_notMem_lineBreak, hv.unbroken, h.unbroken]
  taken := by
    intro u w closing hu hclosing depth fuel hdepth hfuel position rest
    obtain ⟨fuel, rfl⟩ := Nat.exists_eq_succ_of_ne_zero (Nat.ne_zero_of_lt hfuel)
    simp only [List.length_cons, List.length_append] at hfuel
    -- The item after the comma becomes the first one of the rest, with one unit of fuel less.
    have hpos := hu.length_pos
    have hfirst := hu.taken depth fuel hdepth (by omega) position
      (',' :: (lineBreak level ++ (t ++ (more ++ (closing ++ ']' :: rest)))))
    have hothers := h.taken hv hclosing depth fuel hdepth (by omega)
      (position + w.length + 1 + (lineBreak level).length) rest
    simp only [List.append_assoc, List.nil_append, List.cons_append] at hothers ⊢
    rw [readItems_more (isBlankText_lineBreak level) hv.begins hfirst hothers]
    simp
    omega

theorem entriesWritten_nil : EntriesWritten alphabet level levels [] [] where
  emitted := rfl
  unbroken := List.not_mem_nil
  taken := by
    intro v t closing hv hclosing name depth fuel hdepth hfuel position rest
    obtain ⟨fuel, rfl⟩ := Nat.exists_eq_succ_of_ne_zero (Nat.ne_zero_of_lt hfuel)
    have hvalue := hv.taken depth fuel hdepth (Nat.le_of_lt_succ hfuel)
      (position + (keyText alphabet name).length) (closing ++ '\x7d' :: rest)
    simp only [List.append_assoc, List.nil_append, List.cons_append]
    rw [readEntries_last hclosing hv.begins hvalue]
    simp [named, Nat.add_assoc]

theorem entriesWritten_cons {name : Text} {entries : List (Text × Value)}
    (hv : Written alphabet level levels v t) (h : EntriesWritten alphabet level levels entries more) :
    EntriesWritten alphabet level levels ((name, v) :: entries)
      (',' :: (lineBreak level ++ (keyText alphabet name ++ (t ++ more)))) where
  emitted := by
    rw [named_cons, emitEntries, hv.emitted, h.emitted]
    simp only [emitKey, keyText?, newLine, Option.isSome_some, if_true, ofText_append,
      List.append_assoc]
    simp [keyText, lineBreak]
  unbroken := by
    simp [return_notMem_lineBreak, return_notMem_keyText, hv.unbroken, h.unbroken]
  taken := by
    intro u w closing hu hclosing first depth fuel hdepth hfuel position rest
    obtain ⟨fuel, rfl⟩ := Nat.exists_eq_succ_of_ne_zero (Nat.ne_zero_of_lt hfuel)
    simp only [List.length_cons, List.length_append] at hfuel
    have hpos := hu.length_pos
    have hfirst := hu.taken depth fuel hdepth (by omega) (position + (keyText alphabet first).length)
      (',' :: (lineBreak level ++ (keyText alphabet name ++ (t ++ (more ++ (closing ++ '\x7d' :: rest))))))
    have hothers := h.taken hv hclosing name depth fuel hdepth (by omega)
      (position + (keyText alphabet first).length + w.length + 1 + (lineBreak level).length) rest
    simp only [List.append_assoc, List.nil_append, List.cons_append] at hothers ⊢
    rw [readEntries_more (isBlankText_lineBreak level) hu.begins hfirst hothers]
    simp [named]
    omega

theorem written_text (alphabet : Alphabet) (level levels : Nat) (t : Text) :
    Written alphabet level levels (.text t) (writeString alphabet t) where
  emitted := rfl
  begins := ⟨'"', _, rfl, by decide⟩
  unbroken := fun h => absurd (writeString_not_control alphabet t '\r' h) (by decide)
  taken := by
    intro depth fuel hdepth hfuel position rest
    obtain ⟨fuel, rfl⟩ := Nat.exists_eq_succ_of_ne_zero (Nat.ne_zero_of_lt hfuel)
    have hstring : readStringFrom position (position + 1) _ = _ :=
      readStringFrom_written alphabet t rest
    simp only [writeString, List.cons_append, List.append_assoc, List.nil_append]
    rw [readValue]
    have hplace : position + 1 + (t.flatMap (writeChar alphabet)).length + 1 =
        position + (((t.flatMap (writeChar alphabet)).length + 1) + 1) := by omega
    simp only [hstring, Except.map, List.length_cons, List.length_append, List.length_nil, hplace]

/-- A word that stands for a value by itself. -/
theorem written_word {word : Text} (hemit : emit alphabet level v = .ofText word)
    (hbegins : ∃ c rest, word = c :: rest ∧ c ∈ ['n', 't', 'f']) (hunbroken : '\r' ∉ word)
    (hread : ∀ position rest,
      readWord? ⟨position, word ++ rest⟩ = some (v, ⟨position + word.length, rest⟩)) :
    Written alphabet level levels v word where
  emitted := hemit
  begins := by
    obtain ⟨c, rest, rfl, hc⟩ := hbegins
    exact ⟨c, rest, rfl, List.mem_cons_of_mem _ (List.mem_cons_of_mem _ (List.mem_cons_of_mem _ hc))⟩
  unbroken := hunbroken
  taken := by
    intro depth fuel hdepth hfuel position rest
    obtain ⟨c, tail, rfl, hc⟩ := hbegins
    obtain ⟨fuel, rfl⟩ := Nat.exists_eq_succ_of_ne_zero (Nat.ne_zero_of_lt hfuel)
    have hword := hread position rest
    rw [List.cons_append] at hword ⊢
    revert hword
    simp only [List.mem_cons, List.not_mem_nil, or_false] at hc
    rcases hc with rfl | rfl | rfl <;>
      · intro hword
        rw [readValue]
        simp only [hword]
        rfl

theorem written_null : Written alphabet level levels .null "null" :=
  written_word rfl ⟨'n', _, rfl, by decide⟩ (by decide) fun _ _ => rfl

theorem written_bool (b : Bool) : Written alphabet level levels (.bool b) (boolText b) := by
  cases b
  · exact written_word rfl ⟨'f', _, rfl, by decide⟩ (by decide) fun _ _ => rfl
  · exact written_word rfl ⟨'t', _, rfl, by decide⟩ (by decide) fun _ _ => rfl

theorem exists_itemsWritten {items : List Value}
    (h : ∀ v ∈ items, ∃ t, Written alphabet level levels v t) :
    ∃ more, ItemsWritten alphabet level levels items more := by
  induction items with
  | nil => exact ⟨[], itemsWritten_nil⟩
  | cons v items ih =>
      obtain ⟨t, hv⟩ := h v List.mem_cons_self
      obtain ⟨more, hmore⟩ := ih fun u hu => h u (List.mem_cons_of_mem v hu)
      exact ⟨_, itemsWritten_cons hv hmore⟩

theorem exists_entriesWritten {entries : List (Text × Value)}
    (h : ∀ entry ∈ entries, ∃ t, Written alphabet level levels entry.2 t) :
    ∃ more, EntriesWritten alphabet level levels entries more := by
  induction entries with
  | nil => exact ⟨[], entriesWritten_nil⟩
  | cons entry entries ih =>
      obtain ⟨t, hv⟩ := h entry List.mem_cons_self
      obtain ⟨more, hmore⟩ := ih fun u hu => h u (List.mem_cons_of_mem entry hu)
      exact ⟨_, entriesWritten_cons hv hmore⟩

theorem written_list_nil : Written alphabet level (levels + 1) (.list []) "[]" where
  emitted := rfl
  begins := ⟨'[', _, rfl, by decide⟩
  unbroken := by decide
  taken := by
    intro depth fuel hdepth hfuel position rest
    obtain ⟨fuel, rfl⟩ := Nat.exists_eq_succ_of_ne_zero (Nat.ne_zero_of_lt hfuel)
    have hroom : ¬ deepest ≤ depth := by omega
    have hinside : Place.skipBlanks ⟨position + 1, ']' :: rest⟩ = _ := Place.skipBlanks_cons rfl _ rest
    rw [readValue]
    show (if deepest ≤ depth then _ else
      if (Place.skipBlanks ⟨position + 1, ']' :: rest⟩).rest.head? == some ']' then _ else _) = _
    rw [if_neg hroom, hinside]
    rfl

theorem written_list {items : List Value} (hv : Written alphabet (level + 1) levels v t)
    (h : ItemsWritten alphabet (level + 1) levels items more) :
    Written alphabet level (levels + 1) (.list (v :: items))
      ('[' :: (lineBreak (level + 1) ++ (t ++ (more ++ (lineBreak level ++ [']']))))) where
  emitted := by
    rw [emit, hv.emitted, h.emitted]
    simp only [newLine, ofText_append, List.append_assoc]
    rfl
  begins := ⟨'[', _, rfl, by decide⟩
  unbroken := by
    simp [return_notMem_lineBreak, hv.unbroken, h.unbroken]
  taken := by
    intro depth fuel hdepth hfuel position rest
    obtain ⟨fuel, rfl⟩ := Nat.exists_eq_succ_of_ne_zero (Nat.ne_zero_of_lt hfuel)
    simp only [List.length_cons, List.length_append] at hfuel
    have hitems := h.taken hv (isBlankText_lineBreak level) (depth + 1) fuel (by omega) (by omega)
      (position + 1 + (lineBreak (level + 1)).length) rest
    simp only [List.append_assoc, List.nil_append, List.cons_append] at hitems ⊢
    rw [readValue_list (by omega) (isBlankText_lineBreak (level + 1)) hv.begins hitems]
    simp
    omega

theorem written_dict {name : Text} {entries : List (Text × Value)}
    (hnames : (((name, v) :: entries).map Prod.fst).Nodup)
    (hv : Written alphabet (level + 1) levels v t)
    (h : EntriesWritten alphabet (level + 1) levels entries more) :
    Written alphabet level (levels + 1) (.dict (named ((name, v) :: entries)))
      ('\x7b' :: (lineBreak (level + 1) ++
        (keyText alphabet name ++ (t ++ (more ++ (lineBreak level ++ ['\x7d'])))))) where
  emitted := by
    rw [named_cons, emit, hv.emitted, h.emitted]
    simp only [emitKey, keyText?, newLine, ofText_append, List.append_assoc]
    simp [keyText, lineBreak]
  begins := ⟨'\x7b', _, rfl, by decide⟩
  unbroken := by
    simp [return_notMem_lineBreak, return_notMem_keyText, hv.unbroken, h.unbroken]
  taken := by
    intro depth fuel hdepth hfuel position rest
    obtain ⟨fuel, rfl⟩ := Nat.exists_eq_succ_of_ne_zero (Nat.ne_zero_of_lt hfuel)
    simp only [List.length_cons, List.length_append] at hfuel
    have hentries := h.taken hv (isBlankText_lineBreak level) name (depth + 1) fuel (by omega)
      (by omega) (position + 1 + (lineBreak (level + 1)).length) rest
    have hkey : Begins (keyText alphabet name) := ⟨'"', _, rfl, by decide⟩
    simp only [List.append_assoc, List.nil_append, List.cons_append] at hentries ⊢
    rw [readValue_dict (by omega) (isBlankText_lineBreak (level + 1)) hkey hentries, ← named_cons,
      dictOf_named hnames]
    simp
    omega

theorem written_dict_nil : Written alphabet level (levels + 1) (.dict []) "\x7b\x7d" where
  emitted := rfl
  begins := ⟨'\x7b', _, rfl, by decide⟩
  unbroken := by decide
  taken := by
    intro depth fuel hdepth hfuel position rest
    obtain ⟨fuel, rfl⟩ := Nat.exists_eq_succ_of_ne_zero (Nat.ne_zero_of_lt hfuel)
    have hroom : ¬ deepest ≤ depth := by omega
    have hinside : Place.skipBlanks ⟨position + 1, '\x7d' :: rest⟩ = _ :=
      Place.skipBlanks_cons rfl _ rest
    rw [readValue]
    show (if deepest ≤ depth then _ else
      if (Place.skipBlanks ⟨position + 1, '\x7d' :: rest⟩).rest.head? == some '\x7d' then _ else _) = _
    rw [if_neg hroom, hinside]
    rfl

end Parts

/-- What a document keeps has a writing that is read back. -/
theorem exists_written {levels : Nat} {v : Value} (h : IsDocument levels v) (alphabet : Alphabet)
    (level : Nat) : ∃ t, Written alphabet level levels v t := by
  induction h generalizing level with
  | null => exact ⟨_, written_null⟩
  | bool b => exact ⟨_, written_bool b⟩
  | text t => exact ⟨_, written_text alphabet level _ t⟩
  | @list levels items _ ih =>
      cases items with
      | nil => exact ⟨_, written_list_nil⟩
      | cons v items =>
          obtain ⟨t, hv⟩ := ih v List.mem_cons_self (level + 1)
          obtain ⟨more, hmore⟩ := exists_itemsWritten fun u hu =>
            ih u (List.mem_cons_of_mem v hu) (level + 1)
          exact ⟨_, written_list hv hmore⟩
  | @dict levels entries hnames _ ih =>
      cases entries with
      | nil => exact ⟨_, written_dict_nil⟩
      | cons entry entries =>
          obtain ⟨t, hv⟩ := ih entry List.mem_cons_self (level + 1)
          obtain ⟨more, hmore⟩ := exists_entriesWritten fun u hu =>
            ih u (List.mem_cons_of_mem entry hu) (level + 1)
          exact ⟨_, written_dict hnames hv hmore⟩

/-- A document is read to its end, with blanks after it or not. -/
theorem readDocument_written {alphabet : Alphabet} {levels : Nat} {v : Value} {t closing : Text}
    (h : Written alphabet 0 levels v t) (hlevels : levels ≤ deepest) (hclosing : IsBlankText closing) :
    readDocument (t ++ closing) = .ok v := by
  have hstart : Place.skipBlanks ⟨0, t ++ closing⟩ = ⟨0, t ++ closing⟩ := by
    have hnil : IsBlankText [] := fun _ hc => absurd hc List.not_mem_nil
    exact Place.skipBlanks_begins hnil h.begins 0 closing
  have hmark : ((t ++ closing).head? == some '\ufeff') = false := by
    obtain ⟨c, rest, rfl, hc⟩ := h.begins
    revert c
    simp
  have hroom : t.length ≤ (t ++ closing).length := by
    rw [List.length_append]
    exact Nat.le_add_right _ _
  have hvalue := h.taken 0 (2 * (t ++ closing).length + 2) (by omega) (by omega) 0 closing
  simp only [readDocument, hmark, hstart, hvalue, bind, Except.bind,
    Place.skipBlanks_closing hclosing]
  rfl

/-- Writing never fails on what a document keeps, breaks its lines with line feeds alone, and loses
nothing, with blanks after it or not. -/
theorem exists_read_write_closing {levels : Nat} {v : Value} (h : IsDocument levels v)
    (hlevels : levels ≤ deepest) (alphabet : Alphabet) :
    ∃ t, write alphabet v = .ofText t ∧ '\r' ∉ t ∧
      ∀ closing, IsBlankText closing → read (t ++ closing) = .ok v := by
  obtain ⟨t, ht⟩ := exists_written h alphabet 0
  refine ⟨t, ht.emitted, ht.unbroken, fun closing hclosing => ?_⟩
  rw [read, readDocument_written ht hlevels hclosing]
  rfl

theorem exists_read_write {levels : Nat} {v : Value} (h : IsDocument levels v)
    (hlevels : levels ≤ deepest) (alphabet : Alphabet) :
    ∃ t, write alphabet v = .ofText t ∧ '\r' ∉ t ∧ read t = .ok v := by
  obtain ⟨t, hwrite, hline, hread⟩ := exists_read_write_closing h hlevels alphabet
  have halone := hread [] fun _ hc => absurd hc List.not_mem_nil
  rw [List.append_nil] at halone
  exact ⟨t, hwrite, hline, halone⟩

end Hypertag.Json
