import Hypertag.Proofs.Selector.RoundTrip

/-!
# The range of reading

Exactly the shaped queries are read from some text: a member without any part, which prints as
nothing, can be spelled `-`. Of all queries that can be built, those that printing keeps are the shaped
ones in which no member of a list is without parts.
-/

namespace Hypertag

open Chain

/-! ## Spelling -/

namespace Compound

/-- A character that belongs to no part stands for a compound that prints as nothing. -/
def spelling (c : Compound) : Text := if c.Blank then ['-'] else c.format

variable {c : Compound}

theorem read_spelling (h : c.WellFormed) : read c.spelling = c := by
  rw [spelling]
  split
  · next hblank =>
      rw [show c = .regular .none from hblank, read_eq_scan]
      decide
  · exact read_format h

theorem spelling_ne_nil (h : c.WellFormed) : c.spelling ≠ [] := by
  rw [spelling]
  split
  · simp
  · next hparts => exact fun hnil => hparts ((format_eq_nil_iff h).mp hnil)

theorem isPlain_of_mem_spelling (h : c.WellFormed) {d : Char} (hd : d ∈ c.spelling) :
    IsPlain d := by
  rw [spelling] at hd
  split at hd
  · obtain rfl := List.mem_singleton.mp hd
    exact ⟨by decide, by decide⟩
  · exact isPlain_of_mem_format h hd

theorem tokens_spelling (h : c.WellFormed) : tokens c.spelling = [.compound c.spelling] := by
  have hword : ∀ d ∈ c.spelling, isCompoundChar d = true :=
    fun d hd => (isPlain_of_mem_spelling h hd).isCompoundChar
  have htokens := tokens_word (t := []) (spelling_ne_nil h) hword rfl
  rwa [List.append_nil] at htokens

end Compound

namespace Selector

def spelling (s : Selector) : Text :=
  match s.traversal with
  | .descendant => s.compound.spelling
  | .child => '>' :: ' ' :: s.compound.spelling

variable {s : Selector}

theorem tokens_spelling (h : s.compound.WellFormed) :
    tokens s.spelling = s.traversal.tokens ++ [.compound s.compound.spelling] := by
  rcases s with ⟨compound, traversal⟩
  have hcompound := Compound.tokens_spelling h
  cases traversal with
  | descendant => exact hcompound
  | child =>
      rw [spelling, tokens_child, tokens_blank (by decide), hcompound]
      rfl

theorem mem_spelling {d : Char} (hd : d ∈ s.spelling) :
    d ∈ s.compound.spelling ∨ d ∈ ['>', ' '] := by
  rcases s with ⟨compound, traversal⟩
  cases traversal with
  | descendant => exact .inl hd
  | child =>
      rw [spelling, List.mem_cons, List.mem_cons] at hd
      rcases hd with rfl | rfl | hd
      · exact .inr (by simp)
      · exact .inr (by simp)
      · exact .inl hd

theorem character_notMem_spelling (h : s.compound.WellFormed) (token : Unsupported) :
    token.character ∉ s.spelling := by
  intro hmem
  rcases mem_spelling hmem with hmem | hmem
  · exact (Compound.isPlain_of_mem_spelling h hmem).2 (by cases token <;> decide)
  · cases token <;> exact absurd hmem (by decide)

end Selector

namespace Query

def spelling (q : Query) : Text := Text.join [' '] (q.members.map Selector.spelling)

variable {q : Query}

theorem tokens_spelling (h : ∀ s ∈ q.members, s.compound.WellFormed) :
    tokens q.spelling = marked (q.members.map fun s => (s.traversal, s.compound.spelling)) := by
  rw [spelling, tokens_join, marked, List.flatMap_map, List.flatMap_map]
  exact List.flatMap_congr fun s hs => Selector.tokens_spelling (h s hs)

theorem character_notMem_spelling (h : ∀ s ∈ q.members, s.compound.WellFormed)
    (token : Unsupported) : token.character ∉ q.spelling := by
  intro hmem
  rcases Text.mem_join hmem with hmem | ⟨part, hpart, hmem⟩
  · cases token <;> exact absurd hmem (by decide)
  · obtain ⟨s, hs, rfl⟩ := List.mem_map.mp hpart
    exact Selector.character_notMem_spelling (h s hs) token hmem

/-- A shaped query is read from its spelling. -/
theorem ofText_spelling (h : q.Shaped) : ofText q.spelling = .ok q := by
  cases q with
  | single s =>
      obtain ⟨compound, traversal⟩ := s
      obtain ⟨hcompound, rfl⟩ : compound.WellFormed ∧ traversal = .descendant := h
      have hwell : ∀ s ∈ (Query.single ⟨compound, .descendant⟩).members, s.compound.WellFormed := by
        intro s hs
        obtain rfl := List.mem_singleton.mp hs
        exact hcompound
      have htokens : tokens (Query.single ⟨compound, .descendant⟩).spelling =
          [.compound compound.spelling] := Compound.tokens_spelling hcompound
      rw [ofText_eq_ok_iff, htokens, meaning?, Compound.read_spelling hcompound]
      exact ⟨⟨character_notMem_spelling hwell, by simp [htokens], by simp [htokens]⟩, rfl⟩
  | list l =>
      obtain ⟨hrest, hfirst, hcompounds⟩ := h
      refine ofText_eq_list (character_notMem_spelling hcompounds) (tokens_spelling hcompounds) ?_
        hrest hfirst
      rw [List.map_map]
      refine (List.map_id _).symm.trans (List.map_congr_left fun s hs => ?_)
      simp [Compound.read_spelling (hcompounds s hs)]

/-- The shaped queries are all that is ever read from text, and each of them is read from some. -/
theorem exists_ofText_iff_shaped (q : Query) : (∃ t, ofValue (.text t) = .ok q) ↔ q.Shaped := by
  constructor
  · intro hread
    obtain ⟨t, ht⟩ := hread
    exact shaped_of_ofText ht
  · exact fun h => ⟨q.spelling, ofText_spelling h⟩

/-! ## What printing keeps -/

/-- One well-formed selector, or a list of several with a part in each member; none that begins it
waits for a selector before it. -/
def Durable : Query → Prop
  | .single s => s.compound.WellFormed ∧ s.traversal = .descendant
  | .list l => 2 ≤ l.length ∧ l.first.traversal = .descendant ∧
      ∀ s ∈ l.members, s.compound.WellFormed ∧ ¬ s.compound.Blank

theorem durable_iff_shaped (q : Query) :
    q.Durable ↔ q.Shaped ∧ ∀ l, q = .list l → ∀ s ∈ l.members, ¬ s.compound.Blank := by
  cases q with
  | single s => simp [Durable, Shaped]
  | list l =>
      have hlength : 2 ≤ l.length ↔ l.rest ≠ [] := by
        rw [SelectorList.length, SelectorList.members, List.length_cons, ← List.length_pos_iff]
        omega
      simp only [Durable, Shaped, hlength, list.injEq, forall_eq']
      constructor
      · intro h
        obtain ⟨hrest, hfirst, hmembers⟩ := h
        exact ⟨⟨hrest, hfirst, fun s hs => (hmembers s hs).1⟩, fun s hs => (hmembers s hs).2⟩
      · intro h
        obtain ⟨⟨hrest, hfirst, hwell⟩, hparts⟩ := h
        exact ⟨hrest, hfirst, fun s hs => ⟨hwell s hs, hparts s hs⟩⟩

/-- Whatever query was built, reading what it prints as gives it back exactly when it is durable. -/
theorem printed_query_survives_iff (q : Query) :
    (formatValue (.query q) >>= fun t => ofValue (.text t)) = .ok q ↔ q.Durable := by
  have hprint : (formatValue (.query q) >>= fun t => ofValue (.text t)) = ofText q.format := rfl
  rw [hprint, durable_iff_shaped]
  constructor
  · intro hread
    have hshaped := shaped_of_ofText hread
    refine ⟨hshaped, ?_⟩
    rintro l rfl s hs hparts
    exact not_ofText_format_list hshaped hs hparts hread
  · intro h
    obtain ⟨hshaped, hparts⟩ := h
    cases q with
    | single s => exact ofText_format_single hshaped
    | list l => exact ofText_format_list hshaped (hparts l rfl)

end Query

end Hypertag
