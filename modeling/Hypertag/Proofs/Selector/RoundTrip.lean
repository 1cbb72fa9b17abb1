import Hypertag.Proofs.Selector.Shape

/-!
# Reading printed queries

A printed selector is a `>` where it applies to children, and then the text of its compound. A
member without any part prints no text, so a list that has one is read back as another query, or
refused. All other queries that were read are read back.
-/

namespace Hypertag

namespace Chain

theorem tokens_join (parts : List Text) :
    tokens (Text.join [' '] parts) = parts.flatMap tokens := by
  induction parts with
  | nil => rfl
  | cons part rest ih =>
      cases rest with
      | nil => simp
      | cons next rest =>
          rw [Text.join_cons_cons, List.append_assoc, List.singleton_append,
            tokens_append_blank (by decide), ih]
          rfl

end Chain

open Chain

/-! ## Words in front of which a `>` may stand -/

def Traversal.tokens : Traversal → List Token
  | .descendant => []
  | .child => [.child]

def marked (ws : List (Traversal × Text)) : List Token :=
  ws.flatMap fun (traversal, w) => traversal.tokens ++ [.compound w]

theorem marked_cons (traversal : Traversal) (w : Text) (ws : List (Traversal × Text)) :
    marked ((traversal, w) :: ws) = traversal.tokens ++ .compound w :: marked ws := by
  simp [marked]

theorem separate_marked (ws : List (Traversal × Text)) : separate (marked ws) = marked ws := by
  induction ws with
  | nil => rfl
  | cons word ws ih =>
      obtain ⟨traversal, w⟩ := word
      rw [marked_cons]
      cases traversal <;> simp [Traversal.tokens, separate, ih]

theorem members_marked (ws : List (Traversal × Text)) (before : Option Token)
    (hbefore : before ≠ some .child) :
    members before (marked ws) = ws.map fun (traversal, w) => ⟨Compound.read w, traversal⟩ := by
  induction ws generalizing before with
  | nil => rfl
  | cons word ws ih =>
      obtain ⟨traversal, w⟩ := word
      have hrest := ih (some (.compound w)) (by simp)
      rw [marked_cons]
      cases traversal with
      | descendant => simp [Traversal.tokens, members, hrest, hbefore]
      | child => simp [Traversal.tokens, members, hrest]

theorem getLast?_marked (ws : List (Traversal × Text)) : (marked ws).getLast? ≠ some .child := by
  induction ws with
  | nil => simp [marked]
  | cons word ws ih =>
      rw [marked_cons, List.getLast?_append_of_ne_nil _ (List.cons_ne_nil _ _)]
      by_cases hnil : marked ws = []
      · simp [hnil]
      · rw [List.getLast?_cons_of_ne_nil hnil]
        exact ih

/-- Text is read as the list whose members its words are, when there are several and no `>` stands
before the first. -/
theorem Query.ofText_eq_list {t : Text} {ws : List (Traversal × Text)} {l : SelectorList}
    (hsupported : ∀ token : Unsupported, token.character ∉ t) (htokens : tokens t = marked ws)
    (hl : l.members = ws.map fun (traversal, w) => ⟨Compound.read w, traversal⟩)
    (hrest : l.rest ≠ []) (hfirst : l.first.traversal = .descendant) :
    ofText t = .ok (.list l) := by
  obtain ⟨first, rest⟩ := l
  obtain ⟨next, rest, rfl⟩ := List.exists_cons_of_ne_nil hrest
  match ws, hl with
  | (traversal, v) :: (mark, w) :: ws, hl =>
      obtain ⟨rfl, -⟩ := List.cons.inj hl
      obtain rfl : traversal = .descendant := hfirst
      have hmarked : marked ((.descendant, v) :: (mark, w) :: ws) =
          .compound v :: (mark.tokens ++ .compound w :: marked ws) := by
        rw [marked_cons, marked_cons]
        rfl
      have hlast := getLast?_marked ((.descendant, v) :: (mark, w) :: ws)
      have hmembers := hl.trans (members_marked _ none (by simp)).symm
      rw [← separate_marked] at hmembers
      rw [ofText_eq_ok_iff, htokens]
      refine ⟨⟨hsupported, ?_, ?_⟩, meaning?_of_members ?_ ?_ hmembers⟩
      · rw [htokens, hmarked]
        simp
      · rw [htokens]
        exact hlast
      · rw [hmarked]
        simp
      · intro u hu
        rw [hmarked] at hu
        simp at hu
  | [], hl => cases hl
  | [_], hl => cases hl

/-! ## Tokens of printed text -/

theorem Compound.tokens_format {c : Compound} (h : c.WellFormed) (hparts : ¬ c.Blank) :
    tokens c.format = [.compound c.format] := by
  have hne : c.format ≠ [] := fun hnil => hparts ((Compound.format_eq_nil_iff h).mp hnil)
  have hword : ∀ d ∈ c.format, isCompoundChar d = true :=
    fun d hd => (Compound.isPlain_of_mem_format h hd).isCompoundChar
  have htokens := tokens_word (t := []) hne hword rfl
  rwa [List.append_nil] at htokens

theorem Selector.tokens_format (s : Selector) :
    tokens s.format = s.traversal.tokens ++ tokens s.compound.format := by
  rcases s with ⟨compound, traversal⟩
  cases traversal with
  | descendant => rfl
  | child =>
      rw [Selector.format, tokens_child, tokens_blank (by decide)]
      rfl

theorem SelectorList.tokens_format (l : SelectorList) :
    tokens l.format = l.members.flatMap fun s => tokens s.format := by
  rw [SelectorList.format, tokens_join, List.flatMap_map]

def printed (ss : List Selector) : List Token :=
  ss.flatMap fun s => s.traversal.tokens ++ [.compound s.compound.format]

theorem printed_eq_marked (ss : List Selector) :
    printed ss = marked (ss.map fun s => (s.traversal, s.compound.format)) := by
  rw [printed, marked, List.flatMap_map]

theorem SelectorList.tokens_eq_printed {l : SelectorList}
    (h : ∀ s ∈ l.members, s.compound.WellFormed ∧ ¬ s.compound.Blank) :
    tokens l.format = printed l.members := by
  rw [SelectorList.tokens_format, printed]
  refine List.flatMap_congr fun s hs => ?_
  rw [Selector.tokens_format, Compound.tokens_format (h s hs).1 (h s hs).2]

/-! ## Printed text is accepted -/

theorem Text.mem_join {c : Char} {gap : Text} {parts : List Text} (h : c ∈ Text.join gap parts) :
    c ∈ gap ∨ ∃ part ∈ parts, c ∈ part := by
  induction parts with
  | nil => cases h
  | cons part rest ih =>
      cases rest with
      | nil => exact .inr ⟨part, by simp, h⟩
      | cons next rest =>
          rw [Text.join_cons_cons, List.mem_append, List.mem_append] at h
          rcases h with (h | h) | h
          · exact .inr ⟨part, by simp, h⟩
          · exact .inl h
          · rcases ih h with h | ⟨other, hother, hc⟩
            · exact .inl h
            · exact .inr ⟨other, List.mem_cons_of_mem _ hother, hc⟩

theorem Selector.character_notMem_format {s : Selector} (h : s.compound.WellFormed)
    (token : Unsupported) : token.character ∉ s.format := by
  have hcompound : token.character ∉ s.compound.format := by
    intro hmem
    have hplain := Compound.isPlain_of_mem_format h hmem
    exact hplain.2 (by cases token <;> decide)
  rcases s with ⟨compound, traversal⟩
  cases traversal with
  | descendant => exact hcompound
  | child =>
      intro hmem
      rw [Selector.format, List.mem_cons, List.mem_cons] at hmem
      rcases hmem with hmem | hmem | hmem
      · cases token <;> exact absurd hmem (by decide)
      · cases token <;> exact absurd hmem (by decide)
      · exact hcompound hmem

theorem SelectorList.character_notMem_format {l : SelectorList}
    (h : ∀ s ∈ l.members, s.compound.WellFormed) (token : Unsupported) :
    token.character ∉ l.format := by
  intro hmem
  rcases Text.mem_join hmem with hmem | ⟨part, hpart, hmem⟩
  · cases token <;> exact absurd hmem (by decide)
  · obtain ⟨s, hs, rfl⟩ := List.mem_map.mp hpart
    exact Selector.character_notMem_format (h s hs) token hmem

namespace Query

/-! ## Reading back -/

theorem ofText_format_single {s : Selector} (h : (Query.single s).Shaped) :
    ofText s.format = .ok (.single s) := by
  obtain ⟨compound, traversal⟩ := s
  obtain ⟨hcompound, rfl⟩ : compound.WellFormed ∧ traversal = .descendant := h
  have hsupported := Selector.character_notMem_format (s := ⟨compound, .descendant⟩) hcompound
  have hread := Compound.read_format hcompound
  rw [Selector.format] at hsupported ⊢
  rw [ofText_eq_ok_iff]
  by_cases hparts : compound.Blank
  · rw [(Compound.format_eq_nil_iff hcompound).mpr hparts] at hread hsupported ⊢
    refine ⟨⟨hsupported, by simp, by simp⟩, ?_⟩
    rw [tokens_nil, meaning?, hread]
  · have htokens := Compound.tokens_format hcompound hparts
    refine ⟨⟨hsupported, by simp [htokens], by simp [htokens]⟩, ?_⟩
    rw [htokens, meaning?, hread]

theorem ofText_format_list {l : SelectorList} (h : (Query.list l).Shaped)
    (hparts : ∀ s ∈ l.members, ¬ s.compound.Blank) : ofText l.format = .ok (.list l) := by
  obtain ⟨hrest, hfirst, hcompounds⟩ := h
  have htokens : tokens l.format = printed l.members :=
    SelectorList.tokens_eq_printed fun s hs => ⟨hcompounds s hs, hparts s hs⟩
  rw [printed_eq_marked] at htokens
  refine ofText_eq_list (SelectorList.character_notMem_format hcompounds) htokens ?_ hrest hfirst
  rw [List.map_map]
  refine (List.map_id _).symm.trans (List.map_congr_left fun s hs => ?_)
  simp [Compound.read_format (hcompounds s hs)]

/-- What is read from a compound without parts is nowhere among the members of printed text. -/
theorem not_ofText_format_list {l : SelectorList} (h : (Query.list l).Shaped) {s : Selector}
    (hs : s ∈ l.members) (hparts : s.compound.Blank) : ofText l.format ≠ .ok (.list l) := by
  intro hread
  obtain ⟨-, hmeaning⟩ := (ofText_eq_ok_iff _ _).mp hread
  have hne : tokens l.format ≠ [] := by
    intro hnil
    simp [hnil, meaning?] at hmeaning
  have hmembers := members_of_meaning? hne hmeaning
  rw [Query.members] at hmembers
  rw [hmembers] at hs
  obtain ⟨w, hw, hcompound⟩ := exists_of_mem_members hs
  rw [Compound.Blank, hcompound] at hparts
  rcases mem_separate hw with hstar | hw
  · obtain rfl := Token.compound.inj hstar
    cases hparts
  · rw [SelectorList.tokens_format] at hw
    obtain ⟨m, hm, hw⟩ := List.mem_flatMap.mp hw
    have hwell := h.2.2 m hm
    have hword : .compound w ∈ tokens m.compound.format := by
      rw [Selector.tokens_format] at hw
      rcases List.mem_append.mp hw with hmark | hw
      · cases htraversal : m.traversal <;> simp [htraversal, Traversal.tokens] at hmark
      · exact hw
    by_cases hnone : m.compound.Blank
    · rw [(Compound.format_eq_nil_iff hwell).mpr hnone] at hword
      cases hword
    · rw [Compound.tokens_format hwell hnone] at hword
      obtain rfl := Token.compound.inj (List.mem_singleton.mp hword)
      rw [Compound.read_format hwell] at hparts
      exact hnone hparts

theorem reread_format_iff {t : Text} {q : Query} (h : ofText t = .ok q) :
    (∃ r, ofText q.format = .ok r ∧ r = q ∧ r.format = q.format) ↔
      ∀ l, q = .list l → ∀ s ∈ l.members, ¬ s.compound.Blank := by
  have hshaped := shaped_of_ofText h
  constructor
  · rintro ⟨r, hr, rfl, -⟩ l rfl s hs hparts
    exact not_ofText_format_list hshaped hs hparts hr
  · intro hparts
    refine ⟨q, ?_, rfl, rfl⟩
    cases q with
    | single s => exact ofText_format_single hshaped
    | list l => exact ofText_format_list hshaped (hparts l rfl)

theorem id_and_classes_reread :
    ∃ q, ofText "p.x#y > .z".toList = .ok q ∧
      ∃ r, ofText q.format = .ok r ∧ r = q ∧ r.format = q.format := by
  have hread : ofText "p.x#y > .z".toList =
      .ok (.list ⟨⟨.regular ⟨some ['p'], some ['y'], [['x']]⟩, .descendant⟩,
        [⟨.regular ⟨none, none, [['z']]⟩, .child⟩]⟩) := by
    rw [ofText_eq_ok_iff]
    refine ⟨⟨fun token => by cases token <;> decide, by decide, by decide⟩, ?_⟩
    have htokens : tokens "p.x#y > .z".toList =
        [.compound "p.x#y".toList, .child, .compound ".z".toList] := by decide
    rw [htokens]
    decide
  refine ⟨_, hread, (reread_format_iff hread).mpr ?_⟩
  intro l hl
  obtain rfl := Query.list.inj hl
  decide

/-- A member without parts is lost: its neighbour is read back as a selector by itself. -/
theorem partless_member_lost :
    ∃ q r : Query, ofText "- b".toList = .ok q ∧ ofText q.format = .ok r ∧ r ≠ q := by
  refine ⟨.list ⟨⟨.regular .none, .descendant⟩, [⟨.regular ⟨some ['b'], none, []⟩, .descendant⟩]⟩,
    .single ⟨.regular ⟨some ['b'], none, []⟩, .descendant⟩, ?_, ?_, by simp⟩
  · rw [ofText_eq_ok_iff]
    refine ⟨⟨fun token => by cases token <;> decide, by decide, by decide⟩, ?_⟩
    have htokens : tokens "- b".toList = [.compound ['-'], .compound ['b']] := by decide
    rw [htokens]
    decide
  · rw [ofText_eq_ok_iff]
    refine ⟨⟨fun token => by cases token <;> decide, by decide, by decide⟩, ?_⟩
    decide

end Query

end Hypertag
