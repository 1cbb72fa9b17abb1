import Hypertag.Proofs.Results
import Hypertag.Selector.Reading

/-!
# Lists made of lists

The items of a list may be lists in turn, to any depth. The members are the selectors in their order
and the canonical text is that of the items one space apart, however the selectors are grouped.
-/

namespace Hypertag

namespace Text

variable {gap : Text}

theorem join_append {parts more : List Text} (hparts : parts ≠ []) (hmore : more ≠ []) :
    join gap (parts ++ more) = join gap parts ++ gap ++ join gap more := by
  induction parts with
  | nil => exact absurd rfl hparts
  | cons part rest ih =>
      cases rest with
      | nil =>
          obtain ⟨next, more, rfl⟩ := List.exists_cons_of_ne_nil hmore
          rfl
      | cons next rest =>
          have hrest := ih (List.cons_ne_nil _ _)
          rw [List.cons_append] at hrest
          rw [List.cons_append, List.cons_append, join_cons_cons, hrest, join_cons_cons]
          simp only [List.append_assoc]

/-- Texts that were joined in groups are joined as if there were no groups, if none is empty. -/
theorem join_map_join {groups : List (List Text)} (h : ∀ g ∈ groups, g ≠ []) :
    join gap (groups.map (join gap)) = join gap groups.flatten := by
  induction groups with
  | nil => rfl
  | cons group rest ih =>
      have hrest := ih fun g hg => h g (List.mem_cons_of_mem _ hg)
      cases rest with
      | nil => simp
      | cons next rest =>
          have hnext : (next :: rest).flatten ≠ [] := by
            simp [h next (by simp)]
          rw [List.flatten_cons, join_append (h group (by simp)) hnext, ← hrest]
          rfl

end Text

/-! ## Items and members -/

theorem Query.members_nonempty (q : Query) : q.members ≠ [] := by
  cases q <;> exact List.cons_ne_nil _ _

theorem Query.format_eq_join (q : Query) :
    q.format = Text.join [' '] (q.members.map Selector.format) := by
  cases q <;> rfl

namespace SelectorList

variable {items : List Value} {l : SelectorList}

theorem flatten_map_query (qs : List Query) :
    flatten (qs.map .query) = .ok (qs.flatMap Query.members) := by
  induction qs with
  | nil => rfl
  | cons q qs ih =>
      rw [List.map_cons, flatten, ih]
      rfl

/-- Only queries have members. -/
theorem exists_queries_of_flatten {ss : List Selector} (h : flatten items = .ok ss) :
    ∃ qs : List Query, items = qs.map .query ∧ ss = qs.flatMap Query.members := by
  induction items generalizing ss with
  | nil =>
      obtain rfl := Except.ok.inj h
      exact ⟨[], rfl, rfl⟩
  | cons item rest ih =>
      cases item with
      | query q =>
          obtain ⟨more, hmore, rfl⟩ := exists_of_map_ok h
          obtain ⟨qs, rfl, rfl⟩ := ih hmore
          exact ⟨q :: qs, rfl, rfl⟩
      | _ => cases h

theorem ofMembers?_eq_some_iff (ss : List Selector) (l : SelectorList) :
    ofMembers? ss = some l ↔ l.members = ss := by
  constructor
  · intro h
    cases ss with
    | nil => cases h
    | cons s rest =>
        obtain rfl := Option.some.inj h
        rfl
  · rintro rfl
    exact ofMembers?_members l

/-- A list of queries has their members one after the other. -/
theorem ofValues_map_query_iff (qs : List Query) (l : SelectorList) :
    ofValues (qs.map .query) = .ok l ↔ l.members = qs.flatMap Query.members := by
  rw [← ofMembers?_eq_some_iff, ofValues, flatten_map_query]
  simp only [bind, Except.bind]
  cases ofMembers? (qs.flatMap Query.members) with
  | none => simp
  | some l' => simp [pure, Except.pure]

/-- A list is made of queries only. -/
theorem exists_queries_of_ofValues (h : ofValues items = .ok l) :
    ∃ qs : List Query, items = qs.map .query ∧ l.members = qs.flatMap Query.members := by
  obtain ⟨ss, hss, -⟩ := exists_of_bind_ok h
  obtain ⟨qs, rfl, -⟩ := exists_queries_of_flatten hss
  exact ⟨qs, rfl, (ofValues_map_query_iff qs l).mp h⟩

theorem exists_queries (h : ∀ v ∈ items, ∃ q, v = .query q) :
    ∃ qs : List Query, items = qs.map .query := by
  induction items with
  | nil => exact ⟨[], rfl⟩
  | cons item rest ih =>
      obtain ⟨q, rfl⟩ := h item (by simp)
      obtain ⟨qs, rfl⟩ := ih fun v hv => h v (List.mem_cons_of_mem _ hv)
      exact ⟨q :: qs, rfl⟩

theorem exists_ofValues_map_query {qs : List Query} (h : qs ≠ []) :
    ∃ l, ofValues (qs.map .query) = .ok l := by
  obtain ⟨q, qs, rfl⟩ := List.exists_cons_of_ne_nil h
  obtain ⟨s, rest, hs⟩ := List.exists_cons_of_ne_nil q.members_nonempty
  refine ⟨⟨s, rest ++ qs.flatMap Query.members⟩, (ofValues_map_query_iff _ _).mpr ?_⟩
  rw [List.flatMap_cons, hs]
  rfl

/-- Nothing but an empty sequence and items of another kind are refused. -/
theorem exists_ofValues_iff (items : List Value) :
    (∃ l, ofValues items = .ok l) ↔ items ≠ [] ∧ ∀ v ∈ items, ∃ q, v = .query q := by
  constructor
  · rintro ⟨l, hl⟩
    obtain ⟨qs, rfl, hmembers⟩ := exists_queries_of_ofValues hl
    refine ⟨?_, fun v hv => ?_⟩
    · intro hnil
      rw [List.map_eq_nil_iff.mp hnil] at hmembers
      exact l.members_ne_nil hmembers
    · obtain ⟨q, -, rfl⟩ := List.mem_map.mp hv
      exact ⟨q, rfl⟩
  · rintro ⟨hne, hqueries⟩
    obtain ⟨qs, rfl⟩ := exists_queries hqueries
    have hqs : qs ≠ [] := by
      rintro rfl
      exact hne rfl
    exact exists_ofValues_map_query hqs

theorem format_of_queries {qs : List Query} (h : l.members = qs.flatMap Query.members) :
    l.format = Text.join [' '] (qs.map Query.format) := by
  have hgroups : ∀ g ∈ qs.map fun q => q.members.map Selector.format, g ≠ [] := by
    intro g hg
    obtain ⟨q, -, rfl⟩ := List.mem_map.mp hg
    simp [q.members_nonempty]
  have hformat : qs.map Query.format =
      (qs.map fun q => q.members.map Selector.format).map (Text.join [' ']) := by
    rw [List.map_map]
    exact List.map_congr_left fun q _ => q.format_eq_join
  rw [format, h, hformat, Text.join_map_join hgroups, List.map_flatMap, List.flatMap_def]

end SelectorList

/-! ## Groupings -/

/-- Selectors as they are put together: one by itself, or a list of items put together in turn. -/
inductive Grouping where
  | one (s : Selector)
  | list (items : List Grouping)

namespace Grouping

mutual

def value : Grouping → Except SelectorError Query
  | .one s => .ok (.single s)
  | .list items => do
      let l ← SelectorList.ofValues (← values items)
      return .list l

def values : List Grouping → Except SelectorError (List Value)
  | [] => .ok []
  | g :: rest => do
      let q ← g.value
      let more ← values rest
      return .query q :: more

end

mutual

def selectors : Grouping → List Selector
  | .one s => [s]
  | .list items => allSelectors items

def allSelectors : List Grouping → List Selector
  | [] => []
  | g :: rest => g.selectors ++ allSelectors rest

end

mutual

def Full : Grouping → Prop
  | .one _ => True
  | .list items => items ≠ [] ∧ AllFull items

def AllFull : List Grouping → Prop
  | [] => True
  | g :: rest => g.Full ∧ AllFull rest

end

mutual

theorem exists_value {g : Grouping} (h : g.Full) :
    ∃ q, g.value = .ok q ∧ q.members = g.selectors := by
  cases g with
  | one s => exact ⟨.single s, rfl, rfl⟩
  | list items =>
      obtain ⟨l, hl, hmembers⟩ := exists_list h
      exact ⟨.list l, hl, hmembers⟩

/-- What is put together has the selectors for members. -/
theorem exists_list {items : List Grouping} (h : (Grouping.list items).Full) :
    ∃ l, (Grouping.list items).value = .ok (.list l) ∧ l.members = allSelectors items := by
  obtain ⟨hne, hall⟩ := h
  obtain ⟨qs, hvalues, hlength, hmembers⟩ := exists_values hall
  have hqs : qs ≠ [] := by
    rintro rfl
    exact hne (List.length_eq_zero_iff.mp hlength.symm)
  obtain ⟨l, hl⟩ := SelectorList.exists_ofValues_map_query hqs
  refine ⟨l, ?_, ?_⟩
  · rw [value, hvalues]
    simp only [bind, Except.bind, hl, pure, Except.pure]
  · rw [← hmembers]
    exact (SelectorList.ofValues_map_query_iff qs l).mp hl

theorem exists_values {items : List Grouping} (h : AllFull items) :
    ∃ qs : List Query, values items = .ok (qs.map .query) ∧ qs.length = items.length ∧
      qs.flatMap Query.members = allSelectors items := by
  cases items with
  | nil => exact ⟨[], rfl, rfl, rfl⟩
  | cons g rest =>
      obtain ⟨q, hq, hmembers⟩ := exists_value h.1
      obtain ⟨qs, hqs, hlength, hrest⟩ := exists_values h.2
      refine ⟨q :: qs, ?_, congrArg (· + 1) hlength, ?_⟩
      · rw [values, hq, hqs]
        rfl
      · rw [List.flatMap_cons, hmembers, hrest, allSelectors]

end

end Grouping

namespace SelectorList

open Grouping (allSelectors)

/-- A sequence is made into a list if it is not empty and has only selectors and lists for items. The
members are those of the items in order, so they do not depend on the grouping, and the canonical text
is that of the items one space apart. -/
theorem members_of_items (items : List Value) :
    ofValue (.list items) = ofValues items ∧ ofValue (.tuple items) = ofValues items ∧
    ((∃ l, ofValues items = .ok l) ↔ items ≠ [] ∧ ∀ v ∈ items, ∃ q, v = .query q) ∧
    (∀ l, ofValues items = .ok l →
      ∃ qs : List Query, items = qs.map .query ∧ l.members = qs.flatMap Query.members ∧
        l.format = Text.join [' '] (qs.map Query.format)) ∧
    ∀ g h : List Grouping, (Grouping.list g).Full → (Grouping.list h).Full →
      allSelectors g = allSelectors h →
      ∃ l, (Grouping.list g).value = .ok (.list l) ∧ (Grouping.list h).value = .ok (.list l) ∧
        l.members = allSelectors g ∧
        l.format = Text.join [' '] ((allSelectors g).map Selector.format) := by
  refine ⟨rfl, rfl, exists_ofValues_iff items, fun l hl => ?_, fun g h hg hh hsame => ?_⟩
  · obtain ⟨qs, hitems, hmembers⟩ := exists_queries_of_ofValues hl
    exact ⟨qs, hitems, hmembers, format_of_queries hmembers⟩
  · obtain ⟨l, hl, hmembers⟩ := Grouping.exists_list hg
    obtain ⟨l', hl', hmembers'⟩ := Grouping.exists_list hh
    have heq : l' = l := by
      have hlist := ofMembers?_members l'
      rw [hmembers', ← hsame, ← hmembers, ofMembers?_members] at hlist
      exact (Option.some.inj hlist).symm
    subst heq
    exact ⟨l', hl, hl', hmembers, by rw [format, hmembers]⟩

/-- Three selectors, of which the first two or the last two are grouped. -/
theorem grouped_either_way :
    let ul : Grouping := .one ⟨.regular ⟨some "ul".toList, none, []⟩, .descendant⟩
    let any : Grouping := .one ⟨.everything, .child⟩
    let note : Grouping := .one ⟨.regular ⟨none, none, ["note".toList]⟩, .descendant⟩
    (∃ l, ofValues [.query (.single .everything), .query (.single .everything)] = .ok l) ∧
      ∃ l, (Grouping.list [.list [ul, any], note]).value = .ok (.list l) ∧
        (Grouping.list [ul, .list [.list [any], note]]).value = .ok (.list l) ∧
        l.format = "ul > * .note".toList := by
  intro ul any note
  constructor
  · refine (members_of_items _).2.2.1.mpr ⟨List.cons_ne_nil _ _, fun v hv => ?_⟩
    simp only [List.mem_cons, List.not_mem_nil, or_false, or_self] at hv
    exact ⟨_, hv⟩
  · have hleft : (Grouping.list [.list [ul, any], note]).Full := by
      simp [Grouping.Full, Grouping.AllFull, ul, any, note]
    have hright : (Grouping.list [ul, .list [.list [any], note]]).Full := by
      simp [Grouping.Full, Grouping.AllFull, ul, any, note]
    obtain ⟨l, hl, hl', -, hformat⟩ := (members_of_items []).2.2.2.2 _ _ hleft hright rfl
    exact ⟨l, hl, hl', hformat⟩

end SelectorList

end Hypertag
