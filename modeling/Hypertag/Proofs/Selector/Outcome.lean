import Hypertag.Proofs.Report
import Hypertag.Proofs.Selector.Meaning
import Hypertag.Proofs.Selector.Tree

/-!
# How reading ends

The checks come in a fixed order: is there a text, does it hold a refused token, is its first token a
`>`, is its last. What passes them is read. So the grammar never refuses a text, and no list that is
built stays empty.
-/

namespace Hypertag

theorem Unsupported.character_inj {a b : Unsupported} (h : a.character = b.character) : a = b := by
  revert h
  cases a <;> cases b <;> decide

namespace Query

open Chain

theorem eq_map_text_of_texts? {items : List Value} {parts : List Text}
    (h : textOf?.texts? items = some parts) : items = parts.map .text := by
  induction items generalizing parts with
  | nil =>
      obtain rfl := Option.some.inj h
      rfl
  | cons item rest ih =>
      cases item with
      | text t =>
          obtain ⟨more, hmore, rfl⟩ := Option.map_eq_some_iff.mp h
          rw [ih hmore, List.map_cons]
      | _ => cases h

/-- The text of a value is found when there is one. -/
theorem textOf?_eq_some_iff (v : Value) (t : Text) : textOf? v = some t ↔ StandsFor v t := by
  constructor
  · intro h
    cases v with
    | text u =>
        obtain rfl := Option.some.inj h
        exact .text u
    | list items =>
        obtain ⟨parts, hparts, rfl⟩ := Option.map_eq_some_iff.mp h
        rw [eq_map_text_of_texts? hparts]
        exact .list parts
    | tuple items =>
        obtain ⟨parts, hparts, rfl⟩ := Option.map_eq_some_iff.mp h
        rw [eq_map_text_of_texts? hparts]
        exact .tuple parts
    | _ => cases h
  · intro h
    cases h with
    | text => rfl
    | list parts => simp [textOf?, texts?_map_text]
    | tuple parts => simp [textOf?, texts?_map_text]

theorem ofValue_of_textless {v : Value} (hquery : ∀ q, v ≠ .query q) (h : ∀ t, ¬ StandsFor v t) :
    ofValue v = .error (.notText v.typeName) := by
  have hnone : textOf? v = none := by
    rw [Option.eq_none_iff_forall_ne_some]
    exact fun t ht => h t ((textOf?_eq_some_iff v t).mp ht)
  rw [ofValue, hnone]
  exact hquery

/-! ## Texts -/

/-- Blanks at the ends hide no refused token. -/
theorem character_firstUnsupported? (t : Text) :
    (firstUnsupported? t.strip).map Unsupported.character =
      [',', '[', '~', '+', ':'].find? (· ∈ t) := by
  have hcharacters : [',', '[', '~', '+', ':'] = Unsupported.all.map Unsupported.character := rfl
  have hsame : (fun token : Unsupported => Literal.detect [token.character] t.strip) =
      (fun c => decide (c ∈ t)) ∘ Unsupported.character := by
    funext token
    rw [Function.comp_apply, Bool.eq_iff_iff, Literal.detect_singleton_iff, decide_eq_true_iff]
    exact Text.mem_strip_iff (by cases token <;> decide) t
  rw [hcharacters, List.find?_map, firstUnsupported?, hsame]

theorem firstUnsupported?_strip_eq_none {t : Text}
    (hplain : ∀ c ∈ [',', '[', '~', '+', ':'], c ∉ t) : firstUnsupported? t.strip = none := by
  rw [← Option.map_eq_none_iff, character_firstUnsupported?, List.find?_eq_none]
  simpa using hplain

theorem firstUnsupported?_strip_eq_some {t : Text} {token : Unsupported}
    (h : [',', '[', '~', '+', ':'].find? (· ∈ t) = some token.character) :
    firstUnsupported? t.strip = some token := by
  rw [← character_firstUnsupported?] at h
  obtain ⟨found, hfound, hcharacter⟩ := Option.map_eq_some_iff.mp h
  rw [hfound, Unsupported.character_inj hcharacter]

theorem ofText_of_unsupported {t : Text} {token : Unsupported}
    (h : [',', '[', '~', '+', ':'].find? (· ∈ t) = some token.character) :
    ofText t = .error (.unsupported token t.strip) := by
  rw [ofText, Text.trim_both, ofTrimmed, firstUnsupported?_strip_eq_some h]

theorem ofText_of_first {t : Text} (hplain : ∀ c ∈ [',', '[', '~', '+', ':'], c ∉ t)
    (hfirst : (tokens t).head? = some .child) : ofText t = .error (.dangling .first t.strip) := by
  rw [← tokens_strip] at hfirst
  rw [ofText, Text.trim_both]
  exact ofTrimmed_of_first (Text.trimmed_strip t) (firstUnsupported?_strip_eq_none hplain) hfirst

theorem ofText_of_last {t : Text} (hplain : ∀ c ∈ [',', '[', '~', '+', ':'], c ∉ t)
    (hfirst : (tokens t).head? ≠ some .child) (hlast : (tokens t).getLast? = some .child) :
    ofText t = .error (.dangling .last t.strip) := by
  rw [← tokens_strip] at hfirst hlast
  rw [ofText, Text.trim_both]
  exact ofTrimmed_of_last (Text.trimmed_strip t) (firstUnsupported?_strip_eq_none hplain) hfirst
    hlast

theorem accepted_of_plain {t : Text} (hplain : ∀ c ∈ [',', '[', '~', '+', ':'], c ∉ t)
    (hfirst : (tokens t).head? ≠ some .child) (hlast : (tokens t).getLast? ≠ some .child) :
    Accepted t :=
  ⟨fun token => hplain token.character (by cases token <;> decide), hfirst, hlast⟩

/-! ## Values -/

/-- What comes of a value: each rule is for the values that those before it leave. -/
inductive Outcome : Value → Except SelectorError Query → Prop where
  | query (q : Query) : Outcome (.query q) (.ok q)
  | notText {v : Value} (hquery : ∀ q, v ≠ .query q) (htext : ∀ t, ¬ StandsFor v t) :
      Outcome v (.error (.notText v.typeName))
  | unsupported {v : Value} {t : Text} {token : Unsupported} (ht : StandsFor v t)
      (hfound : [',', '[', '~', '+', ':'].find? (· ∈ t) = some token.character) :
      Outcome v (.error (.unsupported token t.strip))
  | childFirst {v : Value} {t : Text} (ht : StandsFor v t)
      (hplain : ∀ c ∈ [',', '[', '~', '+', ':'], c ∉ t)
      (hfirst : (tokens t).head? = some .child) : Outcome v (.error (.dangling .first t.strip))
  | childLast {v : Value} {t : Text} (ht : StandsFor v t)
      (hplain : ∀ c ∈ [',', '[', '~', '+', ':'], c ∉ t)
      (hfirst : (tokens t).head? ≠ some .child) (hlast : (tokens t).getLast? = some .child) :
      Outcome v (.error (.dangling .last t.strip))
  | read {v : Value} {t : Text} {q : Query} (ht : StandsFor v t)
      (hplain : ∀ c ∈ [',', '[', '~', '+', ':'], c ∉ t)
      (hfirst : (tokens t).head? ≠ some .child) (hlast : (tokens t).getLast? ≠ some .child)
      (hmeaning : meaning? (tokens t) = some q) : Outcome v (.ok q)

theorem Outcome.ofValue_eq {v : Value} {r : Except SelectorError Query} (h : Outcome v r) :
    ofValue v = r := by
  cases h with
  | query q => rfl
  | notText hquery htext => exact ofValue_of_textless hquery htext
  | unsupported ht hfound => rw [ht.ofValue_eq, ofText_of_unsupported hfound]
  | childFirst ht hplain hfirst => rw [ht.ofValue_eq, ofText_of_first hplain hfirst]
  | childLast ht hplain hfirst hlast => rw [ht.ofValue_eq, ofText_of_last hplain hfirst hlast]
  | read ht hplain hfirst hlast hmeaning =>
      rw [ht.ofValue_eq, ofText_eq_ok_iff]
      exact ⟨accepted_of_plain hplain hfirst hlast, hmeaning⟩

/-- Some rule is for every text. -/
theorem outcome_of_standsFor {v : Value} {t : Text} (ht : StandsFor v t) : ∃ r, Outcome v r := by
  cases hfound : [',', '[', '~', '+', ':'].find? (· ∈ t) with
  | some c =>
      have hmem : c ∈ Unsupported.all.map Unsupported.character := List.mem_of_find?_eq_some hfound
      obtain ⟨token, -, rfl⟩ := List.mem_map.mp hmem
      exact ⟨_, .unsupported ht hfound⟩
  | none =>
      have hplain : ∀ c ∈ [',', '[', '~', '+', ':'], c ∉ t := by
        simpa using List.find?_eq_none.mp hfound
      by_cases hfirst : (tokens t).head? = some .child
      · exact ⟨_, .childFirst ht hplain hfirst⟩
      · by_cases hlast : (tokens t).getLast? = some .child
        · exact ⟨_, .childLast ht hplain hfirst hlast⟩
        · obtain ⟨q, -, hmeaning⟩ := ofText_of_accepted (accepted_of_plain hplain hfirst hlast)
          exact ⟨_, .read ht hplain hfirst hlast hmeaning⟩

theorem exists_outcome (v : Value) : ∃ r, Outcome v r := by
  by_cases hquery : ∃ q, v = .query q
  · obtain ⟨q, rfl⟩ := hquery
    exact ⟨_, .query q⟩
  · by_cases htext : ∃ t, StandsFor v t
    · obtain ⟨t, ht⟩ := htext
      exact outcome_of_standsFor ht
    · exact ⟨_, .notText (not_exists.mp hquery) (not_exists.mp htext)⟩

/-- What is reported of a value that is refused, for each rule that refuses one. -/
inductive Reported (v : Value) (r : Report) : Prop where
  | notText (htext : ∀ t, ¬ StandsFor v t) : r.Tells .selectorType
      ("Cannot parse a selector from " ++ v.typeName) "SELECTOR_TYPE_ERROR" []
      [("value_type", .text v.typeName)] → Reported v r
  | unsupported {t : Text} {token : Unsupported} (ht : StandsFor v t)
      (hfound : [',', '[', '~', '+', ':'].find? (· ∈ t) = some token.character) :
      r.Tells .unsupportedToken token.message "UNSUPPORTED_TOKEN"
        [("selector", .text t.strip), ("character", .text [token.character])]
        [("character", .text [token.character])] → Reported v r
  | dangling {t : Text} {place : ChainEnd} (ht : StandsFor v t)
      (hplain : ∀ c ∈ [',', '[', '~', '+', ':'], c ∉ t)
      (hplace : if (tokens t).head? = some .child then place = .first
        else (tokens t).getLast? = some .child ∧ place = .last) :
      r.Tells .danglingCombinator (SelectorError.dangling place t.strip).message
        "DANGLING_COMBINATOR" [("selector", .text t.strip), ("position", .text place.name)]
        [("position", .text place.name)] → Reported v r

theorem Outcome.reported {v : Value} {e : SelectorError} (h : Outcome v (.error e)) :
    Reported v (Report.ofSelectorError e) := by
  cases h with
  | notText _ htext => exact .notText htext (Report.tells_notText _)
  | unsupported ht hfound => exact .unsupported ht hfound (Report.tells_unsupported _ _)
  | childFirst ht hplain hfirst =>
      exact .dangling ht hplain (by rw [if_pos hfirst]) (Report.tells_dangling _ _)
  | childLast ht hplain hfirst hlast =>
      exact .dangling ht hplain (by rw [if_neg hfirst]; exact ⟨hlast, rfl⟩)
        (Report.tells_dangling _ _)

/-- The error of the grammar and that of an empty list belong to no rule. -/
theorem Outcome.error_category {v : Value} {e : SelectorError} (h : Outcome v (.error e)) :
    (Report.ofSelectorError e).category ∈
        [.selectorType, .unsupportedToken, .danglingCombinator] ∧ e ≠ .emptyList := by
  refine ⟨?_, by cases h <;> simp⟩
  cases h.reported with
  | notText _ htells | unsupported _ _ htells | dangling _ _ _ htells => simp [htells.category]

/-- Reading ends as the rules say, for each value in exactly one way, and a refusal is reported with the
code and the attribute of its rule. The grammar never refuses what it is given, no list stays empty, and
what the grammar takes is made into selectors without a failure. -/
theorem ofValue_eq_iff_outcome (v : Value) :
    (∀ r, ofValue v = r ↔ Outcome v r) ∧
      (∀ e, ofValue v = .error e →
        (Report.ofSelectorError e).category ∈
            [.selectorType, .unsupportedToken, .danglingCombinator] ∧ e ≠ .emptyList ∧
          Reported v (Report.ofSelectorError e)) ∧
      ∀ t, StandsFor v t → ∀ l, ofTokens (positionedTokens (spread t.strip)) = .ok l →
        ofTree (tokens (spread t.strip)) = .ok l := by
  have hiff : ∀ r, ofValue v = r ↔ Outcome v r := by
    intro r
    constructor
    · intro hr
      obtain ⟨s, hs⟩ := exists_outcome v
      rwa [← hr, hs.ofValue_eq]
    · exact Outcome.ofValue_eq
  refine ⟨hiff, fun e he => ?_, fun t _ l hl => ofTree_of_ofTokens hl⟩
  have houtcome := (hiff _).mp he
  obtain ⟨hcategory, hnonempty⟩ := houtcome.error_category
  exact ⟨hcategory, hnonempty, houtcome.reported⟩

end Query

end Hypertag
