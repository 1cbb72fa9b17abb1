import Hypertag.Proofs.Selector.RoundTrip

/-!
# Selector texts put together

Where two selector texts stand with blanks or `>` between them, the list that is read has the members of
both. Blanks add nothing. Of several `>` each but the last leads to any child, and the last one leads to
the first member of the second text.
-/

namespace Hypertag

namespace Chain

/-! ## Tokens of joined text -/

structure Gap (g : Text) : Prop where
  nonempty : g ≠ []
  plain : ∀ c ∈ g, isCompoundChar c = false

theorem tokens_append_of_plain {g : Text} (hg : ∀ c ∈ g, isCompoundChar c = false) (t : Text) :
    tokens (g ++ t) = List.replicate (g.count '>') .child ++ tokens t := by
  induction g with
  | nil => rfl
  | cons c g ih =>
      have hrest := ih fun d hd => hg d (by simp [hd])
      by_cases hc : c = '>'
      · rw [hc, List.cons_append, tokens_child, hrest, List.count_cons_self, List.replicate_succ,
          List.cons_append]
      · have hblank : isBlank c = true := by
          simpa [isCompoundChar, hc] using hg c (by simp)
        rw [List.cons_append, tokens_blank hblank, hrest, List.count_cons_of_ne hc]

theorem Gap.tokens_joined {g : Text} (hg : Gap g) (a b : Text) :
    tokens (a ++ g ++ b) = tokens a ++ (List.replicate (g.count '>') .child ++ tokens b) := by
  obtain ⟨c, r, rfl⟩ := List.exists_cons_of_ne_nil hg.nonempty
  have hend : (c :: r ++ b).head?.any isCompoundChar = false := by
    simpa using hg.plain c (by simp)
  rw [List.append_assoc, tokens_append a hend, tokens_append_of_plain hg.plain]

/-! ## Members of joined tokens -/

theorem separate_append {ts : List Token} (h : ts.getLast? ≠ some .child) (us : List Token) :
    separate (ts ++ us) = separate ts ++ separate us := by
  induction ts with
  | nil => rfl
  | cons token rest ih =>
      cases rest with
      | nil =>
          have htoken : token ≠ .child := by simpa using h
          simp [separate, htoken]
      | cons next rest =>
          have hrest := ih (by simpa using h)
          rw [List.cons_append, separate, separate, hrest]
          by_cases hpair : token = .child ∧ some next = some .child
          · rw [List.cons_append, List.head?_cons, List.head?_cons, if_pos hpair, if_pos hpair]
            rfl
          · rw [List.cons_append, List.head?_cons, List.head?_cons, if_neg hpair, if_neg hpair]
            rfl

theorem getLast?_separate (ts : List Token) : (separate ts).getLast? = ts.getLast? := by
  induction ts with
  | nil => rfl
  | cons token rest ih =>
      rw [separate]
      split
      · next hpair =>
          obtain ⟨more, rfl⟩ := List.head?_eq_some_iff.mp hpair.2
          simp [List.getLast?_cons, ih]
      · simp [List.getLast?_cons, ih]

theorem members_append (before : Option Token) (ts us : List Token) :
    members before (ts ++ us) = members before ts ++ members (ts.getLast?.or before) us := by
  induction ts generalizing before with
  | nil => rfl
  | cons token rest ih =>
      have hlast : (token :: rest).getLast?.or before = rest.getLast?.or (some token) := by
        rw [List.getLast?_cons]
        cases rest.getLast? <;> rfl
      cases token with
      | child =>
          rw [List.cons_append, members, members, ih, hlast]
      | compound w =>
          rw [List.cons_append, members, members, ih, hlast, List.cons_append]

/-- Only a `>` before the first compound makes a difference. -/
theorem members_of_ne_child {before : Option Token} (h : before ≠ some .child) (ts : List Token) :
    members before ts = members none ts := by
  cases ts with
  | nil => rfl
  | cons token rest =>
      cases token with
      | child => rfl
      | compound w => simp [members, h]

/-- The members that a number of `>` lead to: any child for each but the last, which makes the next
member a child. -/
def ledTo : Nat → List Selector → List Selector
  | 0, ss => ss
  | _, [] => []
  | n + 1, s :: ss => List.replicate n ⟨.everything, .child⟩ ++ { s with traversal := .child } :: ss

/-- Of a row of `>` each one gives the next a `*` to stand after. -/
theorem members_separate_row (n : Nat) (before : Option Token) {us : List Token}
    (hus : us.head? ≠ some .child) :
    members before (separate (List.replicate (n + 1) .child ++ us)) =
      List.replicate n ⟨.everything, .child⟩ ++ members (some .child) (separate us) := by
  induction n generalizing before with
  | zero =>
      rw [List.replicate_one, List.singleton_append, separate, if_neg (by simp [hus])]
      rfl
  | succ n ih =>
      have hrow : (List.replicate (n + 1) Token.child ++ us).head? = some .child := rfl
      rw [List.replicate_succ, List.cons_append, separate, if_pos ⟨rfl, hrow⟩, members, members, ih,
        List.replicate_succ, List.cons_append]
      rfl

theorem members_separate_joined {ts us : List Token} (hus : us ≠ [])
    (hlast : ts.getLast? ≠ some .child) (hfirst : us.head? ≠ some .child) (n : Nat) :
    members none (separate (ts ++ (List.replicate n .child ++ us))) =
      members none (separate ts) ++ ledTo n (members none (separate us)) := by
  have hbefore : (separate ts).getLast?.or none ≠ some .child := by
    rwa [getLast?_separate, Option.or_none]
  rw [separate_append hlast, members_append]
  congr 1
  match n, us, hus with
  | 0, us, _ => exact members_of_ne_child hbefore (separate us)
  | n + 1, .compound w :: us, _ =>
      rw [members_separate_row n _ hfirst]
      simp [separate, members, ledTo]
  | _ + 1, .child :: us, _ => exact absurd rfl hfirst

end Chain

open Chain

/-! ## Reading joined text -/

namespace Query

theorem accepted_joined {a b g : Text} (ha : Accepted a) (hb : Accepted b) (hg : Gap g)
    (hane : tokens a ≠ []) (hbne : tokens b ≠ []) : Accepted (a ++ g ++ b) := by
  have htokens := hg.tokens_joined a b
  refine ⟨fun token hmem => ?_, ?_, ?_⟩
  · rcases List.mem_append.mp hmem with hmem | hmem
    · rcases List.mem_append.mp hmem with hmem | hmem
      · exact ha.supported token hmem
      · have hplain := hg.plain _ hmem
        revert hplain
        cases token <;> decide
    · exact hb.supported token hmem
  · obtain ⟨token, rest, hrest⟩ := List.exists_cons_of_ne_nil hane
    have hfirst := ha.first
    rw [hrest] at hfirst
    rw [htokens, hrest]
    exact hfirst
  · rw [htokens, List.getLast?_append_of_ne_nil _ (by simp [hbne]),
      List.getLast?_append_of_ne_nil _ hbne]
    exact hb.last

theorem members_ofQuery (q : Query) : (SelectorList.ofQuery q).members = q.members := by
  cases q <;> rfl

theorem asList_of_accepted {t : Text} (h : Accepted t) (hne : tokens t ≠ []) :
    ∃ l, SelectorList.ofValue (.text t) = .ok l ∧
      l.members = Chain.members none (separate (tokens t)) := by
  obtain ⟨q, hq, hmeaning⟩ := ofText_of_accepted h
  refine ⟨SelectorList.ofQuery q, ?_, ?_⟩
  · rw [SelectorList.ofValue, hq]
    rfl
  · rw [members_ofQuery, members_of_meaning? hne hmeaning]

/-- What is read as a list has a member for each compound, whichever way it was read. -/
theorem accepted_of_asList {t : Text} {l : SelectorList}
    (h : SelectorList.ofValue (.text t) = .ok l) (hne : tokens t ≠ []) :
    Accepted t ∧ l.members = Chain.members none (separate (tokens t)) := by
  obtain ⟨q, hq, rfl⟩ := exists_of_map_ok h
  obtain ⟨haccepted, hmeaning⟩ := (ofText_eq_ok_iff t q).mp hq
  exact ⟨haccepted, by rw [members_ofQuery, members_of_meaning? hne hmeaning]⟩

/-- Two texts that are read on their own are read together, with blanks and `>` between them. -/
theorem asList_joined {a b g : Text} {la lb : SelectorList}
    (ha : SelectorList.ofValue (.text a) = .ok la) (hb : SelectorList.ofValue (.text b) = .ok lb)
    (hane : tokens a ≠ []) (hbne : tokens b ≠ []) (hg : Gap g) :
    ∃ l, SelectorList.ofValue (.text (a ++ g ++ b)) = .ok l ∧
      l.members = la.members ++ ledTo (g.count '>') lb.members := by
  obtain ⟨haccepted, hla⟩ := accepted_of_asList ha hane
  obtain ⟨hbaccepted, hlb⟩ := accepted_of_asList hb hbne
  have htokens := hg.tokens_joined a b
  obtain ⟨l, hl, hmembers⟩ := asList_of_accepted
    (accepted_joined haccepted hbaccepted hg hane hbne) (by rw [htokens]; simp [hane])
  refine ⟨l, hl, ?_⟩
  rw [hmembers, htokens, members_separate_joined hbne haccepted.last hbaccepted.first, hla, hlb]

theorem gap_blank {c : Char} (hc : isBlank c = true) : Gap [c] := by
  refine ⟨List.cons_ne_nil _ _, fun d hd => ?_⟩
  obtain rfl := List.mem_singleton.mp hd
  simp [isCompoundChar, hc]

theorem gap_row (n : Nat) : Gap (List.replicate (n + 1) '>') := by
  refine ⟨List.cons_ne_nil _ _, fun d hd => ?_⟩
  obtain rfl := List.eq_of_mem_replicate hd
  rfl

/-- Of texts with a space between them the members stand one after the other. A row of `>` between them
leads to any child for each but the last, and makes the first member of the second text a child. -/
theorem members_of_composed {a b : Text} (ha : ∃ p, ofValue (.text a) = .ok p)
    (hb : ∃ q, ofValue (.text b) = .ok q) (hane : ∃ c ∈ a, isBlank c = false)
    (hbne : ∃ c ∈ b, isBlank c = false) :
    ∃ la lb, SelectorList.ofValue (.text a) = .ok la ∧ SelectorList.ofValue (.text b) = .ok lb ∧
      (∃ l, SelectorList.ofValue (.text (a ++ [' '] ++ b)) = .ok l ∧
        l.members = la.members ++ lb.members) ∧
      ∀ k, 1 ≤ k →
        ∃ l, SelectorList.ofValue (.text (a ++ List.replicate k '>' ++ b)) = .ok l ∧
          l.members = la.members ++ List.replicate (k - 1) ⟨.everything, .child⟩ ++
            ⟨lb.first.compound, .child⟩ :: lb.rest := by
  obtain ⟨p, hp⟩ := ha
  obtain ⟨q, hq⟩ := hb
  have hla : SelectorList.ofValue (.text a) = .ok (.ofQuery p) :=
    congrArg (Except.map SelectorList.ofQuery) hp
  have hlb : SelectorList.ofValue (.text b) = .ok (.ofQuery q) :=
    congrArg (Except.map SelectorList.ofQuery) hq
  have htokens {t : Text} (ht : ∃ c ∈ t, isBlank c = false) : tokens t ≠ [] := by
    rw [ne_eq, tokens_eq_nil_iff]
    simpa using ht
  have hjoined {g : Text} := asList_joined (g := g) hla hlb (htokens hane) (htokens hbne)
  refine ⟨_, _, hla, hlb, hjoined (gap_blank (by decide)), fun k hk => ?_⟩
  obtain ⟨n, rfl⟩ := Nat.exists_eq_add_of_le' hk
  obtain ⟨l, hl, hmembers⟩ := hjoined (gap_row n)
  rw [List.count_replicate_self] at hmembers
  exact ⟨l, hl, by rw [hmembers, List.append_assoc]; rfl⟩

/-- A selector and a chain with three `>` between them. -/
theorem three_children_between :
    (∃ p, ofValue (.text "\tp.x".toList) = .ok p) ∧ (∃ q, ofValue (.text "ul > li\n".toList) = .ok q) ∧
      SelectorList.ofValue (.text "\tp.x>>>ul > li\n".toList) =
        .ok ⟨⟨.regular ⟨some ['p'], none, [['x']]⟩, .descendant⟩,
          [⟨.everything, .child⟩, ⟨.everything, .child⟩,
            ⟨.regular ⟨some ['u', 'l'], none, []⟩, .child⟩,
            ⟨.regular ⟨some ['l', 'i'], none, []⟩, .child⟩]⟩ := by
  have ha : ofText "\tp.x".toList =
      .ok (.single ⟨.regular ⟨some ['p'], none, [['x']]⟩, .descendant⟩) :=
    (ofText_eq_ok_iff _ _).mpr
      ⟨⟨fun token => by cases token <;> decide, by decide, by decide⟩, by decide⟩
  have hb : ofText "ul > li\n".toList =
      .ok (.list ⟨⟨.regular ⟨some ['u', 'l'], none, []⟩, .descendant⟩,
        [⟨.regular ⟨some ['l', 'i'], none, []⟩, .child⟩]⟩) := by
    have htokens : tokens "ul > li\n".toList =
        [.compound ['u', 'l'], .child, .compound ['l', 'i']] := by decide
    refine (ofText_eq_ok_iff _ _).mpr
      ⟨⟨fun token => by cases token <;> decide, by decide, by decide⟩, ?_⟩
    rw [htokens]
    decide
  have hla : SelectorList.ofValue (.text "\tp.x".toList) =
      .ok ⟨⟨.regular ⟨some ['p'], none, [['x']]⟩, .descendant⟩, []⟩ := by
    rw [SelectorList.ofValue, ha]
    rfl
  have hlb : SelectorList.ofValue (.text "ul > li\n".toList) =
      .ok ⟨⟨.regular ⟨some ['u', 'l'], none, []⟩, .descendant⟩,
        [⟨.regular ⟨some ['l', 'i'], none, []⟩, .child⟩]⟩ := by
    rw [SelectorList.ofValue, hb]
    rfl
  have htext : "\tp.x".toList ++ List.replicate 3 '>' ++ "ul > li\n".toList =
      "\tp.x>>>ul > li\n".toList := by decide
  obtain ⟨la, lb, hla', hlb', -, hrow⟩ := members_of_composed ⟨_, ha⟩ ⟨_, hb⟩
    ⟨'p', by decide, by decide⟩ ⟨'l', by decide, by decide⟩
  rw [hla] at hla'
  rw [hlb] at hlb'
  cases hla'
  cases hlb'
  obtain ⟨⟨first, rest⟩, hl, hmembers⟩ := hrow 3 (by decide)
  rw [htext] at hl
  obtain ⟨rfl, rfl⟩ := List.cons.inj hmembers
  exact ⟨⟨_, ha⟩, ⟨_, hb⟩, hl⟩

end Query

end Hypertag
