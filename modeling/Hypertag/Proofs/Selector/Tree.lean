import Hypertag.Proofs.Results
import Hypertag.Proofs.Selector.Members
import Hypertag.Selector.Reading

/-!
# Selectors made from a tree

The tree of a chain keeps its tokens as they are. From it each compound is made into a selector, one
after a `>` is revised to apply to children, and the selectors are put into a list. Each of these steps
checks what it is given, and on the tree of a chain that was read none of them fails.
-/

namespace Hypertag

/-- A revision of the traversal alone never meets the check of the parts. -/
theorem Selector.revise_child (s : Selector) :
    s.revise [.traversal .child] = .ok { s with traversal := .child } := by
  rcases s with ⟨compound, traversal⟩
  cases compound <;> rfl

namespace Chain

def construct (w : Text) : Except SelectorError Selector :=
  if w = ['*'] then Selector.build .everything .none .descendant
  else Selector.build .regular (Compound.readParts w) .descendant

/-- The selectors of a tree from left to right; `child` tells that a `>` stands before the next. -/
def visit (child : Bool) : List Token → Except SelectorError (List Selector)
  | [] => .ok []
  | .child :: rest => visit true rest
  | .compound w :: rest => do
      let s ← construct w
      let s ← if child then s.revise [.traversal .child] else .ok s
      return s :: (← visit false rest)

def ofTree (ts : List Token) : Except SelectorError SelectorList := do
  match SelectorList.ofMembers? (← visit false ts) with
  | some l => return l
  | none => .error .emptyList

theorem construct_eq (w : Text) : construct w = .ok ⟨Compound.read w, .descendant⟩ := by
  rw [construct, Compound.read]
  split <;> rfl

/-- No step fails, whatever the tokens. -/
theorem visit_eq (before : Option Token) (ts : List Token) :
    visit (before = some .child) ts = .ok (members before ts) := by
  induction ts generalizing before with
  | nil => rfl
  | cons token rest ih =>
      cases token with
      | child => exact ih (some .child)
      | compound w =>
          have hrest : visit false rest = .ok (members (some (.compound w)) rest) :=
            ih (some (.compound w))
          rw [visit, construct_eq, hrest, members]
          by_cases hbefore : before = some .child
          · simp only [hbefore, decide_true, if_true, Selector.revise_child, bind, Except.bind, pure,
              Except.pure]
          · simp only [hbefore, decide_false, if_false, Bool.false_eq_true, bind, Except.bind, pure,
              Except.pure]

/-! ## Trees of the grammar -/

theorem members_of_afterCompound (ts : List (Nat × Token)) {ss : List Selector}
    (before : Option Token) (hbefore : before ≠ some .child) (h : afterCompound ts = .ok ss) :
    members before (ts.map (·.2)) = ss := by
  match ts, h with
  | [], h => exact Except.ok.inj h
  | (_, .compound w) :: rest, h =>
      rw [afterCompound] at h
      obtain ⟨more, hrest, rfl⟩ := exists_of_map_ok h
      have hmore := members_of_afterCompound rest (some (.compound w)) (by simp) hrest
      simp [members, hbefore, hmore]
  | (_, .child) :: [], h => cases h
  | (_, .child) :: (_, .child) :: _, h => cases h
  | (_, .child) :: (_, .compound w) :: rest, h =>
      rw [afterCompound, beforeCompound] at h
      obtain ⟨l, hl, rfl⟩ := exists_of_map_ok h
      obtain ⟨more, hrest, rfl⟩ := exists_of_map_ok hl
      have hmore := members_of_afterCompound rest (some (.compound w)) (by simp) hrest
      simp [members, hmore, SelectorList.members]

theorem members_of_ofTokens {ts : List (Nat × Token)} {l : SelectorList} (h : ofTokens ts = .ok l) :
    members none (ts.map (·.2)) = l.members := by
  match ts, h with
  | [], h => cases h
  | (_, .child) :: _, h => cases h
  | (_, .compound w) :: rest, h =>
      rw [ofTokens, beforeCompound] at h
      obtain ⟨more, hrest, rfl⟩ := exists_of_map_ok h
      have hmore := members_of_afterCompound rest (some (.compound w)) (by simp) hrest
      simp [members, hmore, SelectorList.members]

/-- What the grammar reads is what its tree is made into, with all checks. -/
theorem ofTree_of_ofTokens {ts : List (Nat × Token)} {l : SelectorList} (h : ofTokens ts = .ok l) :
    ofTree (ts.map (·.2)) = .ok l := by
  have hvisit : visit false (ts.map (·.2)) = .ok l.members := by
    rw [← members_of_ofTokens h]
    exact visit_eq none _
  rw [ofTree, hvisit]
  rfl

end Chain

end Hypertag
