import Hypertag.Proofs.Results
import Hypertag.Proofs.Selector.Spread

/-!
# The members of a chain

The grammar asks only that each `>` has a compound after it. Then each compound is a member, for
children only when the token before it is `>`.
-/

namespace Hypertag.Chain

/-- One selector for each compound, by the token that stands before it. -/
def members (before : Option Token) : List Token → List Selector
  | [] => []
  | .child :: rest => members (some .child) rest
  | .compound w :: rest =>
      ⟨Compound.read w, if before = some .child then .child else .descendant⟩ ::
        members (some (.compound w)) rest

def Followed : List Token → Prop
  | [] => True
  | .compound _ :: rest => Followed rest
  | .child :: .compound _ :: rest => Followed rest
  | .child :: _ => False

/-! ## The grammar -/

theorem afterCompound_of_followed (ts : List (Nat × Token)) (before : Option Token)
    (hbefore : before ≠ some .child) (h : Followed (ts.map (·.2))) :
    afterCompound ts = .ok (members before (ts.map (·.2))) := by
  match ts, h with
  | [], _ => rfl
  | (_, .compound w) :: rest, h =>
      have hrest := afterCompound_of_followed rest (some (.compound w)) (by simp) h
      simp [afterCompound, hrest, members, hbefore, Except.map]
  | (_, .child) :: (_, .compound w) :: rest, h =>
      have hrest := afterCompound_of_followed rest (some (.compound w)) (by simp) h
      simp [afterCompound, beforeCompound, hrest, members, Except.map, SelectorList.members]

theorem ofTokens_of_followed (ts : List (Nat × Token)) (hhead : (ts.map (·.2)).head? ≠ some .child)
    (hne : ts ≠ []) (h : Followed (ts.map (·.2))) :
    ∃ l : SelectorList, ofTokens ts = .ok l ∧ l.members = members none (ts.map (·.2)) := by
  match ts, h with
  | (_, .compound w) :: rest, h =>
      have hrest := afterCompound_of_followed rest (some (.compound w)) (by simp) h
      refine ⟨⟨⟨Compound.read w, .descendant⟩, members (some (.compound w)) (rest.map (·.2))⟩, ?_,
        by simp [SelectorList.members, members]⟩
      simp [ofTokens, beforeCompound, hrest, Except.map]
  | (_, .child) :: _, _ => simp at hhead

theorem followed_of_afterCompound (ts : List (Nat × Token)) {ss : List Selector}
    (h : afterCompound ts = .ok ss) : Followed (ts.map (·.2)) := by
  match ts, h with
  | [], _ => trivial
  | (_, .compound w) :: rest, h =>
      rw [afterCompound] at h
      obtain ⟨_, hrest, -⟩ := exists_of_map_ok h
      exact followed_of_afterCompound rest hrest
  | (_, .child) :: [], h => cases h
  | (_, .child) :: (_, .child) :: _, h => cases h
  | (_, .child) :: (_, .compound w) :: rest, h =>
      rw [afterCompound, beforeCompound] at h
      obtain ⟨_, hnext, -⟩ := exists_of_map_ok h
      obtain ⟨_, hrest, -⟩ := exists_of_map_ok hnext
      exact followed_of_afterCompound rest hrest

/-- The grammar asks for nothing but tokens, a compound first, and one after each `>`. -/
theorem followed_of_ofTokens {ts : List (Nat × Token)} {l : SelectorList} (h : ofTokens ts = .ok l) :
    ts ≠ [] ∧ (ts.map (·.2)).head? ≠ some .child ∧ Followed (ts.map (·.2)) := by
  match ts, h with
  | [], h => cases h
  | (_, .child) :: _, h => cases h
  | (_, .compound w) :: rest, h =>
      rw [ofTokens, beforeCompound] at h
      obtain ⟨_, hrest, -⟩ := exists_of_map_ok h
      exact ⟨List.cons_ne_nil _ _, by simp, followed_of_afterCompound rest hrest⟩

/-! ## Separated tokens -/

theorem head?_separate (ts : List Token) : (separate ts).head? = ts.head? := by
  cases ts with
  | nil => rfl
  | cons token rest =>
      rw [separate]
      split <;> rfl

theorem followed_separate_iff (ts : List Token) :
    Followed (separate ts) ↔ ts.getLast? ≠ some .child := by
  induction ts with
  | nil => simp [separate, Followed]
  | cons token rest ih =>
      cases token with
      | compound w =>
          cases rest with
          | nil => simp [separate, Followed]
          | cons next rest => simpa [separate, Followed] using ih
      | child =>
          cases rest with
          | nil => simp [separate, Followed]
          | cons next rest =>
              cases next with
              | child => simpa [separate, Followed] using ih
              | compound w => simpa [separate, Followed] using ih

theorem members_map_compound (before : Option Token) (hbefore : before ≠ some .child)
    (ws : List Text) :
    members before (ws.map .compound) = ws.map fun w => ⟨Compound.read w, .descendant⟩ := by
  induction ws generalizing before with
  | nil => rfl
  | cons w ws ih => simp [members, hbefore, ih]

theorem separate_map_compound (ws : List Text) :
    separate (ws.map .compound) = ws.map .compound := by
  induction ws with
  | nil => rfl
  | cons w ws ih => simp [separate, ih]

end Hypertag.Chain
