import Hypertag.Pattern.Matcher

/-!
# Where matches stand

Whatever matching tries and gives back, it only goes on from a place to later places of the same text.
So a match is the text that stands where it was looked for.
-/

namespace Hypertag

namespace Cursor

/-- The second place comes after some characters of the rest at the first one. -/
def Reaches (c d : Cursor) : Prop := ∃ w, c.rest = w ++ d.rest ∧ d.position = c.position + w.length

theorem Reaches.refl (c : Cursor) : c.Reaches c := ⟨[], rfl, rfl⟩

theorem Reaches.trans {c d e : Cursor} (h : c.Reaches d) (h' : d.Reaches e) : c.Reaches e := by
  obtain ⟨u, hu, hd⟩ := h
  obtain ⟨v, hv, he⟩ := h'
  refine ⟨u ++ v, ?_, ?_⟩
  · rw [hu, hv, List.append_assoc]
  · rw [he, hd, List.length_append, Nat.add_assoc]

theorem reaches_step {c : Cursor} {x : Char} {rest : Text} (h : c.rest = x :: rest) :
    c.Reaches (c.step rest) := ⟨[x], h, rfl⟩

/-- What is captured on the way does not move a place. -/
theorem Reaches.capture {c d : Cursor} (h : c.Reaches d) (start : Cursor) (number : Option Nat) :
    c.Reaches (d.capture start number) := by
  cases number <;> exact h

theorem Reaches.rest_eq {c d : Cursor} (h : c.Reaches d) : c.rest = d.since c ++ d.rest := by
  obtain ⟨w, hw, hd⟩ := h
  rw [since, hd, Nat.add_sub_cancel_left, hw, List.take_left]

end Cursor

/-! ## Steps -/

namespace Step

/-- What follows is tried only at places that are reached. -/
def Onward (body : Step) : Prop :=
  ∀ c next d, body c next = some d → ∃ e : Cursor, c.Reaches e ∧ next e = some d

variable {body : Step}

theorem Onward.once (h : body.Onward) : body.once.Onward := by
  intro c next d hd
  obtain ⟨e, he, hnext⟩ := Option.bind_eq_some_iff.mp hd
  obtain ⟨e', hreach, hsome⟩ := h c some e he
  obtain rfl := Option.some.inj hsome
  exact ⟨e', hreach, hnext⟩

theorem Onward.times (h : body.Onward) (n : Nat) : Onward fun c next => times body n c next := by
  induction n with
  | zero => exact fun c _ _ hd => ⟨c, .refl c, hd⟩
  | succ n ih =>
      intro c next d hd
      obtain ⟨e, hreach, he⟩ := h _ _ _ hd
      obtain ⟨e', hreach', hnext⟩ := ih _ _ _ he
      exact ⟨e', hreach.trans hreach', hnext⟩

private theorem eq_some_of_orElse {α : Type} {o : Option α} {f : Unit → Option α} {a : α}
    (h : o.orElse f = some a) : o = some a ∨ f () = some a := by
  cases o with
  | none => exact .inr h
  | some b => exact .inl h

/-- Each further repetition goes on from where the one before it came to. -/
theorem Onward.further (h : body.Onward) (lazy : Bool) (fuel : Text) (most last : Option Nat) :
    Onward fun c next => further body lazy next fuel most last c := by
  induction fuel generalizing most last with
  | nil => exact fun _ _ _ hd => by cases hd
  | cons f fuel ih =>
      intro c next d hd
      have hmore : ∀ {fits : Bool},
          (if fits = true then
            body c (Step.further body lazy next fuel (most.map (· - 1)) (some c.position))
            else none) = some d → ∃ e : Cursor, c.Reaches e ∧ next e = some d := by
        intro fits hd
        split at hd
        · obtain ⟨e, hreach, he⟩ := h _ _ _ hd
          obtain ⟨e', hreach', hnext⟩ := ih _ _ _ _ _ he
          exact ⟨e', hreach.trans hreach', hnext⟩
        · cases hd
      simp only [Step.further] at hd
      split at hd
      · rcases eq_some_of_orElse hd with hnext | hd
        · exact ⟨c, .refl c, hnext⟩
        · exact hmore hd
      · rcases eq_some_of_orElse hd with hd | hnext
        · exact hmore hd
        · exact ⟨c, .refl c, hnext⟩

theorem Onward.repeated (h : body.Onward) (least : Nat) (most : Option Nat) (lazy : Bool) :
    (repeated body least most lazy).Onward := by
  intro c next d hd
  obtain ⟨e, hreach, he⟩ := h.times least _ _ _ hd
  obtain ⟨e', hreach', hnext⟩ := h.further lazy _ _ none _ _ _ he
  exact ⟨e', hreach.trans hreach', hnext⟩

end Step

theorem Node.onward_matchThen (node : Node) : Step.Onward node.matchThen := by
  induction node with
  | empty => exact fun c _ _ hd => ⟨c, .refl c, hd⟩
  | one test =>
      intro c next d hd
      rw [matchThen] at hd
      cases hrest : c.rest with
      | nil => simp [hrest] at hd
      | cons x rest =>
          rw [hrest] at hd
          dsimp only at hd
          split at hd
          · exact ⟨_, Cursor.reaches_step hrest, hd⟩
          · cases hd
  | atStart =>
      intro c next d hd
      rw [matchThen] at hd
      split at hd
      · exact ⟨c, .refl c, hd⟩
      · cases hd
  | atEnd =>
      intro c next d hd
      rw [matchThen] at hd
      split at hd
      · exact ⟨c, .refl c, hd⟩
      · cases hd
  | both first second ih ih' =>
      intro c next d hd
      obtain ⟨e, hreach, he⟩ := ih _ _ _ hd
      obtain ⟨e', hreach', hnext⟩ := ih' _ _ _ he
      exact ⟨e', hreach.trans hreach', hnext⟩
  | either first second ih ih' =>
      intro c next d hd
      rcases Step.eq_some_of_orElse hd with hd | hd
      · exact ih _ _ _ hd
      · exact ih' _ _ _ hd
  | group number body ih =>
      intro c next d hd
      obtain ⟨e, hreach, he⟩ := ih _ _ _ hd
      exact ⟨_, hreach.capture c number, he⟩
  | repeated body least most mode ih =>
      cases mode with
      | greedy => exact ih.repeated least most false
      | lazy => exact ih.repeated least most true
      | possessive => exact (ih.once.repeated least most false).once

namespace Pattern

variable {p : Pattern} {n : Nat} {t : Text} {h : Hit}

/-- A match ends at a place that is reached, and not where it began if it must have a character. -/
theorem exists_end {nonempty : Bool} (hmatch : p.matchAt? n t nonempty = some h) :
    ∃ e : Cursor, Cursor.Reaches ⟨n, t, []⟩ e ∧ h.text = e.since ⟨n, t, []⟩ ∧
      (nonempty = true → e.position ≠ n) := by
  obtain ⟨d, hd, rfl⟩ := Option.map_eq_some_iff.mp hmatch
  obtain ⟨e, hreach, haccept⟩ := p.root.onward_matchThen _ _ _ hd
  split at haccept
  · cases haccept
  · next hmoved =>
      obtain rfl := Option.some.inj haccept
      refine ⟨e, hreach, rfl, fun hnonempty hstay => hmoved ?_⟩
      simp [hnonempty, hstay]

/-- A match is the text that stands at its place. -/
theorem text_begins {nonempty : Bool} (hmatch : p.matchAt? n t nonempty = some h) :
    h.text <+: t := by
  obtain ⟨e, hreach, htext, -⟩ := exists_end hmatch
  exact ⟨e.rest, by rw [htext]; exact hreach.rest_eq.symm⟩

theorem text_ne_nil (hmatch : p.matchAt? n t true = some h) : h.text ≠ [] := by
  obtain ⟨e, ⟨w, hw, hposition⟩, htext, hmoved⟩ := exists_end hmatch
  have hsame : h.text = w := by
    rw [htext, Cursor.since, hposition, Nat.add_sub_cancel_left, hw, List.take_left]
  intro hnil
  apply hmoved rfl
  rw [hposition, ← hsame, hnil]
  rfl

end Pattern

end Hypertag
