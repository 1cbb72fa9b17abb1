import Hypertag.Proofs.Scan.Literal

/-!
# One division of a text

A search divides a text into its matches and the texts between them, and every scan tells of the same
division, each in a loop of its own. Of the engine that finds the matches nothing is used but that a
match is the text that stands at its place, and that one that must have a character has one. So it makes
no difference what the notation of patterns can say.
-/

namespace Hypertag

namespace Pattern

theorem doubled_of_notMem {r : Text} (hr : '\\' ∉ r) : doubled r = r := by
  induction r with
  | nil => rfl
  | cons c r ih =>
      rw [List.mem_cons, not_or] at hr
      have hc : (c == '\\') = false := by simpa using Ne.symm hr.1
      have hrest := ih hr.2
      rw [doubled, backslashed] at hrest ⊢
      rw [List.flatMap_cons, hrest, hc]
      rfl

end Pattern

namespace Needle

/-- A literal with a character, or an engine whose matches have no groups. -/
def Plain : Needle → Prop
  | .literal p => p ≠ []
  | .pattern e => e.groups = []

/-- The results of all scans of a text are read off these pieces of it. -/
structure Sees (n : Needle) (t : Text) (ps : List Piece) : Prop where
  text : ps.flatMap Piece.text = t
  detect : n.detect t = ps.any fun piece => piece.hit?.isSome
  matchFirst? : n.matchFirst? t = (Pieces.hits ps).head?.map (·.text)
  matchAll : n.matchAll t = (Pieces.hits ps).map (·.text)
  split : n.split t = .ok ((Pieces.between ps).map some)
  replaceFirst : ∀ r, '\\' ∉ r → n.replaceFirst r t = .ok (Pieces.fillFirst (fun _ => r) ps)
  replaceAll : ∀ r, '\\' ∉ r → n.replaceAll r t = .ok (Pieces.fillAll (fun _ => r) ps)

theorem sees_literal {p t : Text} {ps : List Piece} (hp : p ≠ [])
    (h : Scanned (Literal.measure p) 0 t ps) : (literal p).Sees t ps where
  text := h.flatMap_text
  detect := Literal.detect_eq_pieces hp h
  matchFirst? := Literal.matchFirst?_eq_pieces hp h
  matchAll := Literal.matchAll_eq_pieces hp h
  split := by rw [Needle.split, Literal.split?_eq_pieces hp h]
  replaceFirst r _ := congrArg Except.ok (Literal.replaceFirst_eq_pieces hp h r)
  replaceAll r _ := congrArg Except.ok (Literal.replaceAll_eq_pieces hp h r)

/-- A template without a backslash is what each match is replaced by. -/
theorem readTemplate_plain (e : Engine) {r : Text} (hr : '\\' ∉ r) :
    readTemplate e r = .ok (r.map fun c => .text [c]) := by
  rw [← readTemplate_doubled, Pattern.doubled_of_notMem hr]

theorem sees_pattern {e : Engine} (hgroups : e.groups = []) (t : Text) :
    (pattern e).Sees t (e.pieces t) where
  text := e.flatMap_text_pieces t
  detect := e.detect_eq_pieces t
  matchFirst? := e.matchFirst?_eq_pieces t
  matchAll := e.matchAll_eq_pieces t
  split := by
    rw [Needle.split, e.split_eq_pieces, hgroups, List.length_nil, Pieces.withGroups_zero]
  replaceFirst r hr := by
    rw [Needle.replaceFirst, readTemplate_plain e hr, Except.map, e.replace_one_eq_pieces,
      funext (Pattern.Replacement.expand_map_text r)]
  replaceAll r hr := by
    rw [Needle.replaceAll, readTemplate_plain e hr, Except.map, e.replace_all_eq_pieces,
      funext (Pattern.Replacement.expand_map_text r)]

theorem exists_sees {n : Needle} (h : n.Plain) (t : Text) : ∃ ps, n.Sees t ps := by
  cases n with
  | literal p =>
      obtain ⟨ps, hs⟩ := Literal.exists_scanned p t
      exact ⟨ps, sees_literal h hs⟩
  | pattern e => exact ⟨_, sees_pattern h t⟩

/-- All scans see one sequence of matches, whatever engine finds them, as long as it has no groups, and
alike for a literal that is not empty. The texts between the matches are one more than they are; in turn
with them they are the text; put together with a replacement between each two they are the text with
all matches replaced. The matches of an engine are all that its searches find, up to the one that finds
none. -/
theorem operations_share_matches (n : Needle) (hn : n.Plain) (t : Text) :
    (∀ e, n = .pattern e → ∃ os, e.Run t 0 false os ∧ n.matchAll t = os.map (·.hit.text)) ∧
    ∃ parts, n.split t = .ok (parts.map some) ∧
      parts.length = (n.matchAll t).length + 1 ∧
      alternate parts (n.matchAll t) = t ∧
      (n.detect t = true ↔ n.matchAll t ≠ []) ∧
      n.matchFirst? t = (n.matchAll t).head? ∧
      ∀ r, '\\' ∉ r →
        n.replaceAll r t = .ok (Text.join r parts) ∧
        n.replaceFirst r t = .ok (replacedFirst r t parts (n.matchAll t)) := by
  obtain ⟨ps, hsees⟩ := exists_sees hn t
  refine ⟨?_, Pieces.between ps, hsees.split, ?_, ?_, ?_, ?_, fun r hr => ⟨?_, ?_⟩⟩
  · rintro e rfl
    exact ⟨e.occurrences t, e.run_occurrences t, rfl⟩
  · rw [hsees.matchAll, List.length_map, Pieces.length_between]
  · rw [hsees.matchAll, Pieces.alternate_between, hsees.text]
  · rw [hsees.detect, hsees.matchAll, Pieces.any_hit]
    simp
  · rw [hsees.matchFirst?, hsees.matchAll, List.head?_map]
  · rw [hsees.replaceAll r hr, Pieces.fillAll_eq_join]
  · rw [hsees.replaceFirst r hr, Pieces.fillFirst_eq_replacedFirst, hsees.text, hsees.matchAll]

end Needle

/-- Matches nothing wherever a word begins or ends, which takes a look at the character before. -/
def Engine.wordEdges : Engine where
  groups := []
  matchAt? t n nonempty :=
    if !nonempty && (t.take n).getLast?.any isWordChar != (t.drop n).head?.any isWordChar then
      some ⟨[], []⟩
    else none
  stands t n nonempty h _ hmatch := by
    split at hmatch
    · obtain rfl := Option.some.inj hmatch
      exact List.nil_prefix
    · cases hmatch
  moves t n h hmatch := by simp at hmatch

/-- A pattern that matches nothing as well as something, next to a match that is not empty, and an engine
that asks what stands before a place. -/
theorem Needle.empty_matches_shared :
    (∃ n, read "x*".toList false = .ok n ∧ n.Plain ∧
      n.matchAll "axb".toList = [[], ['x'], [], []] ∧
      ∃ parts : List Text, n.split "axb".toList = .ok (parts.map some) ∧
        alternate parts (n.matchAll "axb".toList) = "axb".toList ∧
        n.replaceAll "-".toList "axb".toList = .ok (Text.join "-".toList parts)) ∧
    (pattern .wordEdges).matchAll "a b".toList = [[], [], [], []] ∧
    ∃ parts : List Text, (pattern .wordEdges).split "a b".toList = .ok (parts.map some) ∧
      parts.length = 5 := by
  have hread : Pattern.read "x*".toList =
      .ok ⟨.repeated (.one (.exactly 'x')) 0 none .greedy, []⟩ := rfl
  have hedges : (pattern .wordEdges).matchAll "a b".toList = [[], [], [], []] := by decide
  refine ⟨⟨_, read_of_pattern hread, rfl, by decide, ?_⟩, hedges, ?_⟩
  · obtain ⟨-, parts, hsplit, -, hrebuilt, -, -, hreplaced⟩ :=
      operations_share_matches (.pattern (Pattern.engine
        ⟨.repeated (.one (.exactly 'x')) 0 none .greedy, []⟩)) rfl "axb".toList
    exact ⟨parts, hsplit, hrebuilt, (hreplaced "-".toList (by decide)).1⟩
  · obtain ⟨-, parts, hsplit, hlength, -⟩ :=
      operations_share_matches (.pattern .wordEdges) rfl "a b".toList
    rw [hedges] at hlength
    exact ⟨parts, hsplit, hlength⟩

end Hypertag
