import Hypertag.Command.Arguments
import Hypertag.Proofs.Results

/-!
# How arguments are read

An argument ends the options, is refused, is complete by itself, or takes the one after it as its value.
What the arguments before it gave does not matter to it, so arguments in a row can be read one part
after the other.
-/

namespace Hypertag.Command

variable {κ : Type} {specs : List (OptionSpec κ)} {interspersed : Bool}

/-- What is read later stands behind what was read before. -/
def Parsed.append (p q : Parsed κ) : Parsed κ := ⟨p.options ++ q.options, p.operands ++ q.operands⟩

/-- How an argument is read, whatever stands behind it. -/
inductive Reads (specs : List (OptionSpec κ)) (interspersed : Bool) (argument : Text) : Prop where
  | mark (is : argument = ['-', '-'])
  | operand (read : ∀ rest,
      parse specs interspersed (argument :: rest) = .ok ⟨[], argument :: rest⟩)
  | refused (e : OptionFault)
      (read : ∀ rest, parse specs interspersed (argument :: rest) = .error e)
  | complete (p : Parsed κ)
      (read : ∀ rest, parse specs interspersed (argument :: rest) =
        (parse specs interspersed rest).map p.append)
  | pending (name : Text) (p : Text → Parsed κ)
      (alone : parse specs interspersed [argument] = .error (.needsValue name))
      (read : ∀ value rest, parse specs interspersed (argument :: value :: rest) =
        (parse specs interspersed rest).map (p value).append)

theorem parse_mark (rest : List Text) :
    parse specs interspersed (['-', '-'] :: rest) = .ok ⟨[], rest⟩ := by
  rw [parse, if_pos rfl]

/-- An option that is known by the whole of its name. -/
theorem reads_known {argument : Text} {spec : OptionSpec κ} (hmark : argument ≠ ['-', '-'])
    (hoption : isOption argument = true)
    (hfound : specs.find? (·.long == (splitAttached argument).1) = some spec) :
    Reads specs interspersed argument := by
  cases htakes : spec.takesValue with
  | true =>
      cases hattached : (splitAttached argument).2 with
      | some value =>
          refine .complete ⟨[(spec.key, value)], []⟩ fun rest => ?_
          rw [parse.eq_def]
          simp only [if_neg hmark, if_pos hoption, hfound, htakes, hattached]
          rfl
      | none =>
          refine .pending (splitAttached argument).1 (fun value => ⟨[(spec.key, value)], []⟩) ?_ ?_
          · rw [parse.eq_def]
            simp only [if_neg hmark, if_pos hoption, hfound, htakes, hattached]
          · intro value rest
            rw [parse.eq_def]
            simp only [if_neg hmark, if_pos hoption, hfound, htakes, hattached]
            rfl
  | false =>
      cases hattached : (splitAttached argument).2 with
      | some value =>
          refine .refused (.takesNoValue (splitAttached argument).1) fun rest => ?_
          rw [parse.eq_def]
          simp only [if_neg hmark, if_pos hoption, hfound, htakes, hattached]
      | none =>
          refine .complete ⟨[(spec.key, [])], []⟩ fun rest => ?_
          rw [parse.eq_def]
          simp only [if_neg hmark, if_pos hoption, hfound, htakes, hattached]
          rfl

/-- An option whose name is unknown may be short ones that are joined. -/
theorem reads_unknown {argument : Text} (hmark : argument ≠ ['-', '-'])
    (hoption : isOption argument = true)
    (hnone : specs.find? (·.long == (splitAttached argument).1) = none) :
    Reads specs interspersed argument := by
  by_cases hlong : ['-', '-'].isPrefixOf argument = true
  · refine .refused (.noSuchOption (splitAttached argument).1) fun rest => ?_
    rw [parse.eq_def]
    simp only [if_neg hmark, if_pos hoption, hnone, if_pos hlong]
  cases hcluster : readCluster specs (argument.drop 1) with
  | error e =>
      refine .refused e fun rest => ?_
      rw [parse.eq_def]
      simp only [if_neg hmark, if_pos hoption, hnone, if_neg hlong, hcluster]
  | ok read =>
      obtain ⟨done, last⟩ := read
      cases last with
      | none =>
          refine .complete ⟨done, []⟩ fun rest => ?_
          rw [parse.eq_def]
          simp only [if_neg hmark, if_pos hoption, hnone, if_neg hlong, hcluster]
          rfl
      | some last =>
          obtain ⟨key, name⟩ := last
          refine .pending name (fun value => ⟨done ++ [(key, value)], []⟩) ?_ ?_
          · rw [parse.eq_def]
            simp only [if_neg hmark, if_pos hoption, hnone, if_neg hlong, hcluster]
          · intro value rest
            rw [parse.eq_def]
            simp only [if_neg hmark, if_pos hoption, hnone, if_neg hlong, hcluster]
            refine congrArg (Except.map · _) (funext fun q => ?_)
            simp [Parsed.append]

theorem reads_operand {argument : Text} (hmark : argument ≠ ['-', '-'])
    (hoption : isOption argument = false) : Reads specs interspersed argument := by
  cases interspersed with
  | true =>
      refine .complete ⟨[], [argument]⟩ fun rest => ?_
      rw [parse.eq_def]
      simp only [if_neg hmark, hoption]
      rfl
  | false =>
      refine .operand fun rest => ?_
      rw [parse.eq_def]
      simp only [if_neg hmark, hoption]
      rfl

theorem reads (specs : List (OptionSpec κ)) (interspersed : Bool) (argument : Text) :
    Reads specs interspersed argument := by
  by_cases hmark : argument = ['-', '-']
  · exact .mark hmark
  cases hoption : isOption argument with
  | false => exact reads_operand hmark hoption
  | true =>
      cases hfound : specs.find? (·.long == (splitAttached argument).1) with
      | some spec => exact reads_known hmark hoption hfound
      | none => exact reads_unknown hmark hoption hfound

/-- Induction over arguments by how the first of them is read. -/
theorem induction_on_reads (specs : List (OptionSpec κ)) (interspersed : Bool)
    {P : List Text → Prop} (nil : P [])
    (mark : ∀ rest, P (['-', '-'] :: rest))
    (operand : ∀ argument rest,
      (∀ rest, parse specs interspersed (argument :: rest) = .ok ⟨[], argument :: rest⟩) →
      P (argument :: rest))
    (refused : ∀ argument rest (e : OptionFault),
      (∀ rest, parse specs interspersed (argument :: rest) = .error e) → P (argument :: rest))
    (complete : ∀ argument rest (p : Parsed κ),
      (∀ rest, parse specs interspersed (argument :: rest) =
        (parse specs interspersed rest).map p.append) →
      P rest → P (argument :: rest))
    (alone : ∀ argument (name : Text),
      parse specs interspersed [argument] = .error (.needsValue name) → P [argument])
    (pending : ∀ argument value rest (p : Parsed κ),
      (∀ rest, parse specs interspersed (argument :: value :: rest) =
        (parse specs interspersed rest).map p.append) →
      P rest → P (argument :: value :: rest))
    (arguments : List Text) : P arguments := by
  induction hn : arguments.length using Nat.strongRecOn generalizing arguments with
  | ind n ih =>
      cases arguments with
      | nil => exact nil
      | cons argument rest =>
          rw [List.length_cons] at hn
          cases reads specs interspersed argument with
          | mark is =>
              rw [is]
              exact mark rest
          | operand read => exact operand argument rest read
          | refused e read => exact refused argument rest e read
          | complete p read =>
              exact complete argument rest p read (ih rest.length (by omega) rest rfl)
          | pending name p last read =>
              cases rest with
              | nil => exact alone argument name last
              | cons value rest =>
                  rw [List.length_cons] at hn
                  exact pending argument value rest (p value) (read value)
                    (ih rest.length (by omega) rest rfl)

/-! ## One part after the other -/

/-- How arguments go on when none of them waits for a value: what they give stands, and those behind them
are refused with them, are all operands, or are read as they are by themselves. -/
inductive Continues (specs : List (OptionSpec κ)) (interspersed : Bool) (before : List Text) :
    Except OptionFault (Parsed κ) → Prop where
  | refused (e : OptionFault)
      (read : ∀ rest, parse specs interspersed (before ++ rest) = .error e) :
      Continues specs interspersed before (.error e)
  | ended (p : Parsed κ)
      (read : ∀ rest, parse specs interspersed (before ++ rest) =
        .ok ⟨p.options, p.operands ++ rest⟩) :
      Continues specs interspersed before (.ok p)
  | goes (p : Parsed κ)
      (read : ∀ rest, parse specs interspersed (before ++ rest) =
        (parse specs interspersed rest).map p.append) :
      Continues specs interspersed before (.ok p)

theorem Parsed.append_assoc (p q r : Parsed κ) :
    (p.append q).append r = p.append (q.append r) := by
  simp [append]

theorem Continues.behind {before after : List Text} {r : Except OptionFault (Parsed κ)}
    {p : Parsed κ} (h : Continues specs interspersed after r)
    (read : ∀ rest, parse specs interspersed (before ++ rest) =
      (parse specs interspersed (after ++ rest)).map p.append) :
    Continues specs interspersed before (r.map p.append) := by
  cases h with
  | refused e hafter =>
      refine .refused e fun rest => ?_
      rw [read, hafter]
      rfl
  | ended q hafter =>
      refine .ended (p.append q) fun rest => ?_
      rw [read, hafter]
      simp [Except.map, Parsed.append]
  | goes q hafter =>
      refine .goes (p.append q) fun rest => ?_
      rw [read, hafter]
      cases parse specs interspersed rest with
      | error e => rfl
      | ok r => simp [Except.map, Parsed.append_assoc]

theorem continues {before : List Text}
    (h : ∀ name, parse specs interspersed before ≠ .error (.needsValue name)) :
    Continues specs interspersed before (parse specs interspersed before) := by
  induction before using induction_on_reads specs interspersed with
  | nil =>
      rw [parse]
      refine .goes _ fun rest => ?_
      cases hrest : parse specs interspersed rest with
      | error e => simp [hrest, Except.map]
      | ok p => simp [hrest, Except.map, Parsed.append]
  | mark before =>
      rw [parse_mark]
      exact .ended _ fun rest => parse_mark _
  | operand argument before read =>
      rw [read]
      exact .ended _ fun rest => read _
  | refused argument before e read =>
      rw [read]
      exact .refused e fun rest => read _
  | complete argument before p read ih =>
      have hbefore : ∀ name, parse specs interspersed before ≠ .error (.needsValue name) := by
        intro name hname
        exact h name (by rw [read, hname]; rfl)
      rw [read]
      exact (ih hbefore).behind fun rest => read _
  | alone argument name last => exact absurd last (h name)
  | pending argument value before p read ih =>
      have hbefore : ∀ name, parse specs interspersed before ≠ .error (.needsValue name) := by
        intro name hname
        exact h name (by rw [read, hname]; rfl)
      rw [read]
      exact (ih hbefore).behind fun rest => read _

section Parts

variable {before : List Text} {options : List (κ × Text)}

/-- What stands behind a mark are operands, whatever they look like. -/
theorem exists_parse_marked
    (h : ∀ name, parse specs interspersed before ≠ .error (.needsValue name)) :
    ∃ r : Except OptionFault (Parsed κ), ∀ words,
      parse specs interspersed (before ++ ['-', '-'] :: words) =
        r.map fun p => ⟨p.options, p.operands ++ words⟩ := by
  have hcontinues := continues h
  generalize parse specs interspersed before = r at hcontinues
  cases hcontinues with
  | refused e read => exact ⟨.error e, fun words => read _⟩
  | ended p read =>
      refine ⟨.ok ⟨p.options, p.operands ++ [['-', '-']]⟩, fun words => ?_⟩
      rw [read]
      simp [Except.map]
  | goes p read =>
      refine ⟨.ok p, fun words => ?_⟩
      rw [read, parse_mark]
      simp [Except.map, Parsed.append]

/-- Operands that end the options do so behind other options as well. -/
theorem parse_append_operands {rest : List Text}
    (h : parse specs interspersed before = .ok ⟨options, []⟩)
    (hrest : parse specs interspersed rest = .ok ⟨[], rest⟩) :
    parse specs interspersed (before ++ rest) = .ok ⟨options, rest⟩ := by
  have hwaits : ∀ name, parse specs interspersed before ≠ .error (.needsValue name) := by
    rw [h]
    exact fun _ hname => by cases hname
  have hcontinues := continues hwaits
  rw [h] at hcontinues
  cases hcontinues with
  | ended p read => exact read rest
  | goes p read =>
      rw [read, hrest]
      simp [Except.map, Parsed.append]

end Parts

/-! ## The options of a command -/

/-- What comes of options that were read: a fault is reported, and help or version are given at once. -/
def accept (root : Root) (v : Verb) : Except OptionFault (Parsed Key) → Except Halt (Parsed Key)
  | .error e => .error (e.halt v)
  | .ok p =>
      match shown? root v p.options with
      | some halt => .error halt
      | none => .ok p

theorem readOptions_eq_accept {v : Verb} {arguments : List Text}
    (h : (v.isGroup && arguments.isEmpty) = false) (root : Root) :
    readOptions root v arguments = accept root v (parse v.specs (!v.isGroup) arguments) := by
  rw [readOptions, h]
  cases parse v.specs (!v.isGroup) arguments with
  | error e => rfl
  | ok p => rfl

theorem accept_eq_ok {root : Root} {v : Verb} {r : Except OptionFault (Parsed Key)} {p : Parsed Key}
    (h : accept root v r = .ok p) : r = .ok p := by
  cases r with
  | error e => cases h
  | ok q =>
      rw [accept] at h
      split at h
      · cases h
      · rw [Except.ok.inj h]

theorem parse_of_readOptions {root : Root} {v : Verb} {arguments : List Text} {p : Parsed Key}
    (h : readOptions root v arguments = .ok p) :
    parse v.specs (!v.isGroup) arguments = .ok p := by
  cases hempty : v.isGroup && arguments.isEmpty with
  | true =>
      rw [readOptions, hempty] at h
      cases h
  | false =>
      rw [readOptions_eq_accept hempty] at h
      exact accept_eq_ok h

/-- Operands do not matter to the options before them. -/
theorem accept_map_operands (root : Root) (v : Verb) (r : Except OptionFault (Parsed Key))
    (f : List Text → List Text) :
    accept root v (r.map fun p => ⟨p.options, f p.operands⟩) =
      (accept root v r).map fun p => ⟨p.options, f p.operands⟩ := by
  cases r with
  | error e => rfl
  | ok p =>
      simp only [Except.map, accept]
      cases shown? root v p.options with
      | none => rfl
      | some halt => rfl

/-- The settings file that is named must be one that can be looked at. -/
def checkSettings (w : Workspace) : Option Text → Except Halt Unit
  | some t => checkConfigPath w t
  | none => .ok ()

theorem readGroup_eq_check (root : Root) (w : Workspace) (v : Verb) (arguments : List Text) :
    readGroup root w v arguments =
      match readOptions root v arguments with
      | .error halt => .error halt
      | .ok p => (checkSettings w (p.value? .config)).map fun _ => p := by
  rw [readGroup]
  cases readOptions root v arguments with
  | error halt => rfl
  | ok p =>
      simp only [bind, Except.bind]
      cases p.value? .config with
      | none => rfl
      | some t =>
          simp only [checkSettings]
          cases checkConfigPath w t with
          | error halt => rfl
          | ok _ => rfl

theorem parse_of_readGroup {root : Root} {w : Workspace} {v : Verb} {arguments : List Text}
    {p : Parsed Key} (h : readGroup root w v arguments = .ok p) :
    parse v.specs (!v.isGroup) arguments = .ok p := by
  rw [readGroup_eq_check] at h
  split at h
  · cases h
  · next q hoptions =>
      obtain ⟨_, -, rfl⟩ := exists_of_map_ok h
      exact parse_of_readOptions hoptions

end Hypertag.Command
