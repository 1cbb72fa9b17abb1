import Hypertag.Command.Run
import Hypertag.Proofs.Json.RoundTrip

/-!
# Queries rebuilt from data

A query is rebuilt from a dictionary by looking its fields up by their names, whatever their order and
whatever other fields there are. The document of a query gives the query back, and JSON keeps it.
-/

namespace Hypertag

open Json (named IsDocument)

/-! ## Fields -/

namespace Value

def field? (name : Text) : Value → Option Value
  | .dict entries => (entries.find? fun entry => entry.1.equals (.text name)).map (·.2)
  | _ => none

def text? : Value → Option Text
  | .text t => some t
  | _ => none

/-- Null stands for a text that is absent, and nothing else does. -/
def optionalText? : Value → Option (Option Text)
  | .null => some none
  | .text t => some (some t)
  | _ => none

def listOf? {α : Type} (read : Value → Option α) : Value → Option (List α)
  | .list items => items.mapM read
  | _ => none

/-- With different names, each entry is found under its own. -/
theorem field?_of_mem {entries : List (Text × Value)} (h : (entries.map Prod.fst).Nodup) {name : Text}
    {v : Value} (hmem : (name, v) ∈ entries) : field? name (.dict (named entries)) = some v := by
  induction entries with
  | nil => cases hmem
  | cons entry entries ih =>
      obtain ⟨other, w⟩ := entry
      simp only [List.map_cons, List.nodup_cons] at h
      rcases List.mem_cons.mp hmem with heq | hmem
      · obtain ⟨rfl, rfl⟩ := Prod.mk.inj heq
        simp [field?, Json.named_cons, equals]
      · have hne : other ≠ name := fun heq => h.1 (heq ▸ List.mem_map_of_mem hmem)
        have hrest := ih h.2 hmem
        simpa [field?, Json.named_cons, equals, hne] using hrest

theorem optionalText?_optionalValue (t : Option Text) : (optionalValue t).optionalText? = some t := by
  cases t <;> rfl

theorem listOf?_map {α : Type} {read : Value → Option α} {write : α → Value}
    (h : ∀ a, read (write a) = some a) (as : List α) :
    listOf? read (.list (as.map write)) = some as := by
  unfold listOf?
  induction as with
  | nil => rfl
  | cons a as ih => simp [h, ih]

end Value

/-! ## Selectors -/

namespace Selector

def ofDocument? (v : Value) : Option Selector := do
  let kind ← SelectorKind.ofName? (← (← v.field? "kind").text?)
  let element ← (← v.field? "element").optionalText?
  let id ← (← v.field? "id").optionalText?
  let classes ← (← v.field? "classes").listOf? Value.text?
  let traversal ← Traversal.ofName? (← (← v.field? "traversal").text?)
  build? kind ⟨element, id, classes⟩ traversal

theorem nodup_entries (s : Selector) : (s.entries.map Prod.fst).Nodup := by
  show List.Nodup [("kind" : Text), "element", "id", "classes", "traversal"]
  decide

/-- Other fields beside those of a selector change nothing. -/
theorem ofDocument?_of_fields {s : Selector} {v : Value}
    (h : ∀ name w, (name, w) ∈ s.entries → v.field? name = some w) : ofDocument? v = some s := by
  have hkind := h "kind" (.text s.kind.name) (by simp [entries])
  have helement := h "element" (optionalValue s.parts.element) (by simp [entries])
  have hid := h "id" (optionalValue s.parts.id) (by simp [entries])
  have hclasses := h "classes" (.list (s.parts.classes.map .text)) (by simp [entries])
  have htraversal := h "traversal" (.text s.traversal.name) (by simp [entries])
  have hnames := Value.listOf?_map (fun t => (rfl : (Value.text t).text? = some t)) s.parts.classes
  unfold ofDocument?
  rw [hkind, helement, hid, hclasses, htraversal]
  simp only [Option.bind_eq_bind, Option.bind_some, Value.text?, SelectorKind.ofName?_name,
    Traversal.ofName?_name, Value.optionalText?_optionalValue, hnames]
  exact build?_kind_parts s

theorem ofDocument?_toValue (s : Selector) : ofDocument? s.toValue = some s :=
  ofDocument?_of_fields fun _ _ hmem => Value.field?_of_mem s.nodup_entries hmem

theorem isDocument_optionalValue (levels : Nat) (t : Option Text) :
    IsDocument levels (optionalValue t) := by
  cases t with
  | none => exact .null
  | some t => exact .text t

theorem isDocument_of_mem_entries {s : Selector} {entry : Text × Value} (h : entry ∈ s.entries)
    (levels : Nat) : IsDocument (levels + 1) entry.2 := by
  simp only [entries, List.mem_cons, List.not_mem_nil, or_false] at h
  rcases h with rfl | rfl | rfl | rfl | rfl
  · exact .text _
  · exact isDocument_optionalValue _ _
  · exact isDocument_optionalValue _ _
  · apply IsDocument.list
    intro v hv
    obtain ⟨t, -, rfl⟩ := List.mem_map.mp hv
    exact .text t
  · exact .text _

theorem isDocument_toValue (s : Selector) : IsDocument 2 s.toValue :=
  .dict s.nodup_entries fun _ hmem => isDocument_of_mem_entries hmem 0

end Selector

/-! ## Queries -/

def SelectorList.ofDocument? (v : Value) : Option SelectorList := do
  ofMembers? (← (← v.field? "selectors").listOf? Selector.ofDocument?)

namespace Query

def ofDocument? (v : Value) : Option Query := do
  let kind ← (← v.field? "type").text?
  if kind = "selector".toList then (Selector.ofDocument? v).map .single
  else if kind = "selector_list".toList then (SelectorList.ofDocument? v).map .list
  else none

def documentEntries (q : Query) : List (Text × Value) :=
  ("type", .text q.kindName) :: ("formatted", .text q.format) :: q.entries

theorem selectorDocument_eq (q : Query) :
    Command.selectorDocument q = .dict (named q.documentEntries) := rfl

theorem nodup_documentEntries (q : Query) : (q.documentEntries.map Prod.fst).Nodup := by
  cases q with
  | single s =>
      show List.Nodup
        [("type" : Text), "formatted", "kind", "element", "id", "classes", "traversal"]
      decide
  | list l =>
      show List.Nodup [("type" : Text), "formatted", "selectors"]
      decide

theorem field?_selectorDocument (q : Query) {name : Text} {v : Value}
    (h : (name, v) ∈ q.documentEntries) : (Command.selectorDocument q).field? name = some v := by
  rw [selectorDocument_eq]
  exact Value.field?_of_mem q.nodup_documentEntries h

theorem mem_documentEntries_of_mem_entries {q : Query} {entry : Text × Value} (h : entry ∈ q.entries) :
    entry ∈ q.documentEntries :=
  List.mem_cons_of_mem _ (List.mem_cons_of_mem _ h)

theorem type_selectorDocument (q : Query) :
    (Command.selectorDocument q).field? "type" = some (.text q.kindName) :=
  field?_selectorDocument q List.mem_cons_self

theorem formatted_selectorDocument (q : Query) :
    (Command.selectorDocument q).field? "formatted" = some (.text q.format) :=
  field?_selectorDocument q (List.mem_cons_of_mem _ List.mem_cons_self)

theorem ofDocument?_singleDocument (s : Selector) :
    Selector.ofDocument? (Command.selectorDocument (.single s)) = some s := by
  apply Selector.ofDocument?_of_fields
  intro name w hmem
  exact field?_selectorDocument (.single s) (mem_documentEntries_of_mem_entries hmem)

theorem ofDocument?_listDocument (l : SelectorList) :
    SelectorList.ofDocument? (Command.selectorDocument (.list l)) = some l := by
  have hfield : (Command.selectorDocument (.list l)).field? "selectors" =
      some (.list (l.members.map Selector.toValue)) :=
    field?_selectorDocument (.list l) (mem_documentEntries_of_mem_entries List.mem_cons_self)
  unfold SelectorList.ofDocument?
  rw [hfield, Option.bind_eq_bind, Option.bind_some,
    Value.listOf?_map Selector.ofDocument?_toValue, Option.bind_eq_bind, Option.bind_some]
  exact SelectorList.ofMembers?_members l

/-- The document of a query describes this query and no other. -/
theorem ofDocument?_selectorDocument (q : Query) :
    ofDocument? (Command.selectorDocument q) = some q := by
  unfold ofDocument?
  rw [type_selectorDocument, Option.bind_eq_bind, Option.bind_some]
  cases q with
  | single s =>
      rw [ofDocument?_singleDocument]
      rfl
  | list l =>
      rw [ofDocument?_listDocument]
      rfl

theorem isDocument_selectorDocument (q : Query) : IsDocument 4 (Command.selectorDocument q) := by
  rw [selectorDocument_eq]
  apply IsDocument.dict q.nodup_documentEntries
  intro entry hentry
  rcases List.mem_cons.mp hentry with rfl | hentry
  · exact .text _
  rcases List.mem_cons.mp hentry with rfl | hentry
  · exact .text _
  cases q with
  | single s => exact Selector.isDocument_of_mem_entries hentry 2
  | list l =>
      obtain rfl := List.mem_singleton.mp hentry
      apply IsDocument.list
      intro v hv
      obtain ⟨s, -, rfl⟩ := List.mem_map.mp hv
      exact s.isDocument_toValue

end Query

end Hypertag
