import Hypertag.Report

/-!
# What reports tell

A report is known by its parts: its category, its message, the code that goes with the category, the
details by name and the attributes.
-/

namespace Hypertag.Report

structure Tells (r : Report) (category : Category) (message code : Text)
    (details attributes : List (Text × Value)) : Prop where
  category : r.category = category
  message : r.message = .text message
  code : r.code = .text code
  details : r.details = .dict (details.map fun (name, v) => (.text name, v))
  attributes : r.attributes = attributes

/-- The file is among the details, and no setting is named. -/
theorem tells_ofSettings (message : Text) (p : Path) :
    (ofSettings message p).Tells .configuration message "CONFIGURATION_ERROR"
      [("path", .text p.text)] [("config_key", .null)] :=
  ⟨rfl, rfl, rfl, rfl, rfl⟩

/-! ## Selectors -/

/-- A detail that is not there yet is put behind the one that is. -/
theorem addDetail_of_ne {name other : Text} (h : other ≠ name) (v w : Value) :
    addDetail [(.text other, v)] name w = [(.text other, v), (.text name, w)] := by
  have hother : [(Value.text other, v)].any (·.1.equals (.text name)) = false := by
    simpa [Value.equals] using h
  rw [addDetail, if_neg (by simp [hother])]
  rfl

/-- The token is an attribute, and stands among the details after the selector. -/
theorem tells_unsupported (token : Unsupported) (t : Text) :
    (ofSelectorError (.unsupported token t)).Tells .unsupportedToken token.message
      "UNSUPPORTED_TOKEN" [("selector", .text t), ("character", .text [token.character])]
      [("character", .text [token.character])] :=
  ⟨rfl, rfl, rfl, congrArg Value.dict (addDetail_of_ne (by decide) _ _), rfl⟩

/-- So does the end of the selector at which a `>` stands. -/
theorem tells_dangling (place : ChainEnd) (t : Text) :
    (ofSelectorError (.dangling place t)).Tells .danglingCombinator
      (SelectorError.dangling place t).message "DANGLING_COMBINATOR"
      [("selector", .text t), ("position", .text place.name)]
      [("position", .text place.name)] :=
  ⟨rfl, rfl, rfl, congrArg Value.dict (addDetail_of_ne (by decide) _ _), rfl⟩

theorem tells_notText (typeName : Text) :
    (ofSelectorError (.notText typeName)).Tells .selectorType
      ("Cannot parse a selector from " ++ typeName) "SELECTOR_TYPE_ERROR" []
      [("value_type", .text typeName)] :=
  ⟨rfl, rfl, rfl, rfl, rfl⟩

end Hypertag.Report
