import CodeCensus.Value.Basic

/-!
# Fields of a value

The fields of a map by their names, each as the kind of value that it is expected to be.

Contents: `Value.intAt?`, `Value.floatAt?`, `Value.textAt?`, `Value.listAt?`, `Value.items?`, `Value.fields?`,
`Value.fieldNames`, `mapM_read?`.
-/

namespace CodeCensus

namespace Value

/-- The integer in a field. -/
def intAt? (v : Value) (name : String) : Option Int :=
  match v.get? name with
  | some (.int n) => some n
  | _ => none

/-- The double in a field. -/
def floatAt? (v : Value) (name : String) : Option Double :=
  match v.get? name with
  | some (.float x) => some x
  | _ => none

/-- The text in a field. -/
def textAt? (v : Value) (name : String) : Option String :=
  match v.get? name with
  | some (.text s) => some s
  | _ => none

/-- The items of a list. -/
def items? : Value → Option (List Value)
  | list items => some items
  | _ => none

@[simp] theorem items?_list (items : List Value) : (list items).items? = some items := rfl

/-- The items of the list in a field. -/
def listAt? (v : Value) (name : String) : Option (List Value) := (v.get? name).bind items?

/-- One entry of a map, if its key is a text. -/
def field? : Value × Value → Option (String × Value)
  | (text name, v) => some (name, v)
  | _ => none

/-- The fields of a map whose keys are all texts, in order. -/
def fields? : Value → Option (List (String × Value))
  | map entries => entries.mapM field?
  | _ => none

/-- The names of all fields, in order. -/
def fieldNames : Value → List Value
  | map entries => entries.map Prod.fst
  | _ => []

@[simp] theorem fieldNames_ofFields (fields : List (String × Value)) :
    (ofFields fields).fieldNames = fields.map fun f => text f.1 := by
  simp [ofFields, fieldNames, Function.comp_def]

end Value

/-- Items that are each read back are read back from a list of them. -/
theorem mapM_read? {α β γ : Type} {write : α → γ} {read? : γ → Option β} {shown : α → β}
    (h : ∀ x, read? (write x) = some (shown x)) (xs : List α) :
    (xs.map write).mapM read? = some (xs.map shown) := by
  induction xs with
  | nil => rfl
  | cons x xs ih =>
      rw [List.map_cons, List.mapM_cons, h x, ih]
      rfl

@[simp] theorem Value.fields?_ofFields (fields : List (String × Value)) : (ofFields fields).fields? = some fields := by
  have hfield : ∀ f : String × Value, field? (text f.1, f.2) = some (id f) := fun _ => rfl
  have h := mapM_read? hfield fields
  rwa [List.map_id] at h

end CodeCensus
