import CodeCensus.Template.Kind

/-!
# Members of things in a template

A kind has members of several sorts: methods, operators, data, and what belongs to the kind itself.

Contents: `MemberSort`, `Members`, `Members.sort?`, `Members.functionName`.
-/

namespace CodeCensus
namespace Template

/-- What a member is. -/
inductive MemberSort where
  /-- A method by name. -/
  | method
  /-- A method that stands for an operator. -/
  | slot
  /-- A method of the kind itself. -/
  | kindMethod
  /-- A function that is kept in the kind. -/
  | shared
  /-- What makes a new thing of the kind. -/
  | maker
  /-- A datum that is computed for a thing. -/
  | field
  /-- A datum that a thing holds. -/
  | datum
  /-- A datum of the kind. -/
  | constant
  /-- A member that the kind does without. -/
  | nothing
  /-- A function of the template's own. -/
  | function
  /-- A datum that such a function computes. -/
  | computed
  deriving DecidableEq, Repr

/-- The members that a kind adds, by sort. -/
structure Members where
  slots : List String := []
  methods : List String := []
  kindMethods : List String := []
  shared : List String := []
  fields : List String := []
  data : List String := []
  functions : List String := []
  computed : List String := []
  /-- Further names of functions. -/
  aliases : List (String × String) := []
  constants : List String := []
  nothings : List String := []
  maker : Bool := false
  /-- Something is said of the kind itself. -/
  told : Bool := false

namespace Members

/-- The sort of a member. -/
def sort? (m : Members) (name : String) : Option MemberSort :=
  if m.slots.contains name then some .slot
  else if m.methods.contains name then some .method
  else if m.kindMethods.contains name then some .kindMethod
  else if m.shared.contains name then some .shared
  else if m.fields.contains name then some .field
  else if m.data.contains name then some .datum
  else if m.functions.contains name || m.aliases.any fun a => a.1 = name then some .function
  else if m.computed.contains name then some .computed
  else if m.constants.contains name || (name = "__doc__" && m.told) then some .constant
  else if m.nothings.contains name then some .nothing
  else if m.maker && name = "__new__" then some .maker
  else none

/-- The own name of a function. -/
def functionName (m : Members) (name : String) : String :=
  ((m.aliases.find? fun a => a.1 = name).map (·.2)).getD name

end Members

end Template
end CodeCensus
