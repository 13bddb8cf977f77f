import CodeCensus.Value.Basic

/-!
# Kinds of things in a template

A dotted name in a template can reach the members of a value as well as its entries, and so the kinds of
values, their methods and the helpers that every template has. Each kind has a name, a family and the kinds
that it extends.

Contents: `Kind` with `Kind.name`, `Kind.family`, `Kind.ancestry`.
-/

namespace CodeCensus
namespace Template

/-- What a thing in a template is. -/
inductive Kind where
  | object
  | null
  | bool
  | int
  | float
  | text
  | bytes
  | date
  | moment
  | zone
  | zoneInfo
  | span
  | list
  | tuple
  | map
  | set
  | range
  | kind
  /-- A method of a thing. -/
  | method
  /-- An operator of a thing. -/
  | slotMethod
  /-- A method that is named through its kind. -/
  | methodEntry
  /-- An operator that is named through its kind. -/
  | slotEntry
  /-- A computed datum that is named through its kind. -/
  | fieldEntry
  /-- A stored datum that is named through its kind. -/
  | datumEntry
  /-- A method of a kind that is named in its table. -/
  | kindMethodEntry
  /-- A function that is named in the table of a kind. -/
  | sharedEntry
  /-- A kind of collections narrowed to what they hold. -/
  | narrowed
  /-- The table of the members of a kind. -/
  | members
  | function
  | boundFunction
  | code
  | property
  | exception
  | baseException
  | holder
  | cycler
  | joiner
  | missing
  | template
  | absent
  | templateError
  | runtimeError
  | undefinedError
  deriving DecidableEq, Repr

namespace Kind

/-- The name of a kind. -/
def name : Kind → String
  | object => "object"
  | null => "NoneType"
  | bool => "bool"
  | int => "int"
  | float => "float"
  | text => "str"
  | bytes => "bytes"
  | date => "date"
  | moment => "datetime"
  | zone => "timezone"
  | zoneInfo => "tzinfo"
  | span => "timedelta"
  | list => "list"
  | tuple => "tuple"
  | map => "dict"
  | set => "set"
  | range => "range"
  | kind => "type"
  | method => "builtin_function_or_method"
  | slotMethod => "method-wrapper"
  | methodEntry => "method_descriptor"
  | slotEntry => "wrapper_descriptor"
  | fieldEntry => "getset_descriptor"
  | datumEntry => "member_descriptor"
  | kindMethodEntry => "classmethod_descriptor"
  | sharedEntry => "staticmethod"
  | narrowed => "GenericAlias"
  | members => "mappingproxy"
  | function => "function"
  | boundFunction => "method"
  | code => "code"
  | property => "property"
  | exception => "Exception"
  | baseException => "BaseException"
  | holder => "Namespace"
  | cycler => "Cycler"
  | joiner => "Joiner"
  | missing => "MissingType"
  | template => "TemplateReference"
  | absent => "Undefined"
  | templateError => "TemplateError"
  | runtimeError => "TemplateRuntimeError"
  | undefinedError => "UndefinedError"

/-- The family that a kind belongs to. -/
def family : Kind → String
  | date | moment | zone | zoneInfo | span => "datetime"
  | narrowed => "types"
  | holder | cycler | joiner | missing => "jinja2.utils"
  | template | absent => "jinja2.runtime"
  | templateError | runtimeError | undefinedError => "jinja2.exceptions"
  | _ => "builtins"

/-- The name of a kind with its family, unless that is the common one. -/
def fullName (k : Kind) : String :=
  if k.family = "builtins" then k.name else k.family ++ "." ++ k.name

/-- The name of a kind in messages about the use of a thing of that kind. -/
def usedName (k : Kind) : String :=
  match k with
  | date | moment | zone | zoneInfo | span | narrowed => k.fullName
  | _ => k.name

/-- The kind that a kind extends first. -/
def base? : Kind → Option Kind
  | object => none
  | bool => some int
  | moment => some date
  | zone => some zoneInfo
  | exception => some baseException
  | templateError => some exception
  | runtimeError => some templateError
  | undefinedError => some runtimeError
  | _ => some object

/-- A kind and the kinds that it extends, nearest first. -/
def ancestry : Kind → List Kind
  | object => [object]
  | bool => [bool, int, object]
  | moment => [moment, date, object]
  | zone => [zone, zoneInfo, object]
  | exception => [exception, baseException, object]
  | templateError => [templateError, exception, baseException, object]
  | runtimeError => [runtimeError, templateError, exception, baseException, object]
  | undefinedError => [undefinedError, runtimeError, templateError, exception, baseException, object]
  | k => [k, object]

/-- The kind is one that templates bring along. -/
def isLocal : Kind → Bool
  | holder | cycler | joiner | missing | template | absent => true
  | templateError | runtimeError | undefinedError => true
  | _ => false

/-- The kind of a value. -/
def ofValue : Value → Kind
  | .null => null
  | .bool _ => bool
  | .int _ => int
  | .float _ => float
  | .text _ => text
  | .bytes _ => bytes
  | .date _ => date
  | .moment _ => moment
  | .list _ | .listAgain => list
  | .tuple _ => tuple
  | .map _ | .mapAgain => map
  | .set _ => set

end Kind
end Template
end CodeCensus
