import CodeCensus.Template.KindMembers
import CodeCensus.Template.ValueMembers

/-!
# Things in a template

What an expression of a template stands for: a value, a kind, a member, a helper, or what is not there. A
dotted name looks among the members of a thing first and among its entries only then, so an entry with the
name of a member is out of reach.

Contents:
* `Kind.ownMembers`, `Kind.member?`;
* `Thing`, `Thing.kindOf`, `Thing.shown`;
* `Thing.attribute?` — the member with a name;
* `Thing.entry?`, `Thing.item?` — the entry with a name or a number.
-/

namespace CodeCensus
namespace Template

/-! ## Members of kinds -/

/-- The members that a kind adds to those it extends. -/
def Kind.ownMembers : Kind → Members
  | object => objectMembers
  | null => nullMembers
  | bool => boolMembers
  | int => intMembers
  | float => floatMembers
  | text => textMembers
  | date => dateMembers
  | moment => momentMembers
  | zone => zoneMembers
  | zoneInfo => zoneInfoMembers
  | span => spanMembers
  | list => listMembers
  | tuple => tupleMembers
  | map => mapMembers
  | range => rangeMembers
  | kind => kindMembers
  | method => methodMembers
  | slotMethod => slotMethodMembers
  | methodEntry => methodEntryMembers
  | slotEntry => slotEntryMembers
  | fieldEntry => fieldEntryMembers
  | datumEntry => datumEntryMembers
  | kindMethodEntry => kindMethodEntryMembers
  | sharedEntry => sharedEntryMembers
  | narrowed => narrowedMembers
  | members => membersMembers
  | function => functionMembers
  | boundFunction => boundFunctionMembers
  | code => codeMembers
  | property => propertyMembers
  | exception => exceptionMembers
  | baseException => baseExceptionMembers
  | holder => holderMembers
  | cycler => cyclerMembers
  | joiner => joinerMembers
  | missing => missingMembers
  | template => templateMembers
  | absent => absentMembers
  | templateError => templateErrorMembers
  | runtimeError => runtimeErrorMembers
  | undefinedError => undefinedErrorMembers
  | bytes | set => {}

/-- The member with a name among kinds, nearest first: its owner and its sort. -/
def memberAmong? (name : String) : List Kind → Option (Kind × MemberSort)
  | [] => none
  | k :: rest =>
    match k.ownMembers.sort? name with
    | some sort => some (k, sort)
    | none => memberAmong? name rest

/-- The member of a kind with a name: its owner and its sort. -/
def Kind.member? (k : Kind) (name : String) : Option (Kind × MemberSort) :=
  memberAmong? name k.ancestry

/-- The collections of a kind can be narrowed to what they hold. -/
def Kind.isNarrowable (k : Kind) : Bool :=
  k = .kind || k = .set || (k.member? "__class_getitem__").isSome

/-! ## Things -/

/-- What an expression stands for. -/
inductive Thing where
  | value (v : Value)
  | kind (k : Kind)
  /-- Several kinds in order. -/
  | kinds (ks : List Kind)
  | span (days : Int) (seconds microseconds : Nat)
  /-- A zone by its offset in seconds. -/
  | zone (offset : Int)
  /-- A method of a thing, with the kind that brings it in. -/
  | method (owner : Kind) (name : String) (self : Thing)
  /-- An operator of a thing, with the kind that brings it in. -/
  | slotMethod (owner : Kind) (name : String) (self : Thing)
  /-- A member that is named through its kind. -/
  | entry (sort : MemberSort) (owner : Kind) (name : String)
  /-- A function of a kind, or one that every template has. -/
  | function (owner : Option Kind) (name : String)
  /-- A function of a thing. -/
  | bound (owner : Kind) (name : String) (self : Thing)
  /-- The body of a function. -/
  | code (owner : Option Kind) (name : String)
  | narrowed (k : Kind) (held : Value)
  /-- The table of the members of a kind. -/
  | members (k : Kind)
  /-- The template itself, by its name. -/
  | template (name : String)
  /-- The mark for nothing at all. -/
  | missing
  /-- A variable that is not there. -/
  | unset (name : String)
  /-- A field or item that a thing does not have. -/
  | absent (holder : Thing) (name : Value)
  deriving Repr, Inhabited

namespace Thing

/-- A text as a thing. -/
def ofText (s : String) : Thing := value (.text s)

/-- Nothing as a thing. -/
def nothing : Thing := value .null

/-- The kind of a thing. -/
def kindOf : Thing → Kind
  | value v => .ofValue v
  | kind _ => .kind
  | kinds _ => .tuple
  | span _ _ _ => .span
  | zone _ => .zone
  | method _ _ _ => .method
  | slotMethod _ _ _ => .slotMethod
  | entry .method _ _ => .methodEntry
  | entry .slot _ _ => .slotEntry
  | entry .datum _ _ => .datumEntry
  | entry .kindMethod _ _ => .kindMethodEntry
  | entry .shared _ _ => .sharedEntry
  | entry .computed _ _ => .property
  | entry _ _ _ => .fieldEntry
  | function _ _ => .function
  | bound _ _ _ => .boundFunction
  | code _ _ => .code
  | narrowed _ _ => .narrowed
  | members _ => .members
  | template _ => .template
  | missing => .missing
  | unset _ => .absent
  | absent _ _ => .absent

/-- The thing is one that is not there. -/
def isAbsent : Thing → Bool
  | unset _ | absent _ _ => true
  | _ => false

/-! ## Texts -/

/-- The text of a kind. -/
def kindText (k : Kind) : String := "<class '" ++ k.fullName ++ "'>"

/-- The text of several kinds in brackets. -/
def kindsText (ks : List Kind) : String :=
  "(" ++ String.intercalate ", " (ks.map kindText) ++ (if ks.length = 1 then ",)" else ")")

/-- The text of a span of time. -/
def spanText (days : Int) (seconds microseconds : Nat) : String :=
  let front := if days = 0 then ""
    else intText days ++ (if days.natAbs = 1 then " day, " else " days, ")
  front ++ natDigits (seconds / 3600) ++ ":" ++ padDigits 2 (seconds / 60 % 60) ++ ":" ++
    padDigits 2 (seconds % 60) ++
    (if microseconds = 0 then "" else "." ++ padDigits 6 microseconds)

/-- The text of a zone. -/
def zoneText (offset : Int) : String := "UTC" ++ if offset = 0 then "" else offsetText offset

/-- The text of a member that is named through its kind. -/
def entryText (sort : MemberSort) (owner : Kind) (name : String) : String :=
  let label := match sort with
    | .method | .kindMethod => "method"
    | .slot => "slot wrapper"
    | .datum => "member"
    | _ => "attribute"
  "<" ++ label ++ " '" ++ name ++ "' of '" ++ owner.usedName ++ "' objects>"

/-- The text of the table of a kind's members. -/
def tableText (k : Kind) : String :=
  let m := k.ownMembers
  let entries (sort : MemberSort) (names : List String) : List String :=
    names.map fun n => Text.quoted n ++ ": " ++ entryText sort k n
  "\x7b" ++ String.intercalate ", " (
    (if m.constants.contains "__module__" then ["'__module__': " ++ Text.quoted k.family] else []) ++
    entries .slot m.slots ++ entries .method m.methods ++ entries .datum m.data ++ entries .field m.fields ++
    (if m.told then ["'__doc__': ''"] else [])) ++ "\x7d"

/-- The name of a function, with the kind that it belongs to. -/
def qualified (owner : Option Kind) (name : String) : String :=
  match owner with
  | some k => k.name ++ "." ++ name
  | none => name

/-- The text of a kind that is narrowed. -/
def narrowedText (k : Kind) (held : Value) : String := k.fullName ++ "[" ++ held.quoted ++ "]"

/-- The text of a template. -/
def templateText (name : String) : String := "<TemplateReference " ++ Text.quoted name ++ ">"

/-- The text of a thing that has a function. -/
def ownerText : Thing → String
  | template name => templateText name
  | missing => "missing"
  | x => x.kindOf.name

/-- The text of a thing. -/
def shown : Thing → String
  | value v => v.display
  | kind k => kindText k
  | kinds ks => kindsText ks
  | span days seconds microseconds => spanText days seconds microseconds
  | zone offset => zoneText offset
  | method _ name self => "<built-in method " ++ name ++ " of " ++ self.kindOf.usedName ++ " object>"
  | slotMethod _ name self =>
    "<method-wrapper '" ++ name ++ "' of " ++ self.kindOf.usedName ++ " object>"
  | entry sort owner name => entryText sort owner name
  | function owner name => "<function " ++ qualified owner name ++ ">"
  | bound owner name self =>
    "<bound method " ++ qualified (some owner) name ++ " of " ++ self.ownerText ++ ">"
  | code _ name => "<code object " ++ name ++ ">"
  | narrowed k held => narrowedText k held
  | members k => tableText k
  | template name => templateText name
  | missing => "missing"
  | unset _ | absent _ _ => ""

/-- How messages about missing members name a thing. -/
def objectName : Thing → String
  | value .null => "None"
  | x => x.kindOf.fullName ++ " object"

/-! ## What is said of things -/

/-- What is said of a member, or how it is called: a text of which nothing is kept. -/
def untold : Thing := ofText ""

/-- What is said of a kind. -/
def remarkOf (k : Kind) : Thing :=
  let m := k.ownMembers
  if m.told then untold
  else
    match m.sort? "__doc__" with
    | some .field => entry .field k "__doc__"
    | some .datum => entry .datum k "__doc__"
    | _ => nothing

/-! ## Data of things -/

/-- The part of an integer. -/
def intField? (n : Int) (name : String) : Option Thing :=
  match name with
  | "real" | "numerator" => some (value (.int n))
  | "imag" => some (value (.int 0))
  | "denominator" => some (value (.int 1))
  | _ => none

/-- The part of a double. -/
def floatField? (x : Double) (name : String) : Option Thing :=
  match name with
  | "real" => some (value (.float x))
  | "imag" => some (value (.float Double.zero))
  | _ => none

/-- The part of a date. -/
def dateField? (d : Date) (name : String) : Option Thing :=
  match name with
  | "year" => some (value (.nat d.year))
  | "month" => some (value (.nat d.month))
  | "day" => some (value (.nat d.day))
  | _ => none

/-- The part of a moment. -/
def momentField? (m : Moment) (name : String) : Option Thing :=
  match name with
  | "hour" => some (value (.nat m.time.hour))
  | "minute" => some (value (.nat m.time.minute))
  | "second" => some (value (.nat m.time.second))
  | "microsecond" => some (value (.nat m.time.microsecond))
  | "tzinfo" => some ((m.offset.map zone).getD nothing)
  | "fold" => some (value (.nat 0))
  | _ => dateField? m.date name

/-- The part of a value. -/
def valueField? (v : Value) (name : String) : Option Thing :=
  match v with
  | .bool b => intField? (if b then 1 else 0) name
  | .int n => intField? n name
  | .float x => floatField? x name
  | .date d => dateField? d name
  | .moment m => momentField? m name
  | _ => none

/-- The kind through which a method is reached. -/
def reachedThrough : Thing → Kind
  | kind k => k
  | x => x.kindOf

/-- What is known of a method. -/
def methodField? (owner : Kind) (own : String) (self : Thing) (name : String) : Option Thing :=
  match name with
  | "__name__" => some (ofText own)
  | "__qualname__" => some (ofText (self.reachedThrough.name ++ "." ++ own))
  | "__self__" => some (if owner.ownMembers.sort? own = some .shared then nothing else self)
  | "__module__" => some nothing
  | "__doc__" | "__text_signature__" => some untold
  | _ => none

/-- What is known of an entry of a kind. -/
def entryField? (owner : Kind) (own : String) (name : String) : Option Thing :=
  match name with
  | "__name__" => some (ofText own)
  | "__qualname__" => some (ofText (owner.name ++ "." ++ own))
  | "__objclass__" => some (kind owner)
  | "__doc__" | "__text_signature__" => some untold
  | _ => none

/-- What is known of a property. -/
def propertyField? (owner : Kind) (own : String) (name : String) : Option Thing :=
  match name with
  | "fget" => some (function (some owner) own)
  | "fset" | "fdel" => some nothing
  | "__doc__" => some untold
  | "__isabstractmethod__" => some (value (.bool false))
  | _ => none

/-- What is known of a function that is kept in a kind. -/
def sharedField? (owner : Kind) (own : String) (name : String) : Option Thing :=
  match name with
  | "__func__" | "__wrapped__" => some (method owner own (kind owner))
  | "__isabstractmethod__" => some (value (.bool false))
  | _ => none

/-- The values that the arguments of a function have by default. -/
def defaultsOf (owner : Option Kind) (name : String) : Thing :=
  match owner, name with
  | none, _ => value (.tuple [.int 5, .bool true, .int 20, .int 100])
  | some .joiner, "__init__" => value (.tuple [.text ", "])
  | some .templateError, "__init__" => value (.tuple [.null])
  | _, _ => nothing

/-- The family that a function belongs to. -/
def familyOf (owner : Option Kind) : String := (owner.getD .holder).family

/-- What is known of a function. -/
def functionField? (owner : Option Kind) (own : String) (name : String) : Option Thing :=
  match name with
  | "__name__" => some (ofText own)
  | "__qualname__" => some (ofText (qualified owner own))
  | "__module__" => some (ofText (familyOf owner))
  | "__doc__" => some untold
  | "__defaults__" => some (defaultsOf owner own)
  | "__kwdefaults__" | "__closure__" => some nothing
  | "__code__" => some (code owner own)
  | "__dict__" | "__annotations__" => some (value (.map []))
  | "__globals__" => some (value (.ofFields [("__name__", .text (familyOf owner))]))
  | _ => none

/-- What is known of the body of a function. -/
def codeField? (owner : Option Kind) (own : String) (name : String) : Option Thing :=
  match name with
  | "co_name" => some (ofText own)
  | "co_qualname" => some (ofText (qualified owner own))
  | "co_freevars" | "co_cellvars" => some (value (.tuple []))
  | "co_posonlyargcount" | "co_kwonlyargcount" => some (value (.int 0))
  | _ => none

/-- What is known of a narrowed kind. -/
def narrowedField? (k : Kind) (held : Value) (name : String) : Option Thing :=
  match name with
  | "__origin__" => some (kind k)
  | "__args__" => some (value (.tuple [held]))
  | "__parameters__" => some (value (.tuple []))
  | "__unpacked__" => some (value (.bool false))
  | "__typing_unpacked_tuple_args__" => some nothing
  | _ => none

/-- Why a thing is not there. -/
def absenceText : Thing → String
  | unset name => Text.quoted name ++ " is undefined"
  | absent holder (.text name) =>
    Text.quoted holder.objectName ++ " has no attribute " ++ Text.quoted name
  | absent holder name => holder.objectName ++ " has no element " ++ name.quoted
  | _ => ""

/-- What is known of a thing that is not there: what was looked for, and where. -/
def absentField? (x holder : Thing) (sought : Value) (name : String) : Option Thing :=
  match name with
  | "_undefined_hint" => some nothing
  | "_undefined_obj" => some holder
  | "_undefined_name" => some (value sought)
  | "_undefined_exception" => some (kind .undefinedError)
  | "_undefined_message" => some (ofText x.absenceText)
  | _ => none

/-- A datum of a thing. -/
def field? (x : Thing) (name : String) : Option Thing :=
  if name = "__class__" then some (kind x.kindOf)
  else
    match x with
    | value v => valueField? v name
    | span days seconds microseconds =>
      match name with
      | "days" => some (value (.int days))
      | "seconds" => some (value (.nat seconds))
      | _ => some (value (.nat microseconds))
    | method owner own self => methodField? owner own self name
    | slotMethod owner own self =>
      if name = "__self__" then some self else entryField? owner own name
    | entry .computed owner own => propertyField? owner own name
    | entry .shared owner own => sharedField? owner own name
    | entry _ owner own => entryField? owner own name
    | function owner own => functionField? owner own name
    | bound owner own self =>
      match name with
      | "__func__" => some (function (some owner) own)
      | "__self__" => some self
      | _ => some untold
    | code owner own => codeField? owner own name
    | narrowed k held => narrowedField? k held name
    | template _ => if name = "__weakref__" then some nothing else some (value (.map []))
    | missing => if name = "__weakref__" then some nothing else some (value (.map []))
    | unset own => absentField? x missing (.text own) name
    | absent holder own => absentField? x holder own name
    | _ => none

/-! ## Data of kinds -/

/-- A datum that a kind of dates or times has for all its things. -/
def calendarConstant (owner : Kind) (name : String) : Thing :=
  match owner, name with
  | .date, "min" => value (.date ⟨1, 1, 1⟩)
  | .date, "max" => value (.date ⟨9999, 12, 31⟩)
  | .date, _ => span 1 0 0
  | .moment, "min" => value (.moment ⟨⟨1, 1, 1⟩, ⟨0, 0, 0, 0⟩, none⟩)
  | .moment, "max" => value (.moment ⟨⟨9999, 12, 31⟩, ⟨23, 59, 59, 999999⟩, none⟩)
  | .span, "min" => span (-999999999) 0 0
  | .span, "max" => span 999999999 86399 999999
  | .zone, "min" => zone (-86340)
  | .zone, "max" => zone 86340
  | .zone, _ => zone 0
  | _, _ => span 0 0 1

/-- A datum that a kind has for all its things. -/
def constantOf (owner : Kind) (name : String) : Thing :=
  match name with
  | "__doc__" => remarkOf owner
  | "__module__" => ofText owner.family
  | "__slots__" =>
    value (.tuple [.text "_undefined_hint", .text "_undefined_obj", .text "_undefined_name",
      .text "_undefined_exception"])
  | _ => calendarConstant owner name

/-- What is known of a kind as such. -/
def kindField? (k : Kind) (name : String) : Option Thing :=
  match name with
  | "__class__" => some (kind .kind)
  | "__name__" | "__qualname__" => some (ofText k.name)
  | "__module__" => some (ofText k.family)
  | "__doc__" => some (remarkOf k)
  | "__text_signature__" => some untold
  | "__base__" => some ((k.base?.map kind).getD nothing)
  | "__bases__" => some (kinds k.base?.toList)
  | "__mro__" => some (kinds k.ancestry)
  | "__dict__" => some (members k)
  | "__annotations__" => if k.isLocal then some (value (.map [])) else none
  | _ => none

/-! ## Members -/

/-- The member of a kind that is named through the kind `k`. -/
def kindMember (k owner : Kind) (sort : MemberSort) (name : String) : Thing :=
  match sort with
  | .kindMethod => method owner name (kind k)
  | .shared | .maker => method owner name (kind owner)
  | .constant => constantOf owner name
  | .nothing => nothing
  | .function => function (some owner) (owner.ownMembers.functionName name)
  | .method | .slot | .field | .datum | .computed => entry sort owner name

/-- The member of a thing that its kind gives it. -/
def member? (x : Thing) (owner : Kind) (sort : MemberSort) (name : String) : Option Thing :=
  match sort with
  | .method => some (method owner name x)
  | .slot => some (slotMethod owner name x)
  | .kindMethod => some (method owner name (kind x.kindOf))
  | .shared | .maker => some (method owner name (kind owner))
  | .field | .datum | .computed => x.field? name
  | .constant => some (constantOf owner name)
  | .nothing => some nothing
  | .function => some (bound owner (owner.ownMembers.functionName name) x)

/-- The attribute of a kind: what is known of every kind, then the kind's own members, then what it can do
    as a kind. -/
def kindAttribute? (k : Kind) (name : String) : Option Thing :=
  match Kind.kind.member? name, k.member? name with
  | some (_, .field), _ | some (_, .datum), _ => kindField? k name
  | _, some (owner, sort) => some (kindMember k owner sort name)
  | some (owner, sort), none => (kind k).member? owner sort name
  | none, none => none

/-- The attributes that a narrowed kind has as such; all others are those of the kind. -/
def narrowedOwn : List String :=
  ["__class__", "__origin__", "__args__", "__unpacked__", "__parameters__",
    "__typing_unpacked_tuple_args__", "__mro_entries__", "__reduce_ex__", "__reduce__", "__copy__",
    "__deepcopy__"]

/-- The attribute of a thing by its kind. -/
def plainAttribute? (x : Thing) (name : String) : Option Thing :=
  match x.kindOf.member? name with
  | some (owner, sort) => x.member? owner sort name
  | none => none

/-- The member of a thing with a name. -/
def attribute? (x : Thing) (name : String) : Option Thing :=
  match x with
  | kind k => kindAttribute? k name
  | narrowed k _ => if narrowedOwn.contains name then x.plainAttribute? name else kindAttribute? k name
  | bound owner own _ => (x.plainAttribute? name).or ((function (some owner) own).plainAttribute? name)
  | _ => x.plainAttribute? name

/-! ## Entries -/

/-- A kind of collections narrowed to what they hold. -/
def narrow? (k : Kind) (held : Value) : Option Thing :=
  if k.isNarrowable then some (narrowed k held) else none

/-- The member of a kind as its table keeps it. -/
def tableEntry? (k : Kind) (name : String) : Option Thing :=
  (k.ownMembers.sort? name).map fun sort =>
    match sort with
    | .kindMethod | .shared => entry sort k name
    | _ => kindMember k k sort name

/-- The entry of a thing with a name. -/
def entry? (x : Thing) (name : String) : Option Thing :=
  match x with
  | value v => (v.get? name).map value
  | kind k => narrow? k (.text name)
  | members k => tableEntry? k name
  | _ => none

/-- The item of a thing at a position, or under a number in a map. -/
def item? (x : Thing) (index : Nat) : Option Thing :=
  match x with
  | value (.list items) => items[index]?.map value
  | value (.tuple items) => items[index]?.map value
  | value (.text s) => s.toList[index]?.map fun c => ofText (String.ofList [c])
  | value (.map entries) => (Value.lookup? entries (.int index)).map value
  | kinds ks => ks[index]?.map kind
  | kind k => narrow? k (.int index)
  | _ => none

end Thing
end Template
end CodeCensus
