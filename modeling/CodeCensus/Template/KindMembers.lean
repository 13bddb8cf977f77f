import CodeCensus.Template.Member

/-!
# Members of kinds, members and helpers

The members of what is reached through values: kinds, methods, entries of kinds, functions, errors and the
helpers that every template has.

Contents: `kindMembers` and one table for each further kind.
-/

namespace CodeCensus
namespace Template

/-- The members of kinds. -/
def kindMembers : Members where
  slots := ["__repr__", "__call__", "__getattribute__", "__setattr__", "__delattr__", "__init__", "__or__",
    "__ror__"]
  methods := ["mro", "__subclasses__", "__instancecheck__", "__subclasscheck__", "__dir__", "__sizeof__"]
  kindMethods := ["__prepare__"]
  fields := ["__name__", "__qualname__", "__bases__", "__module__", "__abstractmethods__", "__dict__",
    "__doc__", "__text_signature__", "__annotations__"]
  data := ["__base__", "__mro__"]
  maker := true
  told := true

/-- The members of methods. -/
def methodMembers : Members where
  slots := ["__repr__", "__hash__", "__call__", "__getattribute__", "__lt__", "__le__", "__eq__", "__ne__",
    "__gt__", "__ge__"]
  methods := ["__reduce__"]
  fields := ["__doc__", "__name__", "__qualname__", "__self__", "__text_signature__"]
  data := ["__module__"]

/-- The members of operators of a thing. -/
def slotMethodMembers : Members where
  slots := ["__repr__", "__hash__", "__call__", "__getattribute__", "__lt__", "__le__", "__eq__", "__ne__",
    "__gt__", "__ge__"]
  methods := ["__reduce__"]
  fields := ["__objclass__", "__name__", "__qualname__", "__doc__", "__text_signature__"]
  data := ["__self__"]

/-- The members of methods named through their kind. -/
def methodEntryMembers : Members where
  slots := ["__repr__", "__call__", "__getattribute__", "__get__"]
  methods := ["__reduce__"]
  fields := ["__doc__", "__qualname__", "__text_signature__"]
  data := ["__objclass__", "__name__"]

/-- The members of operators named through their kind. -/
def slotEntryMembers : Members where
  slots := ["__repr__", "__call__", "__getattribute__", "__get__"]
  methods := ["__reduce__"]
  fields := ["__doc__", "__qualname__", "__text_signature__"]
  data := ["__objclass__", "__name__"]

/-- The members of computed data named through their kind. -/
def fieldEntryMembers : Members where
  slots := ["__repr__", "__getattribute__", "__get__", "__set__", "__delete__"]
  fields := ["__doc__", "__qualname__"]
  data := ["__objclass__", "__name__"]

/-- The members of stored data named through their kind. -/
def datumEntryMembers : Members where
  slots := ["__repr__", "__getattribute__", "__get__", "__set__", "__delete__"]
  methods := ["__reduce__"]
  fields := ["__doc__", "__qualname__"]
  data := ["__objclass__", "__name__"]

/-- The members of methods of a kind, unbound. -/
def kindMethodEntryMembers : Members where
  slots := ["__repr__", "__call__", "__getattribute__", "__get__"]
  fields := ["__doc__", "__qualname__", "__text_signature__"]
  data := ["__objclass__", "__name__"]

/-- The members of functions kept in a kind. -/
def sharedEntryMembers : Members where
  slots := ["__repr__", "__call__", "__get__", "__init__"]
  fields := ["__isabstractmethod__", "__dict__"]
  data := ["__func__", "__wrapped__"]
  maker := true
  told := true

/-- The members of narrowed kinds. -/
def narrowedMembers : Members where
  slots := ["__repr__", "__hash__", "__call__", "__getattribute__", "__lt__", "__le__", "__eq__", "__ne__",
    "__gt__", "__ge__", "__iter__", "__or__", "__ror__", "__getitem__"]
  methods := ["__mro_entries__", "__instancecheck__", "__subclasscheck__", "__reduce__", "__dir__"]
  fields := ["__parameters__", "__typing_unpacked_tuple_args__"]
  data := ["__origin__", "__args__", "__unpacked__"]
  maker := true
  told := true

/-- The members of tables of members. -/
def membersMembers : Members where
  slots := ["__repr__", "__str__", "__getattribute__", "__lt__", "__le__", "__eq__", "__ne__", "__gt__",
    "__ge__", "__iter__", "__or__", "__ror__", "__ior__", "__len__", "__getitem__", "__contains__"]
  methods := ["get", "keys", "values", "items", "copy", "__reversed__"]
  kindMethods := ["__class_getitem__"]
  nothings := ["__doc__", "__hash__"]
  maker := true

/-- The members of functions. -/
def functionMembers : Members where
  slots := ["__repr__", "__call__", "__get__"]
  fields := ["__code__", "__defaults__", "__kwdefaults__", "__annotations__", "__dict__", "__name__",
    "__qualname__"]
  data := ["__closure__", "__doc__", "__globals__", "__module__", "__builtins__"]
  maker := true
  told := true

/-- The members of functions of a thing. -/
def boundFunctionMembers : Members where
  slots := ["__repr__", "__hash__", "__call__", "__getattribute__", "__setattr__", "__delattr__", "__lt__",
    "__le__", "__eq__", "__ne__", "__gt__", "__ge__"]
  methods := ["__reduce__"]
  fields := ["__doc__"]
  data := ["__func__", "__self__"]
  maker := true
  told := true

/-- The members of bodies of functions. -/
def codeMembers : Members where
  slots := ["__repr__", "__hash__", "__getattribute__", "__lt__", "__le__", "__eq__", "__ne__", "__gt__",
    "__ge__"]
  methods := ["__sizeof__", "co_lines", "co_positions", "replace", "_varname_from_oparg"]
  fields := ["co_lnotab", "_co_code_adaptive", "co_varnames", "co_cellvars", "co_freevars", "co_code"]
  data := ["co_argcount", "co_posonlyargcount", "co_kwonlyargcount", "co_stacksize", "co_flags", "co_nlocals",
    "co_consts", "co_names", "co_filename", "co_name", "co_qualname", "co_firstlineno", "co_linetable",
    "co_exceptiontable"]
  maker := true
  told := true

/-- The members of properties. -/
def propertyMembers : Members where
  slots := ["__getattribute__", "__get__", "__set__", "__delete__", "__init__"]
  methods := ["getter", "setter", "deleter", "__set_name__"]
  fields := ["__isabstractmethod__"]
  data := ["fget", "fset", "fdel", "__doc__"]
  maker := true
  told := true

/-- The members of common errors. -/
def exceptionMembers : Members where
  slots := ["__init__"]
  maker := true
  told := true

/-- The members of errors. -/
def baseExceptionMembers : Members where
  slots := ["__repr__", "__str__", "__getattribute__", "__setattr__", "__delattr__", "__init__"]
  methods := ["__reduce__", "__setstate__", "with_traceback", "add_note"]
  fields := ["__dict__", "args", "__traceback__", "__context__", "__cause__"]
  data := ["__suppress_context__"]
  maker := true
  told := true

/-- The members of holders. -/
def holderMembers : Members where
  fields := ["__dict__", "__weakref__"]
  functions := ["__init__", "__getattribute__", "__setitem__", "__repr__"]
  constants := ["__module__"]
  told := true

/-- The members of cyclers. -/
def cyclerMembers : Members where
  fields := ["__dict__", "__weakref__"]
  functions := ["__init__", "reset", "next"]
  computed := ["current"]
  aliases := [("__next__", "next")]
  constants := ["__module__"]
  told := true

/-- The members of joiners. -/
def joinerMembers : Members where
  fields := ["__dict__", "__weakref__"]
  functions := ["__init__", "__call__"]
  constants := ["__module__"]
  told := true

/-- The members of the mark for nothing at all. -/
def missingMembers : Members where
  fields := ["__dict__", "__weakref__"]
  functions := ["__repr__", "__reduce__"]
  constants := ["__module__"]
  nothings := ["__doc__"]

/-- The members of templates. -/
def templateMembers : Members where
  fields := ["__dict__", "__weakref__"]
  functions := ["__init__", "__getitem__", "__repr__"]
  constants := ["__module__"]
  told := true

/-- The members of what is not there. -/
def absentMembers : Members where
  data := ["_undefined_exception", "_undefined_hint", "_undefined_name", "_undefined_obj"]
  functions := ["__init__", "_fail_with_undefined_error", "__getattr__", "__eq__", "__ne__", "__hash__",
    "__str__", "__len__", "__iter__", "__aiter__", "__bool__", "__repr__"]
  computed := ["_undefined_message"]
  aliases := [("__add__", "_fail_with_undefined_error"), ("__radd__", "_fail_with_undefined_error"),
    ("__sub__", "_fail_with_undefined_error"), ("__rsub__", "_fail_with_undefined_error"),
    ("__mul__", "_fail_with_undefined_error"), ("__rmul__", "_fail_with_undefined_error"),
    ("__div__", "_fail_with_undefined_error"), ("__rdiv__", "_fail_with_undefined_error"),
    ("__truediv__", "_fail_with_undefined_error"), ("__rtruediv__", "_fail_with_undefined_error"),
    ("__floordiv__", "_fail_with_undefined_error"), ("__rfloordiv__", "_fail_with_undefined_error"),
    ("__mod__", "_fail_with_undefined_error"), ("__rmod__", "_fail_with_undefined_error"),
    ("__pos__", "_fail_with_undefined_error"), ("__neg__", "_fail_with_undefined_error"),
    ("__call__", "_fail_with_undefined_error"), ("__getitem__", "_fail_with_undefined_error"),
    ("__lt__", "_fail_with_undefined_error"), ("__le__", "_fail_with_undefined_error"),
    ("__gt__", "_fail_with_undefined_error"), ("__ge__", "_fail_with_undefined_error"),
    ("__int__", "_fail_with_undefined_error"), ("__float__", "_fail_with_undefined_error"),
    ("__complex__", "_fail_with_undefined_error"), ("__pow__", "_fail_with_undefined_error"),
    ("__rpow__", "_fail_with_undefined_error")]
  constants := ["__module__", "__slots__"]
  told := true

/-- The members of template errors. -/
def templateErrorMembers : Members where
  fields := ["__weakref__"]
  functions := ["__init__"]
  computed := ["message"]
  constants := ["__module__"]
  told := true

/-- The members of errors of a running template. -/
def runtimeErrorMembers : Members where
  constants := ["__module__"]
  told := true

/-- The members of errors about what is not there. -/
def undefinedErrorMembers : Members where
  constants := ["__module__"]
  told := true

end Template
end CodeCensus
