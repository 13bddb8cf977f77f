import CodeCensus.Template.Member

/-!
# Members of values

The members of the kinds of values, and of the kind that all extend.

Contents: `objectMembers` and one table for each kind of values.
-/

namespace CodeCensus
namespace Template

/-- The members of everything. -/
def objectMembers : Members where
  slots := ["__repr__", "__hash__", "__str__", "__getattribute__", "__setattr__", "__delattr__", "__lt__",
    "__le__", "__eq__", "__ne__", "__gt__", "__ge__", "__init__"]
  methods := ["__reduce_ex__", "__reduce__", "__getstate__", "__format__", "__sizeof__", "__dir__"]
  kindMethods := ["__subclasshook__", "__init_subclass__"]
  fields := ["__class__"]
  maker := true
  told := true

/-- The members of what is empty. -/
def nullMembers : Members where
  slots := ["__repr__", "__bool__"]
  nothings := ["__doc__"]
  maker := true

/-- The members of truth values. -/
def boolMembers : Members where
  slots := ["__repr__", "__and__", "__rand__", "__xor__", "__rxor__", "__or__", "__ror__"]
  maker := true
  told := true

/-- The members of integers. -/
def intMembers : Members where
  slots := ["__repr__", "__hash__", "__getattribute__", "__lt__", "__le__", "__eq__", "__ne__", "__gt__",
    "__ge__", "__add__", "__radd__", "__sub__", "__rsub__", "__mul__", "__rmul__", "__mod__", "__rmod__",
    "__divmod__", "__rdivmod__", "__pow__", "__rpow__", "__neg__", "__pos__", "__abs__", "__bool__",
    "__invert__", "__lshift__", "__rlshift__", "__rshift__", "__rrshift__", "__and__", "__rand__", "__xor__",
    "__rxor__", "__or__", "__ror__", "__int__", "__float__", "__floordiv__", "__rfloordiv__", "__truediv__",
    "__rtruediv__", "__index__"]
  methods := ["conjugate", "bit_length", "bit_count", "to_bytes", "as_integer_ratio", "__trunc__", "__floor__",
    "__ceil__", "__round__", "__getnewargs__", "__format__", "__sizeof__"]
  kindMethods := ["from_bytes"]
  fields := ["real", "imag", "numerator", "denominator"]
  maker := true
  told := true

/-- The members of doubles. -/
def floatMembers : Members where
  slots := ["__repr__", "__hash__", "__getattribute__", "__lt__", "__le__", "__eq__", "__ne__", "__gt__",
    "__ge__", "__add__", "__radd__", "__sub__", "__rsub__", "__mul__", "__rmul__", "__mod__", "__rmod__",
    "__divmod__", "__rdivmod__", "__pow__", "__rpow__", "__neg__", "__pos__", "__abs__", "__bool__", "__int__",
    "__float__", "__floordiv__", "__rfloordiv__", "__truediv__", "__rtruediv__"]
  methods := ["conjugate", "__trunc__", "__floor__", "__ceil__", "__round__", "as_integer_ratio", "hex",
    "is_integer", "__getnewargs__", "__format__"]
  kindMethods := ["fromhex", "__getformat__"]
  fields := ["real", "imag"]
  maker := true
  told := true

/-- The members of texts. -/
def textMembers : Members where
  slots := ["__repr__", "__hash__", "__str__", "__getattribute__", "__lt__", "__le__", "__eq__", "__ne__",
    "__gt__", "__ge__", "__iter__", "__mod__", "__rmod__", "__len__", "__getitem__", "__add__", "__mul__",
    "__rmul__", "__contains__"]
  methods := ["encode", "replace", "split", "rsplit", "join", "capitalize", "casefold", "title", "center",
    "count", "expandtabs", "find", "partition", "index", "ljust", "lower", "lstrip", "rfind", "rindex", "rjust",
    "rstrip", "rpartition", "splitlines", "strip", "swapcase", "translate", "upper", "startswith", "endswith",
    "removeprefix", "removesuffix", "isascii", "islower", "isupper", "istitle", "isspace", "isdecimal",
    "isdigit", "isnumeric", "isalpha", "isalnum", "isidentifier", "isprintable", "zfill", "format",
    "format_map", "__format__", "__sizeof__", "__getnewargs__"]
  shared := ["maketrans"]
  maker := true
  told := true

/-- The members of dates. -/
def dateMembers : Members where
  slots := ["__repr__", "__hash__", "__str__", "__getattribute__", "__lt__", "__le__", "__eq__", "__ne__",
    "__gt__", "__ge__", "__add__", "__radd__", "__sub__", "__rsub__"]
  methods := ["ctime", "strftime", "__format__", "timetuple", "isocalendar", "isoformat", "isoweekday",
    "toordinal", "weekday", "replace", "__reduce__"]
  kindMethods := ["fromtimestamp", "fromordinal", "fromisoformat", "fromisocalendar", "today"]
  fields := ["year", "month", "day"]
  constants := ["min", "max", "resolution"]
  maker := true
  told := true

/-- The members of moments. -/
def momentMembers : Members where
  slots := ["__repr__", "__hash__", "__str__", "__getattribute__", "__lt__", "__le__", "__eq__", "__ne__",
    "__gt__", "__ge__", "__add__", "__radd__", "__sub__", "__rsub__"]
  methods := ["date", "time", "timetz", "ctime", "timetuple", "timestamp", "utctimetuple", "isoformat",
    "utcoffset", "tzname", "dst", "replace", "astimezone", "__reduce_ex__", "__reduce__"]
  kindMethods := ["now", "utcnow", "fromtimestamp", "utcfromtimestamp", "strptime", "combine", "fromisoformat"]
  fields := ["hour", "minute", "second", "microsecond", "tzinfo", "fold"]
  constants := ["min", "max", "resolution"]
  maker := true
  told := true

/-- The members of zones. -/
def zoneMembers : Members where
  slots := ["__repr__", "__hash__", "__str__", "__lt__", "__le__", "__eq__", "__ne__", "__gt__", "__ge__"]
  methods := ["tzname", "utcoffset", "dst", "fromutc", "__getinitargs__"]
  constants := ["utc", "min", "max"]
  maker := true
  told := true

/-- The members of zones of any sort. -/
def zoneInfoMembers : Members where
  slots := ["__getattribute__"]
  methods := ["tzname", "utcoffset", "dst", "fromutc", "__reduce__"]
  maker := true
  told := true

/-- The members of spans of time. -/
def spanMembers : Members where
  slots := ["__repr__", "__hash__", "__str__", "__getattribute__", "__lt__", "__le__", "__eq__", "__ne__",
    "__gt__", "__ge__", "__add__", "__radd__", "__sub__", "__rsub__", "__mul__", "__rmul__", "__mod__",
    "__rmod__", "__divmod__", "__rdivmod__", "__neg__", "__pos__", "__abs__", "__bool__", "__floordiv__",
    "__rfloordiv__", "__truediv__", "__rtruediv__"]
  methods := ["total_seconds", "__reduce__"]
  data := ["days", "seconds", "microseconds"]
  constants := ["resolution", "min", "max"]
  maker := true
  told := true

/-- The members of lists. -/
def listMembers : Members where
  slots := ["__repr__", "__getattribute__", "__lt__", "__le__", "__eq__", "__ne__", "__gt__", "__ge__",
    "__iter__", "__init__", "__len__", "__setitem__", "__delitem__", "__add__", "__mul__", "__rmul__",
    "__contains__", "__iadd__", "__imul__"]
  methods := ["__getitem__", "__reversed__", "__sizeof__", "clear", "copy", "append", "insert", "extend", "pop",
    "remove", "index", "count", "reverse", "sort"]
  kindMethods := ["__class_getitem__"]
  nothings := ["__hash__"]
  maker := true
  told := true

/-- The members of tuples. -/
def tupleMembers : Members where
  slots := ["__repr__", "__hash__", "__getattribute__", "__lt__", "__le__", "__eq__", "__ne__", "__gt__",
    "__ge__", "__iter__", "__len__", "__getitem__", "__add__", "__mul__", "__rmul__", "__contains__"]
  methods := ["__getnewargs__", "index", "count"]
  kindMethods := ["__class_getitem__"]
  maker := true
  told := true

/-- The members of maps. -/
def mapMembers : Members where
  slots := ["__repr__", "__getattribute__", "__lt__", "__le__", "__eq__", "__ne__", "__gt__", "__ge__",
    "__iter__", "__init__", "__or__", "__ror__", "__ior__", "__len__", "__setitem__", "__delitem__"]
  methods := ["__getitem__", "__contains__", "__sizeof__", "get", "setdefault", "pop", "popitem", "keys",
    "items", "values", "update", "clear", "copy", "__reversed__"]
  kindMethods := ["fromkeys", "__class_getitem__"]
  nothings := ["__hash__"]
  maker := true
  told := true

/-- The members of ranges. -/
def rangeMembers : Members where
  slots := ["__repr__", "__hash__", "__getattribute__", "__lt__", "__le__", "__eq__", "__ne__", "__gt__",
    "__ge__", "__iter__", "__bool__", "__len__", "__getitem__", "__contains__"]
  methods := ["__reversed__", "__reduce__", "count", "index"]
  data := ["start", "stop", "step"]
  maker := true
  told := true

end Template
end CodeCensus
