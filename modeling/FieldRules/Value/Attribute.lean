import FieldRules.Value.Basic

/-!
# Attributes

What can be read of a value by a name, and how a field of an object is read and written. A dictionary
keeps its fields as entries; anything else keeps them as attributes.
-/

namespace FieldRules.Value

/-- The methods of texts. -/
def textMethods : List String :=
  ["capitalize", "casefold", "center", "count", "encode", "endswith", "expandtabs", "find", "format",
    "format_map", "index", "isalnum", "isalpha", "isascii", "isdecimal", "isdigit", "isidentifier",
    "islower", "isnumeric", "isprintable", "isspace", "istitle", "isupper", "join", "ljust", "lower",
    "lstrip", "maketrans", "partition", "removeprefix", "removesuffix", "replace", "rfind", "rindex",
    "rjust", "rpartition", "rsplit", "rstrip", "split", "splitlines", "startswith", "strip",
    "swapcase", "title", "translate", "upper", "zfill"]

/-- The methods of dictionaries. -/
def dictMethods : List String :=
  ["clear", "copy", "fromkeys", "get", "items", "keys", "pop", "popitem", "setdefault", "update",
    "values"]

/-- The methods of a value. -/
def methodNames : Value → List String
  | .string _ => textMethods
  | .markup _ => textMethods ++ ["escape", "striptags", "unescape"]
  | .bool _ | .int _ =>
    ["as_integer_ratio", "bit_count", "bit_length", "conjugate", "from_bytes", "to_bytes"]
  | .float _ => ["as_integer_ratio", "conjugate", "fromhex", "hex", "is_integer"]
  | .list _ => ["append", "clear", "copy", "count", "extend", "index", "insert", "pop", "remove",
      "reverse", "sort"]
  | .tuple _ => ["count", "index"]
  | .set _ => ["add", "clear", "copy", "difference", "discard", "intersection", "isdisjoint",
      "issubset", "issuperset", "pop", "remove", "union", "update"]
  | .bytes _ => textMethods.filter (fun n => !(["casefold", "encode", "format", "format_map", "isdecimal",
      "isidentifier", "isnumeric", "isprintable"].contains n)) ++ ["decode", "fromhex", "hex"]
  | .range .. => ["count", "index"]
  | .pattern _ => ["findall", "finditer", "fullmatch", "match", "scanner", "search", "split", "sub",
      "subn"]
  | .dict _ => dictMethods
  | .obj c _ _ => if isDictionaryClass c then dictMethods else []
  | _ => []

/-- The attributes with two underscores on either side that every value has. -/
def commonHidden : List String :=
  ["__class__", "__delattr__", "__dir__", "__doc__", "__eq__", "__format__", "__ge__",
    "__getattribute__", "__getstate__", "__gt__", "__hash__", "__init__", "__init_subclass__",
    "__le__", "__lt__", "__ne__", "__new__", "__reduce__", "__reduce_ex__", "__repr__",
    "__setattr__", "__sizeof__", "__str__", "__subclasshook__"]

/-- The further such attributes of a value. -/
def ownHidden : Value → List String
  | .string _ => ["__add__", "__contains__", "__getitem__", "__getnewargs__", "__iter__", "__len__",
      "__mod__", "__mul__", "__rmod__", "__rmul__"]
  | .markup _ => ["__add__", "__contains__", "__dict__", "__getitem__", "__getnewargs__", "__html__",
      "__html_format__", "__iter__", "__len__", "__mod__", "__module__", "__mul__", "__radd__",
      "__rmod__", "__rmul__", "__slots__"]
  | .bool _ | .int _ => ["__abs__", "__add__", "__and__", "__bool__", "__ceil__", "__divmod__",
      "__float__", "__floor__", "__floordiv__", "__getnewargs__", "__index__", "__int__",
      "__invert__", "__lshift__", "__mod__", "__mul__", "__neg__", "__or__", "__pos__", "__pow__",
      "__radd__", "__rand__", "__rdivmod__", "__rfloordiv__", "__rlshift__", "__rmod__", "__rmul__",
      "__ror__", "__round__", "__rpow__", "__rrshift__", "__rshift__", "__rsub__", "__rtruediv__",
      "__rxor__", "__sub__", "__truediv__", "__trunc__", "__xor__"]
  | .float _ => ["__abs__", "__add__", "__bool__", "__ceil__", "__divmod__", "__float__", "__floor__",
      "__floordiv__", "__getformat__", "__getnewargs__", "__int__", "__mod__", "__mul__", "__neg__",
      "__pos__", "__pow__", "__radd__", "__rdivmod__", "__rfloordiv__", "__rmod__", "__rmul__",
      "__round__", "__rpow__", "__rsub__", "__rtruediv__", "__sub__", "__truediv__", "__trunc__"]
  | .none => ["__bool__"]
  | .list _ => ["__add__", "__class_getitem__", "__contains__", "__delitem__", "__getitem__",
      "__iadd__", "__imul__", "__iter__", "__len__", "__mul__", "__reversed__", "__rmul__",
      "__setitem__"]
  | .tuple _ => ["__add__", "__class_getitem__", "__contains__", "__getitem__", "__getnewargs__",
      "__iter__", "__len__", "__mul__", "__rmul__"]
  | .dict _ => ["__class_getitem__", "__contains__", "__delitem__", "__getitem__", "__ior__",
      "__iter__", "__len__", "__or__", "__reversed__", "__ror__", "__setitem__"]
  | .set _ => ["__and__", "__contains__", "__iter__", "__len__", "__or__", "__sub__", "__xor__"]
  | .bytes _ => ["__add__", "__bytes__", "__contains__", "__getitem__", "__getnewargs__", "__iter__",
      "__len__", "__mod__", "__mul__", "__rmod__", "__rmul__"]
  | .range .. => ["__bool__", "__contains__", "__getitem__", "__iter__", "__len__", "__reversed__"]
  | .obj .. | .bare => ["__dict__", "__module__", "__weakref__"]
  | .classRef _ => ["__abstractmethods__", "__annotations__", "__base__", "__bases__", "__basicsize__",
      "__call__", "__dict__", "__dictoffset__", "__flags__", "__instancecheck__", "__itemsize__",
      "__module__", "__mro__", "__name__", "__or__", "__prepare__", "__qualname__", "__ror__",
      "__subclasscheck__", "__subclasses__", "__text_signature__", "__weakrefoffset__"]
  | .method .. | .function _ => ["__call__", "__name__", "__qualname__", "__module__", "__self__"]
  | .pattern _ => ["__class_getitem__", "__copy__", "__deepcopy__"]
  | .outcome _ => ["__module__", "__objclass__"]
  | .undefined _ => ["__add__", "__bool__", "__call__", "__float__", "__getattr__", "__getitem__",
      "__int__", "__iter__", "__len__", "__module__", "__slots__", "__sub__", "__mul__", "__neg__",
      "__pos__", "__pow__", "__mod__", "__truediv__", "__floordiv__", "__radd__", "__rsub__",
      "__rmul__", "__rmod__", "__rpow__", "__rtruediv__", "__rfloordiv__", "__complex__"]
  | _ => []

/-- The value of an attribute that holds data. -/
def dataAttribute? : Value → String → Option Value
  | .pattern p, "pattern" => some (.string p.source)
  | .bool b, "real" => some (.int (if b then 1 else 0))
  | .bool b, "numerator" => some (.int (if b then 1 else 0))
  | .int n, "real" => some (.int n)
  | .int n, "numerator" => some (.int n)
  | .bool _, "imag" => some (.int 0)
  | .int _, "imag" => some (.int 0)
  | .bool _, "denominator" => some (.int 1)
  | .int _, "denominator" => some (.int 1)
  | .float x, "real" => some (.float x)
  | .float _, "imag" => some (.float 0.0)
  | .range start _ _, "start" => some (.int start)
  | .range _ stop _, "stop" => some (.int stop)
  | .range _ _ step, "step" => some (.int step)
  | .outcome o, "value" => some (.string o.text)
  | .outcome o, "name" => some (.string (String.ofList (o.text.toList.map Char.toUpper)))
  | .obj c shared own, name =>
    field? (if isDictionaryClass c then [] else own) shared name
  | _, _ => Option.none

/-- The value of an attribute, if there is one with that name. -/
def attribute? (v : Value) (name : String) : Option Value :=
  match dataAttribute? v name with
  | some w => some w
  | Option.none =>
    if (methodNames v).contains name then some (.method v name)
    else if (ownHidden v).contains name || commonHidden.contains name then some (.method v name)
    else Option.none

/-! ## Fields -/

/-- The value of a field: the entry of a dictionary, else an attribute, else nothing. -/
def read (name : String) (v : Value) : Value :=
  match v.entries? with
  | some entries => ((entries.find? fun (k, _) => k.text? == some name).map Prod.snd).getD .none
  | Option.none => (attribute? v name).getD .none

/-- Puts a value under a name. -/
def putField (name : String) (w : Value) : List (String × Value) → List (String × Value)
  | [] => [(name, w)]
  | (n, v) :: rest => if n == name then (n, w) :: rest else (n, v) :: putField name w rest

/-- Puts a value under a text as the key. -/
def putEntry (name : String) (w : Value) : List (Value × Value) → List (Value × Value)
  | [] => [(.string name, w)]
  | (k, v) :: rest => if k.text? == some name then (k, w) :: rest else (k, v) :: putEntry name w rest

/-- Writes a field. Only dictionaries and objects have fields that can be written. -/
def write (v : Value) (name : String) (w : Value) : Except Fault Value :=
  match v with
  | .dict entries => pure (.dict (putEntry name w entries))
  | .obj c shared own => pure (.obj c shared (putField name w own))
  | .bare => pure (.obj .bareObject [] [(name, w)])
  | v => throw (if (attribute? v name).isSome then .readOnlyAttribute v.kindName name
      else .noAttribute v.kindName name)

end FieldRules.Value
