/-!
# Classes

A class is known by the module it lives in, its name, and the classes it is derived from. The lineage of
a class starts with the class itself and goes from special to general; the class of everything,
`object`, ends every lineage and is not written in it. A few classes are abstract: other classes count
as derived from them by what they can do.
-/

namespace FieldRules

/-- The name of a class with the module it lives in. -/
structure TypeName where
  home : String
  name : String
  deriving DecidableEq, Repr, Inhabited

/-- A class with the classes it is derived from, special before general. -/
structure Class where
  name : TypeName
  ancestors : List TypeName := []
  deriving DecidableEq, Repr, Inhabited

namespace TypeName

/-- The module of the classes that every program knows. -/
def builtinHome : String := "builtins"

/-- The name with its module, which is left out for a class that every program knows. -/
def key (n : TypeName) : String :=
  if n.home == builtinHome then n.name else n.home ++ "." ++ n.name

/-- The name with its module in any case. -/
def qualified (n : TypeName) : String :=
  n.home ++ "." ++ n.name

end TypeName

namespace Class

/-- A class that every program knows, derived from others of that sort. -/
def builtin (name : String) (ancestors : List String := []) : Class where
  name := ⟨TypeName.builtinHome, name⟩
  ancestors := ancestors.map fun a => ⟨TypeName.builtinHome, a⟩

/-- A class of the abstract collections, derived from others of that sort. -/
def abstractCollection (name : String) (ancestors : List String := []) : Class where
  name := ⟨"collections.abc", name⟩
  ancestors := ancestors.map fun a => ⟨"collections.abc", a⟩

def object : Class := builtin "object"
def noneType : Class := builtin "NoneType"
def bool : Class := builtin "bool" ["int"]
def int : Class := builtin "int"
def float : Class := builtin "float"
def string : Class := builtin "str"
def bytes : Class := builtin "bytes"
def list : Class := builtin "list"
def tuple : Class := builtin "tuple"
def set : Class := builtin "set"
def dict : Class := builtin "dict"
def range : Class := builtin "range"
def type : Class := builtin "type"

/-- Text that is safe to stand in a document as it is. -/
def markup : Class where
  name := ⟨"markupsafe", "Markup"⟩
  ancestors := [Class.string.name]

def pattern : Class where name := ⟨"re", "Pattern"⟩
def any : Class where name := ⟨"typing", "Any"⟩
def sequence : Class :=
  abstractCollection "Sequence" ["Reversible", "Collection", "Sized", "Iterable", "Container"]
def mapping : Class :=
  abstractCollection "Mapping" ["Collection", "Sized", "Iterable", "Container"]
def sized : Class := abstractCollection "Sized"
def callable : Class := abstractCollection "Callable"
def number : Class where name := ⟨"numbers", "Number"⟩

/-- The class of the two outcomes of a field. -/
def outcome : Class where
  name := ⟨"constraint_lib.metadata", "Outcome"⟩
  ancestors := [⟨"enum", "Enum"⟩]

/-- The class from which every handler class is derived. -/
def handler : Class where
  name := ⟨"constraint_lib.handlers.base", "ConstraintHandler"⟩
  ancestors := [⟨"abc", "ABC"⟩]

/-- The class of a fixed object without any features. -/
def bareObject : Class where name := ⟨"models", "Opaque"⟩

/-- The class and the classes it is derived from, without the class of everything. -/
def lineage (c : Class) : List TypeName :=
  if c.name = Class.object.name then [] else c.name :: c.ancestors

/-- Whether the class is `base` or named as derived from it. -/
def descendsFrom (c base : Class) : Bool :=
  base.name = Class.object.name || c.lineage.contains base.name

/-- Whether the class is derived from one of the classes. -/
def descendsFromAny (c : Class) (bases : List Class) : Bool :=
  bases.any c.descendsFrom

/-- The concrete classes that count as derived from an abstract class. -/
def concreteMembers (abstract : Class) : List Class :=
  if abstract.name = Class.sized.name then
    [string, bytes, list, tuple, set, dict, range, mapping, sequence]
  else if abstract.name = Class.number.name then [int, float]
  else if abstract.name = Class.sequence.name then [string, bytes, list, tuple, range]
  else if abstract.name = Class.mapping.name then [dict]
  else []

/-- Whether the class is derived from `base`, by name or by what it can do. -/
def isSubclassOf (c base : Class) : Bool :=
  c.descendsFrom base || c.descendsFromAny (concreteMembers base)

/-- The simple name of a class. -/
def simpleName (c : Class) : String :=
  c.name.name

end Class

end FieldRules
