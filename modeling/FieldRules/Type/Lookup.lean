import FieldRules.Error
import FieldRules.Text.Split
import FieldRules.Type.Declaration

/-!
# Import paths

An import path names a class by its module and, behind a colon, by a dotted name inside of it: each part
of the name is looked up in what the parts before it lead to.
-/

namespace FieldRules.Declarations

/-- What a name leads to: a class, or something else. -/
inductive Target where
  | classRef (c : Class)
  | other
  deriving Repr, Inhabited

/-- The names of functions that are known everywhere. -/
def builtinFunctions : List String :=
  ["abs", "aiter", "all", "anext", "any", "ascii", "bin", "breakpoint", "callable", "chr", "compile",
    "delattr", "dir", "divmod", "eval", "exec", "exit", "format", "getattr", "globals", "hasattr",
    "hash", "help", "hex", "id", "input", "isinstance", "issubclass", "iter", "len", "locals", "max",
    "min", "next", "oct", "open", "ord", "pow", "print", "quit", "repr", "round", "setattr", "sorted",
    "sum", "vars"]

/-- The names of values that are known everywhere. -/
def builtinValues : List String :=
  ["Ellipsis", "False", "None", "NotImplemented", "True"]

/-- The attributes with two underscores on either side that every module has. -/
def moduleHidden : List String :=
  ["__doc__", "__loader__", "__name__", "__package__", "__spec__"]

/-- The methods of the values of a class. -/
def methodsOf (name : TypeName) : List String :=
  if name == Class.string.name then Value.textMethods
  else if name == Class.dict.name then Value.dictMethods ++ ["fromkeys"]
  else if name == Class.int.name then
    Value.methodNames (.int 0) ++ ["real", "imag", "numerator", "denominator"]
  else if name == Class.float.name then Value.methodNames (.float 0) ++ ["real", "imag"]
  else if name == Class.list.name then Value.methodNames (.list [])
  else if name == Class.tuple.name then Value.methodNames (.tuple [])
  else if name == Class.set.name then Value.methodNames (.set [])
  else if name == Class.bytes.name then Value.methodNames (.bytes [])
  else if name == Class.range.name then ["count", "index", "start", "stop", "step"]
  else if name == Class.type.name then ["mro"]
  else if name == Class.handler.name then
    ["NAMES", "SUPPORTED_TYPES", "ARITY", "REQUIRED", "names", "supported_types", "supports",
      "required_when_null", "arity", "validate", "set_message_keys", "register"]
  else []

/-- What a name leads to in a module. -/
def inModule? (d : Declarations) (module name : String) : Option Target :=
  if module == TypeName.builtinHome then
    match builtin? name with
    | some c => some (.classRef c)
    | none =>
      if builtinFunctions.contains name || builtinValues.contains name || moduleHidden.contains name then
        some .other
      else none
  else
    match d.find? ⟨module, name⟩ with
    | some c => some (.classRef c.declared)
    | none =>
      if d.functions.any (fun f => f.home == module && f.name == name) || moduleHidden.contains name then
        some .other
      else none

/-- What a name leads to in a class. -/
def inClass? (d : Declarations) (c : Class) (name : String) : Option Target :=
  match (d.sharedAttributes c).lookup name with
  | some (.classRef inner) => some (.classRef inner)
  | some _ => some .other
  | none =>
    if name == "__class__" then some (.classRef (Value.classRef c).kind)
    else if c.lineage.any (fun n => (methodsOf n).contains name) || name == "mro"
        || ((Value.classRef c).attribute? name).isSome then
      some .other
    else none

/-- What a name leads to in what earlier names led to. -/
def inTarget? (d : Declarations) (t : Target) (name : String) : Option Target :=
  match t with
  | .classRef c => d.inClass? c name
  | .other => if Value.commonHidden.contains name then some .other else none

/-- Finds the module that a name stands for. Modules have no modules in them. -/
def checkModule (d : Declarations) (module path : String) : Except Error Unit := do
  match (Text.splitAll ['.'] module.toList).map String.ofList with
  -- A point in front makes the path relative to a package, and none is given.
  | "" :: _ =>
    throw (.fault (.wrongArguments
      ("the 'package' argument is required to perform a relative import for "
        ++ Text.quoteString module)))
  | outer :: rest =>
    if outer == TypeName.builtinHome || d.homes.contains outer then
      match rest with
      | [] => pure ()
      | inner :: _ =>
        throw (.setup (.noInnerModule module path (outer ++ "." ++ inner) outer))
    else throw (.setup (.noModule module path outer))
  | [] => pure ()

/-- The class that an import path names. -/
def classAt (d : Declarations) (path : String) : Except Error Class := do
  -- The first colon counts; further ones are part of the name.
  let module := String.ofList (path.toList.takeWhile (· != ':'))
  let name := String.ofList ((path.toList.dropWhile (· != ':')).drop 1)
  if module.isEmpty || name.isEmpty then throw (.setup (.malformedPath path))
  else
    d.checkModule module path
    let parts := (Text.splitAll ['.'] name.toList).map String.ofList
    let found := match parts with
      | [] => none
      | first :: rest => rest.foldl (fun t? part => t?.bind fun t => d.inTarget? t part)
          (d.inModule? module first)
    match found with
    | none => throw (.setup (.notInModule name module))
    | some .other => throw (.setup (.notClass path))
    | some (.classRef c) => return c

end FieldRules.Declarations
