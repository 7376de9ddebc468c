import FieldRules.Regex.Syntax
import FieldRules.Value.Class
import FieldRules.Value.Fault

/-!
# Values

The values that are validated, that rules take as arguments, and that expressions compute with. An
object carries the attributes of its class beside its own, so that everything there is to read of it is
in the value.
-/

namespace FieldRules

/-- What a gate asks of a field: that it passed or that it was rejected. -/
inductive Outcome where
  | passed | rejected
  deriving DecidableEq, Repr, Inhabited

/-- The name of an outcome. -/
def Outcome.text : Outcome → String
  | passed => "passed"
  | rejected => "rejected"

/-- What an expression gives for a name that has no value. A strict one may only be asked whether it
is defined. `fault` is what any other use of it reports. -/
structure Undefined where
  strict : Bool
  fault : Fault
  deriving DecidableEq, Repr

/-- The three views of a dictionary. -/
inductive View where
  | keys | values | items
  deriving DecidableEq, Repr

inductive Value where
  | none
  | bool (b : Bool)
  | int (n : Int)
  | float (x : Float)
  | string (s : String)
  | markup (s : String)
  | bytes (data : List UInt8)
  | pattern (p : Regex)
  | list (items : List Value)
  | tuple (items : List Value)
  | set (items : List Value)
  | dict (entries : List (Value × Value))
  | classRef (c : Class)
  | obj (c : Class) (shared own : List (String × Value))
  | bare
  | outcome (o : Outcome)
  | range (start stop step : Int)
  | view (v : View) (entries : List (Value × Value))
  | stream (kind : String) (items : List Value) (fault? : Option Fault)
  | undefined (u : Undefined)
  | method (receiver : Value) (name : String)
  | function (name : String)
  deriving Inhabited

namespace Value

/-- Whether the class is one whose instances are dictionaries. -/
def isDictionaryClass (c : Class) : Bool :=
  c.descendsFrom Class.dict

/-- The class of a value. -/
def kind : Value → Class
  | none => .noneType
  | bool _ => .bool
  | int _ => .int
  | float _ => .float
  | string _ => .string
  | markup _ => .markup
  | bytes _ => .bytes
  | pattern _ => .pattern
  | list _ => .list
  | tuple _ => .tuple
  | set _ => .set
  | dict _ => .dict
  | classRef c => if c.descendsFrom .handler || (Class.concreteMembers c).length > 0
      then { name := ⟨"abc", "ABCMeta"⟩, ancestors := [Class.type.name] } else .type
  | obj c _ _ => c
  | bare => .bareObject
  | outcome _ => .outcome
  | range .. => .range
  | view .keys _ => .builtin "dict_keys"
  | view .values _ => .builtin "dict_values"
  | view .items _ => .builtin "dict_items"
  | stream kind _ _ => .builtin kind
  | undefined u => .builtin (if u.strict then "StrictUndefined" else "Undefined")
  | method .. => .builtin "builtin_function_or_method"
  | function _ => .builtin "function"

/-- The name of the kind of a value, as faults report it. -/
def kindName (v : Value) : String :=
  v.kind.simpleName

/-- The name of the kind of a value as an object, with its module if it has one worth naming. -/
def kindText : Value → String
  | none => "None"
  | v => v.kind.name.key ++ " object"

/-- The text of a value that is text. -/
def text? : Value → Option String
  | string s => some s
  | markup s => some s
  | _ => Option.none

/-- The entries of a value that is a dictionary. -/
def entries? : Value → Option (List (Value × Value))
  | dict entries => some entries
  | obj c _ own =>
    if isDictionaryClass c then some (own.map fun (k, v) => (string k, v)) else Option.none
  | _ => Option.none

/-- The integer that a value counts as, truth values included. -/
def integer? : Value → Option Int
  | bool b => some (if b then 1 else 0)
  | int n => some n
  | _ => Option.none

/-- Whether the value is there, which is all that may be asked of a strict undefined one. -/
def isDefined : Value → Bool
  | undefined _ => false
  | _ => true

/-- Whether there is a value at all. -/
def isPresent : Value → Bool
  | none => false
  | _ => true

/-- The attribute of that name, of the object itself or else of its class. -/
def field? (own shared : List (String × Value)) (name : String) : Option Value :=
  own.lookup name <|> shared.lookup name

/-- How many integers the range holds. -/
def rangeLength (start stop step : Int) : Nat :=
  if 0 < step then ((stop - start + step - 1) / step).toNat
  else if step < 0 then ((start - stop - step - 1) / (-step)).toNat
  else 0

/-- The integers of a range. -/
def rangeItems (start stop step : Int) : List Value :=
  (List.range (rangeLength start stop step)).map fun (i : Nat) => int (start + step * i)

end Value

end FieldRules
