import FieldRules.Handler.Basic
import FieldRules.Value.Order

/-!
# Bounds

The handlers that compare numbers, or the sizes of texts and collections, with bounds, and those that
ask whether there is a value at all.
-/

namespace FieldRules.Handler

/-- The class of a handler that is always there. -/
def builtinClass (name : String) : Class where
  name := ⟨Class.handler.name.home, name⟩
  ancestors := Class.handler.lineage

/-- What can be compared with a bound: numbers and what has a size. -/
def boundedTypes : List Class := [.number, .sized]

/-- A bound for numbers: the argument as it is if it is a number, else made into one. -/
def numberBound (f : Fragment) (index : Int) : Except Error Value := do
  let v ← f.argument index
  if v.isOf .number then return v else f.argument index (some .float)

/-- A bound for sizes. -/
def sizeBound (f : Fragment) (index : Int) : Except Error Value :=
  f.argument index (some .int)

/-- Whether one value is at most another. -/
def atMost (v w : Value) : Except Error Bool :=
  liftFault (v.compareBy .lessOrEqual w)

/-- Whether one value is at least another. -/
def atLeast (v w : Value) : Except Error Bool :=
  liftFault (v.compareBy .greaterOrEqual w)

/-- The size of a value. -/
def sizeOf (v : Value) : Except Error Value := do
  return .int (← liftFault v.length)

/-- Whether a value lies between two bounds. The second one is only looked at if the first one holds. -/
def within (low : Except Error Value) (v : Value) (high : Except Error Value) :
    Except Error Bool := do
  if ← atMost (← low) v then atMost v (← high) else return false

/-- There must be a value. -/
def requiredValue : Handler where
  handlerClass := builtinClass "RequiredHandler"
  names := ["required"]
  required := true
  check _ _ _ := accept

/-- There must be a value that is not empty. -/
def notEmpty : Handler where
  handlerClass := builtinClass "NotEmptyHandler"
  names := ["not-empty"]
  types? := some [.sized]
  required := true
  check v f ctx := do
    let size ← (liftFault v.length : Except Error Nat)
    acceptIf (0 < size) ctx f none

/-- There must be a text that is not blank. -/
def notBlank : Handler where
  handlerClass := builtinClass "NotBlankHandler"
  names := ["not-blank"]
  types? := some [.string]
  required := true
  check v f ctx := acceptIf (!((v.text?.getD "").toList.all Text.isBlank)) ctx f none

/-- The size must be a number, or lie between two. -/
def length : Handler where
  handlerClass := builtinClass "LengthHandler"
  names := ["length"]
  types? := some [.sized]
  arity := .between 1 2
  check v f ctx := do
    let size ← (sizeOf v : Except Error Value)
    if f.arguments.length == 1 then
      let wanted ← (sizeBound f 0 : Except Error Value)
      acceptIf (size.equal wanted) ctx f none
    else
      acceptIf (← (within (sizeBound f 0) size (sizeBound f 1) : Except Error Bool)) ctx f "range"

/-- A number, or the size of anything else, must satisfy a condition. -/
def bounded (number size : Except Error Bool) (v : Value) (f : Fragment) (ctx : Context) :
    Check Finding := do
  if v.isOf .number then acceptIf (← number) ctx f none
  else acceptIf (← size) ctx f "size"

/-- A number, or a size, must be at least a bound. -/
def minimum : Handler where
  handlerClass := builtinClass "MinHandler"
  names := ["min"]
  types? := some boundedTypes
  arity := .exactly 1
  check v f := bounded (do atLeast v (← numberBound f 0))
    (do atLeast (← sizeOf v) (← sizeBound f 0)) v f

/-- A number, or a size, must be at most a bound. -/
def maximum : Handler where
  handlerClass := builtinClass "MaxHandler"
  names := ["max"]
  types? := some boundedTypes
  arity := .exactly 1
  check v f := bounded (do atMost v (← numberBound f 0))
    (do atMost (← sizeOf v) (← sizeBound f 0)) v f

/-- A number, or a size, must lie between two bounds. -/
def range : Handler where
  handlerClass := builtinClass "RangeHandler"
  names := ["range"]
  types? := some boundedTypes
  arity := .exactly 2
  check v f := bounded (within (numberBound f 0) v (numberBound f 1))
    (do within (sizeBound f 0) (← sizeOf v) (sizeBound f 1)) v f

end FieldRules.Handler
