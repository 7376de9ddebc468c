import FieldRules.Number.Text
import FieldRules.Value.Items
import FieldRules.Value.Render

/-!
# Arithmetic

The operators of expressions on values. Integers are exact; an integer that meets a floating-point
number is rounded to the nearest one. Texts, lists, tuples and bytes can be joined and repeated, and one
set can be taken from another. A joined text is escaped where it meets a text that is safe already.
-/

namespace FieldRules

/-- The operators that take two values and compute a third. -/
inductive Operator where
  | add | subtract | multiply | divide | floorDivide | modulo | power
  deriving DecidableEq, Repr

/-- The sign of an operator in faults. -/
def Operator.symbol : Operator → String
  | add => "+"
  | subtract => "-"
  | multiply => "*"
  | divide => "/"
  | floorDivide => "//"
  | modulo => "%"
  | power => "** or pow()"

namespace Value

/-- The floating-point number nearest to an integer. -/
def floatOfInt (n : Int) : Except Fault Float :=
  match Number.ofInt? n with
  | some x => pure x
  | Option.none => throw .integerTooLargeForFloat

/-- A number as a floating-point one. -/
def floatOf : Numeric → Except Fault Float
  | .float x => pure x
  | .int n => floatOfInt n

/-! ## Numbers -/

/-- The exact quotient of two integers, rounded once. -/
def divideInts (a b : Int) : Except Fault Value :=
  if b == 0 then throw .divisionByZero
  else if a == 0 then pure (float (if b < 0 then -0.0 else 0.0))
  else match Number.Binary.nearest? ((a < 0) != (b < 0)) a.natAbs b.natAbs with
    | some x => pure (float x)
    | Option.none => throw .quotientTooLarge

/-- The greatest number of bits of an integer power that is worked out. -/
def powerLimit : Nat := 50000000

/-- A power of floating-point numbers. -/
def powerFloats (a b : Float) : Except Fault Value :=
  if a == 0.0 && b < 0.0 then throw .zeroToNegativePower
  else
    let r := Float.pow a b
    if r.isInf && a.isFinite && b.isFinite then throw .powerTooLarge
    -- A root of a negative number is a complex one, of which nothing but its kind is known.
    else if r.isNaN && !a.isNaN && !b.isNaN then pure (stream "complex" [] Option.none)
    else pure (float r)

/-- A power of integers, a floating-point number if the exponent is negative. -/
def powerInts (a b : Int) : Except Fault Value := do
  if b < 0 then powerFloats (← floatOfInt a) (← floatOfInt b)
  else if a.natAbs.log2 * b.toNat ≤ powerLimit then return int (a.pow b.toNat)
  else throw .outOfMemory

/-- An operator on floating-point numbers. -/
def floats (op : Operator) (a b : Float) : Except Fault Value :=
  match op with
  | .add => pure (float (a + b))
  | .subtract => pure (float (a - b))
  | .multiply => pure (float (a * b))
  | .divide => if b == 0.0 then throw .floatDivisionByZero else pure (float (a / b))
  | .floorDivide =>
    if b == 0.0 then throw .floatFloorDivisionByZero else pure (float (Number.divMod a b).1)
  | .modulo => if b == 0.0 then throw .floatModuloByZero else pure (float (Number.divMod a b).2)
  | .power => powerFloats a b

/-- An operator on numbers. -/
def numbers (op : Operator) (x y : Numeric) : Except Fault Value :=
  match x, y with
  | .int a, .int b =>
    match op with
    | .add => pure (int (a + b))
    | .subtract => pure (int (a - b))
    | .multiply => pure (int (a * b))
    | .divide => divideInts a b
    | .floorDivide => if b == 0 then throw .floorDivisionByZero else pure (int (a.fdiv b))
    | .modulo => if b == 0 then throw .moduloByZero else pure (int (a.fmod b))
    | .power => powerInts a b
  | _, _ => do floats op (← floatOf x) (← floatOf y)

/-! ## Texts and rows -/

/-- One character of a text as it stands in a document. -/
def escapeChar (c : Char) : List Char :=
  if c == '&' then "&amp;".toList
  else if c == '>' then "&gt;".toList
  else if c == '<' then "&lt;".toList
  else if c == '\'' then "&#39;".toList
  else if c == '"' then "&#34;".toList
  else [c]

/-- A text as it stands in a document. -/
def escapeText (s : String) : String :=
  String.ofList (s.toList.flatMap escapeChar)

/-- The least size that nothing has. -/
def sizeLimit : Nat := 9223372036854775808

/-- The most items that there is room for in a repetition. -/
def repeatLimit : Nat := 100000000

/-- A list a number of times over. `tooLong` is reported where not even a size could be given. -/
def repeatList {α : Type} (tooLong : Fault) (xs : List α) (n : Int) : Except Fault (List α) :=
  if (sizeLimit : Int) ≤ n || n < -(sizeLimit : Int) then throw .repeatTooOften
  else if sizeLimit ≤ xs.length * n.toNat then throw tooLong
  else if repeatLimit < xs.length * n.toNat then throw .outOfMemory
  else pure (List.replicate n.toNat xs).flatten

/-- Repeats a value that is a row of items, nothing for any other value. -/
def repeatRow? (v : Value) (n : Int) : Option (Except Fault Value) :=
  let repeatText (s : String) : Except Fault String := do
    return String.ofList (← repeatList (.repeatTooLong "string is") s.toList n)
  match v with
  | string s => some do return string (← repeatText s)
  | markup s => some do return markup (← repeatText s)
  | list xs => some do return list (← repeatList .outOfMemory xs n)
  | tuple xs => some do return tuple (← repeatList .outOfMemory xs n)
  | bytes data => some do return bytes (← repeatList (.repeatTooLong "bytes are") data n)
  | _ => Option.none

/-- Whether the value is a row that can be repeated. -/
def isRow (v : Value) : Bool :=
  (repeatRow? v 0).isSome

/-- The fault of an operator on values that it does not take. -/
def operandFault (op : Operator) (v w : Value) : Fault :=
  match v, w with
  | undefined u, _ => u.fault
  | _, undefined u => u.fault
  | _, _ => .unsupportedOperands op.symbol v.kindName w.kindName

/-- Adds values that are not both numbers. -/
def join (v w : Value) : Except Fault Value :=
  match v, w with
  | undefined u, _ => throw u.fault
  | _, undefined u => throw u.fault
  | string a, string b => pure (string (a ++ b))
  | string a, markup b => pure (markup (escapeText a ++ b))
  | markup a, string b => pure (markup (a ++ escapeText b))
  | markup a, markup b => pure (markup (a ++ b))
  | list a, list b => pure (list (a ++ b))
  | tuple a, tuple b => pure (tuple (a ++ b))
  | bytes a, bytes b => pure (bytes (a ++ b))
  | string _, _ => throw (.cannotConcatenate "str" w.kindName)
  | markup _, _ => throw (.cannotConcatenate "str" w.kindName)
  | list _, _ => throw (.cannotConcatenate "list" w.kindName)
  | tuple _, _ => throw (.cannotConcatenate "tuple" w.kindName)
  | bytes _, _ => throw (.cannotExtendBytes w.kindName)
  | _, _ => throw (operandFault .add v w)

/-- Multiplies values that are not both numbers. -/
def repeatValue (v w : Value) : Except Fault Value :=
  match v, w with
  | undefined u, _ => throw u.fault
  | _, undefined u => throw u.fault
  | _, _ =>
    match w.integer?.bind (repeatRow? v), v.integer?.bind (repeatRow? w) with
    | some r, _ => r
    | _, some r => r
    | _, _ =>
      if v.isRow then throw (.repeatByNonInteger w.kindName)
      else if w.isRow then throw (.repeatByNonInteger v.kindName)
      else throw (operandFault .multiply v w)

/-- An operator on two values other than the format operator. -/
def operate (op : Operator) (v w : Value) : Except Fault Value :=
  match v.numeric?, w.numeric? with
  | some x, some y => numbers op x y
  | _, _ =>
    match op, v, w with
    | .add, _, _ => join v w
    | .multiply, _, _ => repeatValue v w
    | .subtract, set a, set b => pure (set (a.filter fun x => !isIn x b))
    | _, _, _ => throw (operandFault op v w)

/-- The value with its sign changed. -/
def negate : Value → Except Fault Value
  | float x => pure (float (-x))
  | undefined u => throw u.fault
  | v =>
    match v.integer? with
    | some n => pure (int (-n))
    | Option.none => throw (.unsupportedOperand "-" v.kindName)

/-- The value as a number. -/
def affirm : Value → Except Fault Value
  | float x => pure (float x)
  | undefined u => throw u.fault
  | v =>
    match v.integer? with
    | some n => pure (int n)
    | Option.none => throw (.unsupportedOperand "+" v.kindName)

end Value

end FieldRules
