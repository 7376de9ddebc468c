import FieldRules.Expr.Access
import FieldRules.Expr.Arguments
import FieldRules.Text.Case
import FieldRules.Value.Format
import FieldRules.Value.Order

/-!
# Tests

The tests that an expression may put to a value with `is`.
-/

namespace FieldRules.Expr

/-- A test: its signature, and how it answers for the values of its parameters. -/
structure ValueTest where
  signature : Signature
  holds : List Value → Except Fault Bool

namespace ValueTest

/-- A test of a value alone. -/
def ofValue (name : String) (holds : Value → Except Fault Bool) : String × ValueTest :=
  (name, ⟨⟨"test_" ++ name, 0, [⟨"value", none⟩]⟩, fun
    | [v] => holds v
    | _ => pure false⟩)

/-- A test of a value with another. -/
def ofPair (name callee first second : String) (holds : Value → Value → Except Fault Bool) :
    String × ValueTest :=
  (name, ⟨⟨callee, 0, [⟨first, none⟩, ⟨second, none⟩]⟩, fun
    | [v, w] => holds v w
    | _ => pure false⟩)

/-- The remainder of a value, which a text takes as a template. -/
def remainder (v w : Value) : Except Fault Value :=
  match v with
  | .string s => do return .string (← Value.format s w)
  | .markup s => do return .markup (← Value.format s w)
  | _ => Value.operate .modulo v w

/-- Whether the remainder by a number is the given one. -/
def remainderIs (n : Int) (v w : Value) : Except Fault Bool := do
  return Value.equal (← remainder v w) (.int n)

/-- Whether a value can be gone through. -/
def isIterable (v : Value) : Except Fault Bool :=
  match v, v.items with
  | .stream .., _ => pure true
  | _, .ok _ => pure true
  | _, .error (.notIterable _) => pure false
  | _, .error f => throw f

/-- Whether two values are equal, where a strict undefined one may not be compared. -/
def same (v w : Value) : Except Fault Bool :=
  match v.strictFault?, w.strictFault? with
  | some f, _ => throw f
  | _, some f => throw f
  | _, _ => pure (Value.equal v w)

/-- Whether two values are one and the same, which is known of simple values only. -/
def identical : Value → Value → Bool
  | .none, .none => true
  | .bool a, .bool b => a == b
  | .int a, .int b => a == b
  | .string a, .string b => a == b
  | _, _ => false

/-- The comparisons by order, each under all of its names. -/
def orderTests : List (String × ValueTest) :=
  let row (c : Comparison) (callee : String) (names : List String) :=
    names.map fun n => ofPair n callee "a" "b" (Value.compareBy c)
  row .less "lt" ["lt", "lessthan", "<"] ++ row .lessOrEqual "le" ["le", "<="]
    ++ row .greater "gt" ["gt", "greaterthan", ">"] ++ row .greaterOrEqual "ge" ["ge", ">="]

/-- All tests by their names. -/
def table : List (String × ValueTest) :=
  [ ofValue "defined" fun v => pure v.isDefined,
    ofValue "undefined" fun v => pure !v.isDefined,
    ofValue "none" fun v => pure (match v with | .none => true | _ => false),
    ofValue "boolean" fun v => pure (match v with | .bool _ => true | _ => false),
    ofValue "true" fun v => pure (match v with | .bool true => true | _ => false),
    ofValue "false" fun v => pure (match v with | .bool false => true | _ => false),
    ofValue "integer" fun v => pure (match v with | .int _ => true | _ => false),
    ofValue "float" fun v => pure (match v with | .float _ => true | _ => false),
    ofValue "number" fun v => pure v.numeric?.isSome,
    ofValue "string" fun v => pure v.text?.isSome,
    ofValue "mapping" fun v => pure v.entries?.isSome,
    ofValue "sequence" fun v => pure (match v with
      | .string _ | .markup _ | .list _ | .tuple _ | .bytes _ | .range .. | .undefined _ => true
      | _ => v.entries?.isSome),
    ofValue "iterable" isIterable,
    ofValue "callable" fun v => pure (match v with
      | .classRef _ | .method .. | .function _ | .undefined _ => true
      | _ => false),
    ofValue "escaped" fun v => pure (match v with | .markup _ => true | _ => false),
    ofValue "lower" fun v => do return Text.isLower (← v.text).toList,
    ofValue "upper" fun v => do return Text.isUpper (← v.text).toList,
    ofValue "odd" fun v => remainderIs 1 v (.int 2),
    ofValue "even" fun v => remainderIs 0 v (.int 2),
    ofPair "divisibleby" "test_divisibleby" "value" "num" (remainderIs 0),
    ofPair "sameas" "test_sameas" "value" "other" fun v w => pure (identical v w),
    ofPair "in" "test_in" "value" "seq" fun v w => Value.contains w v,
    ofPair "eq" "eq" "a" "b" same,
    ofPair "equalto" "eq" "a" "b" same,
    ofPair "==" "eq" "a" "b" same,
    ofPair "ne" "ne" "a" "b" fun v w => do return !(← same v w),
    ofPair "!=" "ne" "a" "b" fun v w => do return !(← same v w) ] ++ orderTests

/-- Puts a test to a value. Nothing if there is no such test. -/
def run? (name : String) (v : Value) (args : List Value) (named : List (String × Value)) :
    Option (Except Fault Bool) :=
  (table.lookup name).map fun t => do t.holds (← t.signature.bind (v :: args) named)

end ValueTest

end FieldRules.Expr
