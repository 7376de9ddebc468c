import FieldRules.Expr.Access
import FieldRules.Expr.Filter
import FieldRules.Expr.Syntax
import FieldRules.Value.Format

/-!
# Operations of expressions

What the operators of expressions do with values, whether these are known beforehand or not.
-/

namespace FieldRules.Expr

/-- A sign before a value. -/
def applySign (sign : Sign) (v : Value) : Except Fault Value :=
  match sign with
  | .negate => v.negate
  | .affirm => v.affirm
  | .not => do return .bool (!(← v.truth))

/-- The values that fill a template which is safe: texts among them are escaped. -/
def escapeOperand (v : Value) : Value :=
  let escapeOne : Value → Value
    | .string s => .string (Value.escapeText s)
    | x => x
  match v with
  | .tuple items => .tuple (items.map escapeOne)
  | x => escapeOne x

/-- An operator between two values. The remainder of a text is the text filled as a template. -/
def applyOperator (op : Operator) (v w : Value) : Except Fault Value :=
  match op, v with
  | .modulo, .string s => do return .string (← Value.format s w)
  | .modulo, .markup s => do return .markup (← Value.format s (escapeOperand w))
  | _, _ => Value.operate op v w

/-- A comparison between two values. -/
def applyRelation (r : Relation) (v w : Value) : Except Fault Bool :=
  match r with
  | .equal => ValueTest.same v w
  | .notEqual => do return !(← ValueTest.same v w)
  | .order c => Value.compareBy c v w
  | .isIn => w.contains v
  | .notIn => do return !(← w.contains v)

/-- The texts of values, joined. -/
def joinTexts (vs : List Value) : Except Fault String := do
  return "".intercalate (← vs.mapM Value.text)

/-- A dictionary of entries, a later one taking the place of an earlier with the same key. -/
def dictOf (entries : List (Value × Value)) : Except Fault Value := do
  entries.forM fun (k, _) => k.checkKey
  return .dict (entries.foldl (fun acc (k, v) => Value.insertEntry k v acc) [])

end FieldRules.Expr
