import FieldRules.Value.Equal

/-!
# Order

The four comparisons of values. Numbers go by their exact values, text by its characters, lists and
tuples by the first items that differ, and sets by inclusion. Other values have no order.
-/

namespace FieldRules

/-- A comparison by order. -/
inductive Comparison where
  | less | lessOrEqual | greater | greaterOrEqual
  deriving DecidableEq, Repr

namespace Comparison

/-- The sign of a comparison. -/
def symbol : Comparison → String
  | less => "<"
  | lessOrEqual => "<="
  | greater => ">"
  | greaterOrEqual => ">="

/-- Whether a comparison holds of two things in the given order. -/
def holds : Comparison → Ordering → Bool
  | less, o => o == .lt
  | lessOrEqual, o => o != .gt
  | greater, o => o == .gt
  | greaterOrEqual, o => o != .lt

end Comparison

namespace Value

/-- The fault of comparing two values that have no order. -/
def unorderedFault (op : Comparison) (v w : Value) : Fault :=
  match v, w with
  | undefined u, _ => u.fault
  | _, undefined u => u.fault
  | _, _ => .unordered op.symbol v.kindName w.kindName

/-- The order of byte strings. -/
def compareBytes : List UInt8 → List UInt8 → Ordering
  | [], [] => .eq
  | [], _ => .lt
  | _, [] => .gt
  | a :: as, b :: bs => if a == b then compareBytes as bs else compare a.toNat b.toNat

/-- Inclusion of sets in the sense of a comparison. -/
def compareSets (op : Comparison) (a b : List Value) : Bool :=
  let within := a.all fun v => isIn v b
  let around := b.all fun v => isIn v a
  match op with
  | .less => within && a.length < b.length
  | .lessOrEqual => within
  | .greater => around && b.length < a.length
  | .greaterOrEqual => around

mutual

/-- Compares two values. -/
def compareBy (op : Comparison) : Value → Value → Except Fault Bool
  | list a, .list b => compareItems op a b
  | tuple a, .tuple b => compareItems op a b
  | set a, .set b => pure (compareSets op a b)
  | bytes a, .bytes b => pure (op.holds (compareBytes a b))
  | v, w =>
    match v.numeric?, w.numeric?, v.text?, w.text? with
    | some a, some b, _, _ => pure ((a.compare? b).any op.holds)
    | _, _, some a, some b => pure (op.holds (compare a b))
    | _, _, _, _ => throw (unorderedFault op v w)

/-- Compares two lists by the first items that differ. -/
def compareItems (op : Comparison) : List Value → List Value → Except Fault Bool
  | [], [] => pure (op.holds .eq)
  | [], _ => pure (op.holds .lt)
  | _, [] => pure (op.holds .gt)
  | v :: rest, w :: rest' => if equal v w then compareItems op rest rest' else compareBy op v w

end

end Value

end FieldRules
