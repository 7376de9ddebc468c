import FieldRules.Expr.Operation

/-!
# Folding

Works out the parts of an expression that hold no name and no call, before the expression is used. A
part whose value comes out as a fault stays as it is, so the fault shows when the part is reached, if it
ever is. What folding throws away is not looked at again: a filter that does not exist goes unnoticed
in a part that is never reached.
-/

namespace FieldRules.Expr

mutual

/-- Whether a value may stand in an expression as a constant. -/
def isConstant : Value → Bool
  | .none | .bool _ | .int _ | .float _ | .string _ | .markup _ | .range .. => true
  | .list items => areConstant items
  | .tuple items => areConstant items
  | .set items => areConstant items
  | .dict entries => areConstantEntries entries
  | _ => false

/-- Whether all values may stand in an expression. -/
def areConstant : List Value → Bool
  | [] => true
  | v :: rest => isConstant v && areConstant rest

/-- Whether all entries may stand in an expression. -/
def areConstantEntries : List (Value × Value) → Bool
  | [] => true
  | (k, v) :: rest => isConstant k && isConstant v && areConstantEntries rest

end

/-- The value of an expression that is a constant. -/
def constant? : Expr → Option Value
  | .const v => some v
  | _ => none

/-- The values of expressions that are all constants. -/
def constants? (es : List Expr) : Option (List Value) :=
  es.mapM constant?

/-- The value of a bound of a slice that is a constant or missing. -/
def bound? : Option Expr → Option Value
  | none => some .none
  | some e => constant? e

/-- A value that comes out without a fault and may stand in an expression. -/
def settled? (r : Except Fault Value) : Option Value :=
  match r with
  | .ok v => if isConstant v then some v else none
  | .error _ => none

/-- The constant for a value, or else the expression. -/
def orConst (v? : Option Value) (e : Expr) : Expr :=
  match v? with
  | some v => .const v
  | none => e

/-- The value of a chain of comparisons, as far as the operands up to its end are constants. -/
def settledChain? (v : Value) : List (Relation × Expr) → Option Value
  | [] => some (.bool true)
  | (r, e) :: rest => do
    let w ← constant? e
    match applyRelation r v w with
    | .ok true => settledChain? w rest
    -- The operands behind this one need not be constants.
    | .ok false => some (.bool false)
    | .error _ => none

/-- The arguments by place and by name, if all of them are constants. -/
def constantArgs? : List Arg → Option (List Value × List (String × Value))
  | [] => some ([], [])
  | .positional e :: rest => do
    let v ← constant? e
    let (vs, named) ← constantArgs? rest
    return (v :: vs, named)
  | .named n e :: rest => do
    let v ← constant? e
    let (vs, named) ← constantArgs? rest
    return (vs, (n, v) :: named)
  | _ => none

/-- The value of an expression whose parts have been folded, if that value is known. -/
def value? (strict : Bool) : Expr → Option Value
  | .const v => some v
  | .list items => (constants? items).bind fun vs => settled? (pure (.list vs))
  | .tuple items => (constants? items).bind fun vs => settled? (pure (.tuple vs))
  | .dict entries => do
    let vs ← entries.mapM fun (k, v) => do return (← constant? k, ← constant? v)
    settled? (dictOf vs)
  | .unary sign e => do settled? (applySign sign (← constant? e))
  | .binary op a b => do settled? (applyOperator op (← constant? a) (← constant? b))
  | .both a b => do
    let v ← constant? a
    match v.truth with
    | .ok false => some v
    | .ok true => constant? b
    | .error _ => none
  | .either a b => do
    let v ← constant? a
    match v.truth with
    | .ok true => some v
    | .ok false => constant? b
    | .error _ => none
  | .concat parts => (constants? parts).bind fun vs => settled? (do return .string (← joinTexts vs))
  | .compare first rest => do settledChain? (← constant? first) rest
  | .cond _ t yes no => do
    match (← constant? t).truth with
    | .ok true => constant? yes
    | .ok false => no.bind constant?
    | .error _ => none
  | .attribute e n => do settled? (attributeOf strict (← constant? e) n)
  | .item e (.slice start stop step) => do
    let v ← constant? e
    let start ← bound? start
    let stop ← bound? stop
    let step ← bound? step
    settled? (sliceOf v start stop step)
  | .item e i => do settled? (itemOf strict (← constant? e) (← constant? i))
  | .filter e n args => do
    let v ← constant? e
    let (vs, named) ← constantArgs? args
    if Filter.isFoldable n then settled? (Filter.run strict n v vs named) else none
  | .test e n args => do
    let v ← constant? e
    let (vs, named) ← constantArgs? args
    let r ← ValueTest.run? n v vs named
    settled? (r.map .bool)
  | .identifier _ | .slice .. | .call .. => none

/-- An expression whose parts have been folded, as a constant if its value is known. -/
def settle (strict : Bool) (e : Expr) : Expr :=
  orConst (value? strict e) e

mutual

/-- Folds an expression from its parts upwards. -/
def fold (strict : Bool) : Expr → Expr
  | .const v => .const v
  | .identifier s => .identifier s
  | .list items => settle strict (.list (foldAll strict items))
  | .tuple items => settle strict (.tuple (foldAll strict items))
  | .dict entries => settle strict (.dict (foldEntries strict entries))
  | .unary sign e => settle strict (.unary sign (fold strict e))
  | .binary op a b => settle strict (.binary op (fold strict a) (fold strict b))
  | .both a b => settle strict (.both (fold strict a) (fold strict b))
  | .either a b => settle strict (.either (fold strict a) (fold strict b))
  | .concat parts => settle strict (.concat (foldAll strict parts))
  | .compare first rest => settle strict (.compare (fold strict first) (foldChain strict rest))
  | .cond line t yes no =>
    settle strict (.cond line (fold strict t) (fold strict yes) (foldOption strict no))
  | .attribute e n => settle strict (.attribute (fold strict e) n)
  | .item e i => settle strict (.item (fold strict e) (fold strict i))
  | .slice a b c => .slice (foldOption strict a) (foldOption strict b) (foldOption strict c)
  | .call f args => .call (fold strict f) (foldArgs strict args)
  | .filter e n args => settle strict (.filter (fold strict e) n (foldArgs strict args))
  | .test e n args => settle strict (.test (fold strict e) n (foldArgs strict args))

/-- Folds expressions. -/
def foldAll (strict : Bool) : List Expr → List Expr
  | [] => []
  | e :: rest => fold strict e :: foldAll strict rest

/-- Folds the entries of a dictionary. -/
def foldEntries (strict : Bool) : List (Expr × Expr) → List (Expr × Expr)
  | [] => []
  | (k, v) :: rest => (fold strict k, fold strict v) :: foldEntries strict rest

/-- Folds the operands of a comparison. -/
def foldChain (strict : Bool) : List (Relation × Expr) → List (Relation × Expr)
  | [] => []
  | (r, e) :: rest => (r, fold strict e) :: foldChain strict rest

/-- Folds an expression that may be missing. -/
def foldOption (strict : Bool) : Option Expr → Option Expr
  | none => none
  | some e => some (fold strict e)

/-- Folds arguments. -/
def foldArgs (strict : Bool) : List Arg → List Arg
  | [] => []
  | a :: rest => foldArg strict a :: foldArgs strict rest

/-- Folds an argument. -/
def foldArg (strict : Bool) : Arg → Arg
  | .positional e => .positional (fold strict e)
  | .named n e => .named n (fold strict e)
  | .spread e => .spread (fold strict e)
  | .spreadNamed e => .spreadNamed (fold strict e)

end

end FieldRules.Expr
