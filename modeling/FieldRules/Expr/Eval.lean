import FieldRules.Expr.Method
import FieldRules.Expr.Operation

/-!
# Evaluating expressions

The value of an expression for given values of its names. A name without a value is undefined; a strict
scope lets an undefined value be tested for, and nothing else. Operands are worked out from left to
right, and only as far as they are needed.
-/

namespace FieldRules.Expr

/-- The values of names, and whether undefined values are strict. -/
structure Scope where
  bindings : List (String × Value)
  strict : Bool

/-- The names that have a value everywhere. -/
def globals : List (String × Value) :=
  [("range", .function "range"), ("dict", .classRef .dict), ("lipsum", .function "lipsum")]

/-- The value of a name. -/
def Scope.valueOf (scope : Scope) (n : String) : Value :=
  ((scope.bindings.lookup n).or (globals.lookup n)).getD (undefinedName scope.strict n)

mutual

/-- The name that a constant leaves unbound: the number that is none and the infinite ones are written
as names, and nothing is bound to those. -/
def unboundIn? : Value → Option String
  | .float x => if x.isNaN then some "nan" else if x.isInf then some "inf" else none
  | .list items => unboundInAll? items
  | .tuple items => unboundInAll? items
  | .set items => unboundInAll? items
  | .dict entries => unboundInEntries? entries
  | _ => none

/-- The first name that one of some constants leaves unbound. -/
def unboundInAll? : List Value → Option String
  | [] => none
  | v :: rest => (unboundIn? v).or (unboundInAll? rest)

/-- The first name that one of some constant entries leaves unbound. -/
def unboundInEntries? : List (Value × Value) → Option String
  | [] => none
  | (k, v) :: rest => ((unboundIn? k).or (unboundIn? v)).or (unboundInEntries? rest)

end

/-- What a condition without an alternative gives if it does not hold. -/
def noAlternative (line : Nat) : Value :=
  -- This is not strict, whatever the scope is.
  undefinedWith false (s!"the inline if-expression on line {line} evaluated to false "
    ++ "and no else section was defined.")

/-- The values that the items of a value give as arguments. -/
def spreadItems (v : Value) : Except Fault (List Value) :=
  match v.items with
  | .ok xs => pure xs
  | .error (.notIterable kind) =>
    throw (.wrongArguments s!"Value after * must be an iterable, not {kind}")
  | .error f => throw f

/-- The values that the entries of a value give as arguments by name. -/
def spreadEntries (v : Value) : Except Fault (List (String × Value)) :=
  match v.entries? with
  | some entries => entries.mapM fun (k, w) =>
    match k.text? with
    | some s => pure (s, w)
    | none => throw (.wrongArguments "keywords must be strings")
  | none => throw (.wrongArguments s!"argument after ** must be a mapping, not {v.kindName}")

mutual

/-- The value of an expression. -/
def evaluate (scope : Scope) : Expr → Except Fault Value
  | .const v =>
    match unboundIn? v with
    | some n => throw (.unbound n)
    | none => pure v
  | .identifier s => pure (scope.valueOf s)
  | .list items => do return .list (← evaluateAll scope items)
  | .tuple items => do return .tuple (← evaluateAll scope items)
  | .dict entries => do dictOf (← evaluateEntries scope entries)
  | .unary sign e => do applySign sign (← evaluate scope e)
  | .binary op a b => do
    let v ← evaluate scope a
    applyOperator op v (← evaluate scope b)
  | .both a b => do
    let v ← evaluate scope a
    if ← v.truth then evaluate scope b else return v
  | .either a b => do
    let v ← evaluate scope a
    if ← v.truth then return v else evaluate scope b
  | .concat parts => do return .string (← joinTexts (← evaluateAll scope parts))
  | .compare first rest => do evaluateChain scope (← evaluate scope first) rest
  | .cond line t yes no => do
    if ← (← evaluate scope t).truth then evaluate scope yes
    else return (← evaluateOption scope no).getD (noAlternative line)
  | .attribute e n => do attributeOf scope.strict (← evaluate scope e) n
  | .item e (.slice start stop step) => do
    let v ← evaluate scope e
    let start ← evaluateOption scope start
    let stop ← evaluateOption scope stop
    let step ← evaluateOption scope step
    sliceOf v (start.getD .none) (stop.getD .none) (step.getD .none)
  | .item e i => do
    let v ← evaluate scope e
    itemOf scope.strict v (← evaluate scope i)
  -- Only as the whole of an index a slice is one; among several indices it is an item of a tuple.
  | .slice .. => throw .badSliceBound
  | .call f args => do
    let g ← evaluate scope f
    let (vs, named) ← evaluateArgs scope args
    Method.callValue g vs named
  | .filter e n args => do
    let v ← evaluate scope e
    let (vs, named) ← evaluateArgs scope args
    Filter.run scope.strict n v vs named
  | .test e n args => do
    let v ← evaluate scope e
    let (vs, named) ← evaluateArgs scope args
    match ValueTest.run? n v vs named with
    | some r => return .bool (← r)
    | none => throw (.missingTest (Text.quoteString n))

/-- The values of expressions. -/
def evaluateAll (scope : Scope) : List Expr → Except Fault (List Value)
  | [] => pure []
  | e :: rest => do
    let v ← evaluate scope e
    return v :: (← evaluateAll scope rest)

/-- The entries of a dictionary. -/
def evaluateEntries (scope : Scope) : List (Expr × Expr) → Except Fault (List (Value × Value))
  | [] => pure []
  | (k, e) :: rest => do
    let key ← evaluate scope k
    let v ← evaluate scope e
    return (key, v) :: (← evaluateEntries scope rest)

/-- The value of a chain of comparisons, which ends where one of them does not hold. -/
def evaluateChain (scope : Scope) (v : Value) : List (Relation × Expr) → Except Fault Value
  | [] => pure (.bool true)
  | (r, e) :: rest => do
    let w ← evaluate scope e
    if ← applyRelation r v w then evaluateChain scope w rest else return .bool false

/-- The value of an expression that may be missing. -/
def evaluateOption (scope : Scope) : Option Expr → Except Fault (Option Value)
  | none => pure none
  | some e => do return some (← evaluate scope e)

/-- The values of arguments by place and by name. -/
def evaluateArgs (scope : Scope) : List Arg → Except Fault (List Value × List (String × Value))
  | [] => pure ([], [])
  | a :: rest => do
    let (vs, named) ← evaluateArg scope a
    let (vs', named') ← evaluateArgs scope rest
    return (vs ++ vs', named ++ named')

/-- The values that an argument gives by place and by name. -/
def evaluateArg (scope : Scope) : Arg → Except Fault (List Value × List (String × Value))
  | .positional e => do return ([← evaluate scope e], [])
  | .named n e => do return ([], [(n, ← evaluate scope e)])
  | .spread e => do return (← spreadItems (← evaluate scope e), [])
  | .spreadNamed e => do return ([], ← spreadEntries (← evaluate scope e))

end

end FieldRules.Expr
