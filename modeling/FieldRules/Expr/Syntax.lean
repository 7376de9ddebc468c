import FieldRules.Value.Arithmetic
import FieldRules.Value.Order

/-!
# Expressions

The syntax tree of an expression.
-/

namespace FieldRules

/-- The operators that take one value. -/
inductive Expr.Sign where
  | negate | affirm | not
  deriving DecidableEq, Repr

/-- The comparisons of an expression. -/
inductive Expr.Relation where
  | equal | notEqual | order (c : Comparison) | isIn | notIn
  deriving DecidableEq, Repr

mutual

/-- An expression. The alternative of a condition may be missing; its line is then reported. -/
inductive Expr where
  | const (v : Value)
  | identifier (s : String)
  | list (items : List Expr)
  | tuple (items : List Expr)
  | dict (entries : List (Expr × Expr))
  | unary (sign : Expr.Sign) (e : Expr)
  | binary (op : Operator) (left right : Expr)
  | both (left right : Expr)
  | either (left right : Expr)
  | concat (parts : List Expr)
  | compare (first : Expr) (rest : List (Expr.Relation × Expr))
  | cond (line : Nat) (test yes : Expr) (no : Option Expr)
  | attribute (e : Expr) (name : String)
  | item (e index : Expr)
  | slice (start stop step : Option Expr)
  | call (f : Expr) (args : List Expr.Arg)
  | filter (e : Expr) (name : String) (args : List Expr.Arg)
  | test (e : Expr) (name : String) (args : List Expr.Arg)

/-- An argument of a call: by its place, by its name, or all items or entries of a value. -/
inductive Expr.Arg where
  | positional (e : Expr)
  | named (name : String) (e : Expr)
  | spread (e : Expr)
  | spreadNamed (e : Expr)

end

instance : Inhabited Expr := ⟨.const .none⟩

end FieldRules
