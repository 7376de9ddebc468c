import FieldRules.Expr.Fold
import FieldRules.Expr.Parser

/-!
# Checking expressions

Before an expression is used it is checked that its filters and tests exist, the outer ones first, and
that its constants can be written. Inside a condition filters and tests are not checked, since that part
may never be reached; there they are missed when it is.
-/

namespace FieldRules.Expr

mutual

/-- Checks the filters, tests and constants of an expression. -/
def check (inCondition : Bool) : Expr → Except Problem Unit
  | .const v =>
    match v.written with
    | .ok _ => pure ()
    | .error f => throw (.literal f)
  | .identifier _ => pure ()
  | .list items => checkAll inCondition items
  | .tuple items => checkAll inCondition items
  | .dict entries => checkEntries inCondition entries
  | .unary _ e => check inCondition e
  | .binary _ a b => do
    check inCondition a
    check inCondition b
  | .both a b => do
    check inCondition a
    check inCondition b
  | .either a b => do
    check inCondition a
    check inCondition b
  | .concat parts => checkAll inCondition parts
  | .compare first rest => do
    check inCondition first
    checkChain inCondition rest
  | .cond _ t yes no => do
    -- The value comes before the condition, as it is written.
    check true yes
    check true t
    checkOption true no
  | .attribute e _ => check inCondition e
  | .item e i => do
    check inCondition e
    check inCondition i
  | .slice a b c => do
    checkOption inCondition a
    checkOption inCondition b
    checkOption inCondition c
  | .call f args => do
    check inCondition f
    checkArgs inCondition args
  | .filter e n args => do
    if !inCondition && !Filter.isKnown n then throw (.unknownFilter (Text.quoteString n))
    check inCondition e
    checkArgs inCondition args
  | .test e n args => do
    if !inCondition && (ValueTest.table.lookup n).isNone then
      throw (.unknownTest (Text.quoteString n))
    check inCondition e
    checkArgs inCondition args

/-- Checks expressions. -/
def checkAll (inCondition : Bool) : List Expr → Except Problem Unit
  | [] => pure ()
  | e :: rest => do
    check inCondition e
    checkAll inCondition rest

/-- Checks the entries of a dictionary. -/
def checkEntries (inCondition : Bool) : List (Expr × Expr) → Except Problem Unit
  | [] => pure ()
  | (k, v) :: rest => do
    check inCondition k
    check inCondition v
    checkEntries inCondition rest

/-- Checks the operands of a comparison. -/
def checkChain (inCondition : Bool) : List (Relation × Expr) → Except Problem Unit
  | [] => pure ()
  | (_, e) :: rest => do
    check inCondition e
    checkChain inCondition rest

/-- Checks an expression that may be missing. -/
def checkOption (inCondition : Bool) : Option Expr → Except Problem Unit
  | none => pure ()
  | some e => check inCondition e

/-- Checks arguments. -/
def checkArgs (inCondition : Bool) : List Arg → Except Problem Unit
  | [] => pure ()
  | a :: rest => do
    checkArg inCondition a
    checkArgs inCondition rest

/-- Checks an argument. -/
def checkArg (inCondition : Bool) : Arg → Except Problem Unit
  | .positional e => check inCondition e
  | .named _ e => check inCondition e
  | .spread e => check inCondition e
  | .spreadNamed e => check inCondition e

end

/-- Reads, folds and checks the text of an expression. -/
def compile (strict : Bool) (s : List Char) : Except Problem Expr := do
  let e := fold strict (← parse s)
  check false e
  return e

end FieldRules.Expr
