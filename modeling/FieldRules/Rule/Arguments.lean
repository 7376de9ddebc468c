import FieldRules.Error
import FieldRules.Expr.Check
import FieldRules.Expr.Eval

/-!
# Argument lists

The arguments of a fragment are the items of a list written without its brackets. Names stand for
patterns only; any other name has no value, and what has no value is no argument.
-/

namespace FieldRules

/-- Puts brackets around an argument list. -/
def bracketed (s : List Char) : List Char :=
  '[' :: s ++ [']']

/-- Reads an argument list as an expression. -/
def compileArguments (text : String) : Except Error Expr :=
  match Expr.compile true (bracketed text.toList) with
  | .ok e => pure e
  | .error (.literal f) => throw (.fault f)
  | .error p => throw (.rule (.badArguments text p))

/-- Whether a value stands for nothing. -/
def isUndefined (v : Value) : Bool :=
  !v.isDefined

/-- The values of an argument list that has been read. The brackets around it may be closed from inside,
so the value of the whole can be something else than a list; its items then are the arguments. -/
def evaluateArguments (text : String) (bindings : List (String × Value)) (e : Expr) :
    Except Error (List Value) :=
  match Expr.evaluate ⟨bindings, true⟩ e with
  | .error f =>
    if f.family == .undefinedValue then throw (.rule (.undefinedArguments text f))
    else throw (.fault f)
  | .ok v => do
    let items ← liftFault v.items
    -- A name alone has no fault as long as nothing is asked of it, so it is still to be found here.
    if items.any isUndefined then throw (.rule (.unknownName text))
    return items

/-- The values of an argument list. `compile` reads lists as expressions; it may keep what it has read. -/
def resolveArgumentsBy {m : Type → Type} [Monad m] [MonadLiftT (Except Error) m]
    (compile : String → m Expr) (text : String) (bindings : List (String × Value)) :
    m (List Value) := do
  if (Text.trim text.toList).isEmpty then return []
  let e ← compile text
  liftM (evaluateArguments text bindings e)

/-- The values of an argument list, which is read anew. -/
def resolveArguments (text : String) (bindings : List (String × Value)) :
    Except Error (List Value) :=
  resolveArgumentsBy compileArguments text bindings

end FieldRules
