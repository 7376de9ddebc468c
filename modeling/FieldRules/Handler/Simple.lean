import FieldRules.Expr.Operation
import FieldRules.Handler.Basic

/-!
# Simple handlers

Handlers that are made by naming what they ask of a value. They can be given message keys of their own,
which then stand for every rejection.
-/

namespace FieldRules

/-- What a simple handler asks of a value. -/
inductive Behaviour where
  /-- It is divisible by two. -/
  | even
  /-- It is a text in upper case. -/
  | upper
  /-- It equals the argument. -/
  | argument
  /-- It equals the argument, which is an integer and seven if it is left out. -/
  | integerArgument
  /-- It equals the sibling field that the argument names. -/
  | sibling
  /-- Nothing is right: the first argument is the variant of the message, the second a hint for it. -/
  | hinted
  /-- The decision fails. -/
  | failing
  | always
  | never
  deriving DecidableEq, Repr, Inhabited

namespace Behaviour

/-- Whether a value is divisible by two. -/
def isEven (v : Value) : Except Fault Bool := do
  return (← Expr.applyOperator .modulo v (.int 2)).equal (.int 0)

/-- Whether a text, or the letters among bytes, are in upper case. -/
def isUpper (v : Value) : Except Fault Bool :=
  match v with
  | .string s | .markup s => pure (Text.isUpper s.toList)
  | .bytes data => pure (Text.isUpper (Value.bytesText (data.filter (· < 128))))
  | v => throw (.noAttribute v.kindName "isupper")

/-- The decision by a truth value. Its message keys are left to the handler. -/
def decideBy (passed : Bool) : Check Finding :=
  pure { passed }

/-- The value of the sibling field that a value names. -/
def siblingNamed (name : Value) (ctx : Context) : Check Value :=
  match name.text? with
  | some text => .sibling text pure
  | none =>
    if ctx.inObject then
      .fail (.fault (.wrongArguments ("attribute name must be string, not '" ++ name.kindName ++ "'")))
    else pure .none

/-- The variant of the message that an argument stands for. -/
def variantOf (v : Value) : Except Fault (Option String) := do
  if ← v.truth then return some (← v.text) else return none

/-- The decision about a value; `keys` makes the message keys for a variant. -/
def check (keys : Context → Fragment → Option String → List String) (b : Behaviour) (v : Value)
    (f : Fragment) (ctx : Context) : Check Finding :=
  match b with
  | even => do decideBy (← (isEven v : Except Fault Bool))
  | upper => do decideBy (← (isUpper v : Except Fault Bool))
  | argument => do decideBy (v.equal (← (f.argument 0 : Except Error Value)))
  | integerArgument => do
    let target ← (f.argument 0 (some .int) (.int 7) : Except Error Value)
    decideBy (target.equal v)
  | sibling => do
    let name ← (f.argument 0 : Except Error Value)
    decideBy (v.equal (← siblingNamed name ctx))
  | hinted => do
    let variant? ← (variantOf (← (f.argument 0 : Except Error Value)) : Except Fault (Option String))
    let hint ← (f.argument 1 : Except Error Value)
    return { passed := false, keys := keys ctx f variant?, bindings := [("hint", hint)] }
  | failing => .fail (.handlerFailure "boom")
  | always => decideBy true
  | never => decideBy false

end Behaviour

namespace Handler

/-- The message keys of a handler: its own ones, which stand for every rejection, or those made for the
classes of values. -/
def keysOf (own? : Option (List String)) : Context → Fragment → Option String → List String :=
  match own? with
  | some own => fun _ _ _ => own
  | none => Context.typedKeys

/-- The class of a simple handler. -/
def simpleClass (home name : String) : Class where
  name := ⟨home, name⟩
  ancestors := Class.handler.lineage

/-- A simple handler. -/
def simple (handlerClass : Class) (names : List String) (types? : Option (List Class)) (arity : Arity)
    (required : Bool) (own? : Option (List String)) (b : Behaviour) : Handler where
  handlerClass := handlerClass
  names := names
  types? := types?
  arity := arity
  required := required
  keys := keysOf own?
  check := b.check (keysOf own?)

end Handler

end FieldRules
