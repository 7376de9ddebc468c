import FieldRules.Handler.Arity
import FieldRules.Rule.Fragment
import FieldRules.Warning

/-!
# Handlers

A handler decides whether a value meets a fragment of one of its names. It keeps nothing between two
decisions; what it has to know beyond the value, the fragment and the context, it asks for: the value
and the label of a sibling field. A decision carries the keys under which a message for a rejection is
looked for, special before general, and bindings for the message: what its placeholders may name.
-/

namespace FieldRules

/-- What a handler is told about the place of the value. -/
structure Context where
  fieldKind? : Option Class := none
  inObject : Bool := false
  bindings : List (String × Value) := []
  deriving Inhabited

namespace Context

/-- The class that message keys are made for: that of the field, or of the value if the field's class
is that of everything. -/
def keyClass (ctx : Context) : Class :=
  let declared := ctx.fieldKind?.getD .object
  if declared.name == Class.object.name then
    match ctx.bindings.lookup "value" with
    | none => declared
    | some .none => declared
    | some v => v.kind
  else declared

/-- The key of a fragment, with a variant of it behind a dot. -/
def baseKey (f : Fragment) (variant? : Option String) : String :=
  match variant? with
  | none => f.name
  | some "" => f.name
  | some variant => f.name ++ "." ++ variant

/-- The message keys of a fragment: the key with each class of a lineage behind it, then the key. -/
def typedKeys (ctx : Context) (f : Fragment) (variant? : Option String) : List String :=
  let base := baseKey f variant?
  ctx.keyClass.lineage.map (fun name => base ++ "." ++ name.key) ++ [base]

end Context

/-- A decision on the way: it may fail, give a warning, or ask about a sibling field. -/
inductive Check (α : Type) where
  | done (result : α)
  | fail (e : Error)
  | warn (w : Warning) (next : Check α)
  | sibling (name : String) (next : Value → Check α)
  | siblingLabel (name : String) (next : String → Check α)

namespace Check

variable {α β : Type}

/-- Goes on with the result of a decision. -/
def bind (c : Check α) (f : α → Check β) : Check β :=
  match c with
  | done a => f a
  | fail e => fail e
  | warn w next => warn w (next.bind f)
  | sibling name next => sibling name fun v => (next v).bind f
  | siblingLabel name next => siblingLabel name fun s => (next s).bind f

instance : Monad Check where
  pure := done
  bind := bind

instance : MonadLift (Except Error) Check where
  monadLift
    | .ok a => done a
    | .error e => fail e

instance : MonadLift (Except Fault) Check where
  monadLift
    | .ok a => done a
    | .error f => fail (.fault f)

/-- What a decision comes to where no sibling can be asked about: a sibling has no value then, and its
name is its label. -/
def runAlone : Check α → List Warning → Except Error α × List Warning
  | done a, ws => (.ok a, ws)
  | fail e, ws => (.error e, ws)
  | warn w next, ws => next.runAlone (ws ++ [w])
  | sibling _ next, ws => (next .none).runAlone ws
  | siblingLabel name next, ws => (next name).runAlone ws

end Check

/-- A decision about a value. -/
structure Finding where
  passed : Bool
  keys : List String := []
  bindings : List (String × Value) := []
  deriving Inhabited

/-- A handler of the fragments with certain names. -/
structure Handler where
  handlerClass : Class
  names : List String
  types? : Option (List Class) := none
  arity : Arity := {}
  required : Bool := false
  keys : Context → Fragment → Option String → List String := Context.typedKeys
  check : Value → Fragment → Context → Check Finding

namespace Handler

/-- Whether values of a class can be decided about. -/
def supports (h : Handler) (c : Class) : Bool :=
  match h.types? with
  | none => true
  | some types => types.any c.isSubclassOf

/-- The decision that a value passes. -/
def accept : Check Finding :=
  pure { passed := true }

/-- The decision that a value passes if a condition holds; else it is rejected, with message keys of a
variant. -/
def acceptIf (condition : Bool) (ctx : Context) (f : Fragment) (variant? : Option String) :
    Check Finding :=
  if condition then accept
  else pure {
    passed := false
    -- Without a variant the keys are left to the dispatch, which asks the handler for them.
    keys := match variant? with
      | none => []
      | some _ => ctx.typedKeys f variant?
  }

end Handler

end FieldRules
