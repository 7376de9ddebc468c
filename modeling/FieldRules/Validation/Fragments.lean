import FieldRules.Result.Basic
import FieldRules.Validation.Groups
import FieldRules.Validation.Session

/-!
# Rejections of a value

A value is held against fragments, all of them, one after the other. Every fragment that the value does
not meet gives a rejection with a message: the fragment's own one, or the text for the first of the
rejection's keys that has one, or the first key itself.
-/

namespace FieldRules

/-- What is asked of a validation: the groups, and the locale for its messages. -/
structure Request where
  groups : Value := .none
  locale? : Option String := none
  deriving Inhabited

/-- A value that is held against fragments, with its label and the place it comes from. -/
structure Subject where
  value : Value
  label : String
  element? : Option Element := none
  object? : Option Value := none
  deriving Inhabited

namespace Subject

/-- What a handler is told about the subject. -/
def context (s : Subject) : Context where
  fieldKind? := s.element?.map Element.kind
  inObject := s.object?.isSome
  bindings := [("label", .string s.label), ("value", s.value)]

end Subject

namespace Validator

open Session

/-- A field of the same object, if it has an element with that name. -/
def siblingElement? (V : Validator) (object : Value) (name : String) : Run (Option Element) := do
  return (← V.planOf object.kind).find? fun e => e.name == name

/-- The value of a field of the same object; nothing outside of an object. -/
def siblingValue (V : Validator) (s : Subject) (name : String) : Run Value :=
  match s.object? with
  | none => pure .none
  | some object => do
    match ← V.siblingElement? object name with
    | some e => return e.get object
    | none => return object.read name

/-- The label of a field of the same object, which is its name if it has no element. -/
def siblingLabel (V : Validator) (q : Request) (s : Subject) (name : String) : Run String :=
  match s.object? with
  | none => pure name
  | some object => do
    match ← V.siblingElement? object name with
    | some e => resolveText e.label q.locale?
    | none => return name

/-- Comes to a decision about a subject. -/
def settle {α : Type} (V : Validator) (q : Request) (s : Subject) : Check α → Run α
  | .done a => pure a
  | .fail e => throw e
  | .warn w next => do
    warn w
    V.settle q s next
  | .sibling name next => V.siblingValue s name >>= fun v => V.settle q s (next v)
  | .siblingLabel name next => V.siblingLabel q s name >>= fun label => V.settle q s (next label)

/-- The text for the first of some keys that has one. -/
def firstText? (q : Request) : List String → Run (Option String)
  | [] => pure none
  | key :: rest => do
    match ← textFor? key q.locale? with
    | some text => return some text
    | none => firstText? q rest

/-- The message for a rejection with the given keys. -/
def rejectionMessage (q : Request) (f : Fragment) (bindings : List (String × Value))
    (keys : List String) : Run String := do
  let text? ← match f.message.filter fun m => !m.isEmpty with
    | some own => some <$> resolveText own q.locale?
    | none => firstText? q keys
  match text? with
  | some text => (Template.fill text bindings f.arguments : Except Error String)
  | none => return "\x7b" ++ (← get).library.messageKey (keys.headD "") ++ "\x7d"

/-- The rejection by a fragment. -/
def rejection (q : Request) (s : Subject) (f : Fragment) (found : Finding) : Run Rejection := do
  -- The message goes by the first key that has a text, the error code is the last key.
  let keys := if found.keys.isEmpty then [f.name] else found.keys
  let message ← rejectionMessage q f (found.bindings ++ s.context.bindings) keys
  return {
    name := f.name
    errorCode := keys.getLastD f.name
    message := message
    arguments := f.arguments
  }

/-- Holds a subject against a fragment. -/
def holdAgainst (V : Validator) (q : Request) (s : Subject) (f : Fragment) :
    Run (Option Rejection) := do
  let found ← V.settle q s (Dispatch.run V.registry V.leniency s.value f s.context)
  if found.passed then return none else return some (← rejection q s f found)

/-- The rejections of a subject by fragments. -/
def rejections (V : Validator) (q : Request) (s : Subject) (fragments : List Fragment) :
    Run (List Rejection) := do
  return (← fragments.mapM (V.holdAgainst q s)).filterMap id

end Validator

end FieldRules
