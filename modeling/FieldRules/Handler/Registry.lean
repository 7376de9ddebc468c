import FieldRules.Handler.Comparison
import FieldRules.Handler.Patterns

/-!
# Registries

A registry knows the handler of each name. The handler that is registered last under a name has it.
-/

namespace FieldRules

/-- Handlers under the names they answer to. -/
abbrev Registry := List (String × Handler)

namespace Registry

/-- Gives a name to a handler. -/
def put (name : String) (h : Handler) : Registry → Registry
  | [] => [(name, h)]
  | (n, g) :: rest => if n == name then (n, h) :: rest else (n, g) :: put name h rest

/-- The handler of a name. -/
def find? (r : Registry) (name : String) : Option Handler :=
  r.lookup name

/-- The names that are known, in their order. -/
def names (r : Registry) : List String :=
  (r.map Prod.fst).mergeSort fun a b => a ≤ b

/-- The warnings for the names that a handler takes from another one. -/
def replacements (r : Registry) (h : Handler) : List Warning :=
  (h.names.eraseDups.filter fun name => (r.find? name).isSome).map fun name =>
    .handlerReplaced name h.handlerClass.simpleName

/-- Registers a handler under its names, of which there must be one. -/
def register (r : Registry) (h : Handler) : Except SetupError (Registry × List Warning) :=
  if h.names.isEmpty then throw (.nameless h.handlerClass.simpleName)
  else pure (h.names.foldl (fun r name => put name h r) r, r.replacements h)

/-- The handlers that are always there. -/
def builtinHandlers : List Handler :=
  [.requiredValue, .notEmpty, .notBlank, .length, .minimum, .maximum, .range, .pattern, .contains,
    .boundary, .equals, .url, .password, .commonPattern]

/-- The registry of the handlers that are always there. -/
def builtin : Registry :=
  builtinHandlers.foldl (fun r h => h.names.foldl (fun r name => put name h r) r) []

end Registry

end FieldRules
