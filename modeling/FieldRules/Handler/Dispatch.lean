import FieldRules.Handler.Registry

/-!
# Dispatch

A fragment is decided by the handler of its name. If there is none, or if it does not support the class
of the value, the fragment does not apply and the value passes, with a warning if so wished. A missing
value passes unless the handler requires one. A rejection always has message keys.
-/

namespace FieldRules

/-- How fragments that do not apply are treated. -/
structure Leniency where
  strict : Bool := false
  warns : Bool := true
  deriving DecidableEq, Repr, Inhabited

namespace Dispatch

/-- The fragment does not apply, so the value passes. -/
def skip (l : Leniency) (w : Warning) : Check Finding :=
  if l.warns then .warn w Handler.accept else Handler.accept

/-- The message keys of a rejection: those of the handler's decision, else those that the handler makes,
else the name of the fragment. Empty keys are left out. -/
def rejectionKeys (h : Handler) (f : Fragment) (ctx : Context) (found : List String) : List String :=
  match found.filter fun k => !k.isEmpty with
  | [] =>
    match (h.keys ctx f none).filter fun k => !k.isEmpty with
    | [] => [f.name].filter fun k => !k.isEmpty
    | keys => keys
  | keys => keys

/-- The decision of a handler that applies. -/
def decideBy (h : Handler) (v : Value) (f : Fragment) (ctx : Context) : Check Finding := do
  let found ← match v with
    -- The handler is not asked about a missing value, also if it requires one.
    | .none => pure { passed := !h.required }
    | v => h.check v f ctx
  if found.passed then return found
  else return { found with keys := rejectionKeys h f ctx found.keys }

/-- Decides a fragment. -/
def run (r : Registry) (l : Leniency) (v : Value) (f : Fragment) (ctx : Context) : Check Finding :=
  match r.find? f.name with
  | none =>
    if l.strict then .fail (.setup (.noHandler f.name)) else skip l (.noHandler f.name)
  | some h =>
    -- Arguments are counted for values that the handler supports, and for missing ones.
    if v.isPresent && !h.supports v.kind then skip l (.unsupportedType f.name v.kindName)
    else match h.arity.violation? f.name f.arguments.length with
      | some e => .fail (.setup e)
      | none => decideBy h v f ctx

end Dispatch

end FieldRules
