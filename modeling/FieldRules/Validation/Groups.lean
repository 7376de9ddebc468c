import FieldRules.Rule.Fragment
import FieldRules.Value.Items
import FieldRules.Value.Render

/-!
# Requested groups

A validation may be asked for some groups of fragments. Asking for none, or for the default group, asks
for all fragments. Under a request, fragments that are equal are looked at once.
-/

namespace FieldRules

/-- The names that a requested group stands for: a class for its simple name and for the one with its
module, anything else for its text. -/
def groupNames (v : Value) : Except Fault (List String) :=
  match v with
  | .classRef c => pure [c.simpleName, c.name.qualified]
  | v => do return [← v.text]

/-- The values that a request names: a text or a class names itself. -/
def requestItems (v : Value) : Except Fault (List Value) :=
  match v with
  | .none => pure []
  | .string _ | .markup _ | .classRef _ => pure [v]
  | v => v.items

/-- The names of the requested groups; nothing if all fragments are asked for. -/
def requestedGroups (v : Value) : Except Fault (Option (List String)) := do
  let names ← (← requestItems v).mapM groupNames
  -- The default group among others takes the filter away for all of them.
  if names.isEmpty || names.flatten.contains defaultGroup then return none
  else return some (sortNames names.flatten)

/-- Fragments without those that are equal to an earlier one. -/
def distinctFragments (fragments : List Fragment) : List Fragment :=
  fragments.foldl (fun chosen f => if chosen.any f.same then chosen else chosen ++ [f]) []

/-- The fragments that a request asks for. -/
def selectFragments (fragments : List Fragment) : Option (List String) → List Fragment
  | none => fragments
  | some requested => distinctFragments (fragments.filter fun f => f.inGroups requested)

end FieldRules
