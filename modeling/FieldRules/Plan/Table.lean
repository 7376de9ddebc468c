import FieldRules.Type.Hint

/-!
# Rule tables

A rule table gives tags to the fields of types that are not annotated with them. A later entry for a
field takes the place of an earlier one.
-/

namespace FieldRules

/-- What a rule table says about one field. -/
structure FieldRule where
  name : String
  rules? : Option String := none
  constraints : List Fragment := []
  label? : Option String := none
  nested : Bool := false
  gate? : Option Gate := none
  hint? : Option Hint := none
  getter? : Option String := none
  setter? : Option String := none
  deriving Inhabited

/-- The tags that the entry stands for. -/
def FieldRule.tags (r : FieldRule) : List Tag :=
  (r.rules?.map Tag.rules).toList ++ r.constraints.map Tag.constraint
    ++ (r.label?.map Tag.label).toList ++ (if r.nested then [Tag.nested] else [])
    ++ (r.gate?.map Tag.gate).toList

/-- Entries for the fields of types, in the order of the first entry for each. -/
abbrev RuleTable := List (TypeName × List FieldRule)

namespace RuleTable

/-- Puts an entry among those of a type. -/
def putRule (r : FieldRule) : List FieldRule → List FieldRule
  | [] => [r]
  | q :: rest => if q.name == r.name then r :: rest else q :: putRule r rest

/-- Adds an entry for a field of a type. -/
def add (type : TypeName) (r : FieldRule) : RuleTable → RuleTable
  | [] => [(type, [r])]
  | (t, rules) :: rest =>
    if t == type then (t, putRule r rules) :: rest else (t, rules) :: add type r rest

/-- The entries for the fields of a type. -/
def fields (t : RuleTable) (type : TypeName) : List FieldRule :=
  (t.lookup type).getD []

/-- Whether there are entries for a type. -/
def contains (t : RuleTable) (type : TypeName) : Bool :=
  (t.lookup type).isSome

end RuleTable

end FieldRules
