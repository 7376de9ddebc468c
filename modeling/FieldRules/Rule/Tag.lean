import FieldRules.Rule.Fragment

/-!
# Tags

What a field or a parameter is tagged with: rules, single constraints, a label, the wish that its value
be validated as an object, and a gate. A gate names sibling fields and the outcome that they must have
for the field to be looked at.
-/

namespace FieldRules

/-- The outcome that sibling fields must have. -/
structure Gate where
  fields : List String
  outcome : Outcome := .passed
  deriving DecidableEq, Repr, Inhabited

namespace Gate

/-- The fields that have no outcome among the given ones. -/
def missing (g : Gate) (outcomes : List (String × Bool)) : List String :=
  g.fields.filter fun name => (outcomes.lookup name).isNone

/-- Whether the fields have the outcome that is asked for; nothing if one of them has none. -/
def isOpen? (g : Gate) (outcomes : List (String × Bool)) : Option Bool :=
  -- One missing field closes the gate, also where it asks for a rejected one.
  if (g.missing outcomes).isEmpty then
    some (g.fields.all fun name => outcomes.lookup name == some (g.outcome == .passed))
  else none

end Gate

/-- A tag of a field or a parameter. -/
inductive Tag where
  | rules (text : String)
  | constraint (f : Fragment)
  | label (text : String)
  | nested
  | gate (g : Gate)
  | note (v : Value)
  deriving Inhabited

namespace Tag

/-- The first rules among tags. -/
def rules? (tags : List Tag) : Option String :=
  tags.findSome? fun
    | rules text => some text
    | _ => none

/-- The constraints among tags. -/
def constraints (tags : List Tag) : List Fragment :=
  tags.filterMap fun
    | constraint f => some f
    | _ => none

/-- The first label among tags. -/
def label? (tags : List Tag) : Option String :=
  tags.findSome? fun
    | label text => some text
    | _ => none

/-- Whether the value is to be validated as an object. -/
def isNested (tags : List Tag) : Bool :=
  tags.any fun
    | nested => true
    | _ => false

/-- The first gate among tags. -/
def gate? (tags : List Tag) : Option Gate :=
  tags.findSome? fun
    | gate g => some g
    | _ => none

end Tag

end FieldRules
