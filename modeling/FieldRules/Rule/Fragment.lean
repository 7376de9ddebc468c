import FieldRules.Error
import FieldRules.Value.Convert

/-!
# Fragments

A fragment is one constraint of a rule: its name, its arguments, the groups it belongs to and a message
of its own. The groups are a set; they are kept in order and without repetitions.
-/

namespace FieldRules

/-- One constraint of a rule. -/
structure Fragment where
  name : String
  groups : List String := []
  arguments : List Value := []
  message : Option String := none
  deriving Inhabited

/-- Names in their order and without repetitions. -/
def sortNames (names : List String) : List String :=
  (names.mergeSort fun a b => a ≤ b).eraseReps

/-- The group that a fragment without groups belongs to. -/
def defaultGroup : String := "default"

namespace Fragment

/-- A fragment with the given groups, of which empty names are left out. -/
def make (name : String) (arguments : List Value) (groups : List String) (message : Option String) :
    Fragment :=
  { name, arguments, groups := sortNames (groups.filter fun g => !g.isEmpty), message }

/-- How a fragment is called in reports: its name, and whether it has arguments. -/
def template (f : Fragment) : String :=
  if f.arguments.isEmpty then f.name else f.name ++ "(...)"

/-- Whether two fragments are equal; their arguments are compared as values. -/
def same (f g : Fragment) : Bool :=
  f.name == g.name && f.groups == g.groups && Value.equalAll f.arguments g.arguments
    && f.message == g.message

/-- A value made into one of a class as the argument at a place; one that cannot be made into it is
reported as an argument, in its written form. -/
def convertArgument (f : Fragment) (index : Int) (kind? : Option Class) (v : Value) :
    Except Error Value :=
  match kind?, v with
  | none, _ => pure v
  | _, .none => pure v
  | some kind, _ =>
    if v.isOf kind then pure v
    else match v.convertTo kind with
      | .ok w => pure w
      | .error fault =>
        if fault.family == .wrongType || fault.family == .badValue then
          match v.written with
          | .ok written => throw (.argument index f.template kind.simpleName written)
          | .error unwritable => throw (.fault unwritable)
        else throw (.fault fault)

/-- The argument at a place, made into one of a class. A negative place is counted from the end. Beyond
the last argument it is the default, and a missing value stays what it is. -/
def argument (f : Fragment) (index : Int) (kind? : Option Class := none) (default : Value := .none) :
    Except Error Value :=
  if f.arguments.length ≤ index then pure default
  else
    let place := if index < 0 then index + f.arguments.length else index
    match if place < 0 then none else f.arguments[place.toNat]? with
    | none => throw (.fault .outOfRange)
    | some v => convertArgument f index kind? v

/-- Whether a fragment belongs to one of the requested groups. -/
def inGroups (f : Fragment) (requested : List String) : Bool :=
  if f.groups.isEmpty then requested.contains defaultGroup
  else f.groups.any requested.contains

end Fragment

end FieldRules
