import FieldRules.Error

/-!
# Arities

How many arguments a constraint takes, how that is shown, and how a wrong number is reported.
-/

namespace FieldRules

/-- How many arguments a constraint takes at least and at most; without a most it takes any number. -/
structure Arity where
  least : Nat := 0
  most? : Option Nat := some 0
  deriving DecidableEq, Repr, Inhabited

namespace Arity

/-- Exactly so many arguments. -/
def exactly (n : Nat) : Arity := ⟨n, some n⟩

/-- From so many arguments to so many. -/
def between (least most : Nat) : Arity := ⟨least, some most⟩

/-- Any number of arguments. -/
def variadic : Arity := ⟨0, none⟩

/-- Whether any number of arguments is taken. -/
def isVariadic (a : Arity) : Bool :=
  a.most?.isNone

/-- Whether so many arguments are taken. -/
def accepts (a : Arity) (count : Nat) : Bool :=
  match a.most? with
  | none => true
  | some most => a.least ≤ count && count ≤ most

/-- The optional arguments as they are shown behind the required ones. -/
def optionalText (least count : Nat) : String :=
  String.join ((List.range count).map fun i => if least == 0 && i == 0 then "[?]" else "[,?]")

/-- How a constraint of this arity is written. -/
def usage (a : Arity) (name : String) : String :=
  match a.most? with
  | none => name ++ "(...)"
  | some 0 => name
  | some most =>
    name ++ "(" ++ ",".intercalate (List.replicate a.least "?")
      ++ optionalText a.least (most - a.least) ++ ")"

/-- What is wrong with so many arguments, if anything is. -/
def violation? (a : Arity) (name : String) (count : Nat) : Option SetupError :=
  match a.most? with
  | none => none
  | some most =>
    if a.accepts count then none
    else if most == 0 then some (.noParametersTaken (a.usage name))
    else if count < a.least then some (.tooFewParameters (a.usage name) a.least)
    else some (.tooManyParameters (a.usage name) most)

end Arity

end FieldRules
