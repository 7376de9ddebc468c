import FieldRules.Value.Render

/-!
# Arguments of calls

A signature gives the parameters of an operation their names and defaults; binding a call to it gives
every parameter one value, or says what is wrong with the call.
-/

namespace FieldRules.Expr

/-- A parameter and its default if it has one. -/
structure Parameter where
  name : String
  default? : Option Value := none

/-- The name of an operation in reports, the number of values that it gets in front of all others, and
its parameters. -/
structure Signature where
  callee : String
  hidden : Nat := 0
  parameters : List Parameter

/-- Names in a report, the last one after an `and`. -/
def listNames : List String → String
  | [] => ""
  | [a] => a
  | [a, b] => s!"{a} and {b}"
  | names => ", ".intercalate names.dropLast ++ ", and " ++ names.getLastD ""

/-- The plural ending for a number. -/
def plural (n : Nat) : String :=
  if n == 1 then "" else "s"

namespace Signature

/-- How many values by place a call may have, the hidden ones among them. -/
def most (s : Signature) : Nat :=
  s.hidden + s.parameters.length

/-- How many values a call must have, the hidden ones among them. -/
def least (s : Signature) : Nat :=
  s.hidden + (s.parameters.filter fun p => p.default?.isNone).length

/-- The fault of too many values by place. -/
def tooMany (s : Signature) (given : Nat) : Fault :=
  let were := if given == 1 then "was" else "were"
  let takes := if s.least == s.most then s!"{s.most} positional argument{plural s.most}"
    else s!"from {s.least} to {s.most} positional argument{plural s.most}"
  .wrongArguments s!"{s.callee}() takes {takes} but {given} {were} given"

/-- The fault of missing values. -/
def missing (s : Signature) (names : List String) : Fault :=
  let quoted := names.map Text.quoteString
  .wrongArguments (s!"{s.callee}() missing {names.length} required positional "
    ++ s!"argument{plural names.length}: {listNames quoted}")

/-- Checks the values that are given by name. -/
def checkNamed (s : Signature) (positional : Nat) : List (String × Value) → Except Fault Unit
  | [] => pure ()
  | (name, _) :: rest => do
    match s.parameters.findIdx? fun p => p.name == name with
    | none => throw (.wrongArguments (s!"{s.callee}() got an unexpected keyword argument "
        ++ Text.quoteString name))
    | some i =>
      if i < positional then
        throw (.wrongArguments (s!"{s.callee}() got multiple values for argument "
          ++ Text.quoteString name))
    checkNamed s positional rest

/-- The value of each parameter from the values by place, by name, and the defaults; and the names of
those that have none. -/
def fill : List Parameter → List Value → List (String × Value) → List Value × List String
  | [], _, _ => ([], [])
  | _ :: rest, v :: vs, named =>
    let (values, names) := fill rest vs named
    (v :: values, names)
  | p :: rest, [], named =>
    let (values, names) := fill rest [] named
    match named.lookup p.name <|> p.default? with
    | some v => (v :: values, names)
    | none => (values, p.name :: names)

/-- Gives each parameter its value. -/
def bind (s : Signature) (positional : List Value) (named : List (String × Value)) :
    Except Fault (List Value) := do
  s.checkNamed positional.length named
  if s.parameters.length < positional.length then throw (s.tooMany (s.hidden + positional.length))
  match fill s.parameters positional named with
  | (values, []) => return values
  | (_, names) => throw (s.missing names)

end Signature

end FieldRules.Expr
