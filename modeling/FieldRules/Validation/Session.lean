import FieldRules.Handler.Dispatch
import FieldRules.Message.Library
import FieldRules.Message.Template
import FieldRules.Plan.Compile

/-!
# Sessions

What validations go by, and what is kept between them: the plans that have been compiled, the library of
messages, and the warnings that were given.
-/

namespace FieldRules

/-- What validations go by: the types and their rules, the handlers, how fragments that do not apply are
treated, and whether a validation ends at the first rejected field. -/
structure Validator where
  sources : Sources := {}
  registry : Registry := .builtin
  leniency : Leniency := {}
  stopsAtFirst : Bool := false
  deriving Inhabited

/-- What is kept between validations. -/
structure Session where
  plans : Plans := {}
  library : Library := {}
  warnings : List Warning := []
  deriving Inhabited

namespace Session

/-- A computation in a session. -/
abbrev Run := Cache.Run Session Error

variable {α : Type}

/-- Takes down a warning. -/
def warn (w : Warning) : Run Unit :=
  modify fun s => { s with warnings := s.warnings ++ [w] }

/-- Compiles in a session, which takes over the warnings. -/
def onPlans (m : Plans.Run α) : Run α := fun s =>
  let (r, plans) := m { s.plans with warnings := s.warnings }
  (r, { s with plans := { plans with warnings := [] }, warnings := plans.warnings })

/-- Looks up messages in a session. -/
def onLibrary (m : Library.Run α) : Run α := fun s =>
  let (r, library) := m s.library
  (r, { s with library })

/-- The text that a text stands for. -/
def resolveText (text : String) (locale? : Option String) : Run String :=
  onLibrary (Library.resolveText text locale?)

/-- The text for a short key, if there is one. -/
def textFor? (short : String) (locale? : Option String) : Run (Option String) := do
  onLibrary (Library.resolve ((← get).library.messageKey short) locale?)

/-- The message for a short key, if there is one. -/
def message? (short : String) (locale? : Option String) : Run (Option String) := do
  match ← textFor? short locale? with
  | none => return none
  | some text => return some (← (Template.fill text [] [] : Except Error String))

end Session

/-- The plan of a class. -/
def Validator.planOf (V : Validator) (c : Class) : Session.Run Plan :=
  Session.onPlans (Plans.compileType V.sources c)

end FieldRules
