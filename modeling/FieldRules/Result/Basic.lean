import FieldRules.Value.Basic

/-!
# Results

The result of a validation counts the fields that passed, were rejected and were ignored, and lists the
rejected ones. A rejected field has the fragments that it was rejected for, or the result of its value
as an object of its own.
-/

namespace FieldRules

/-- A fragment that rejected a value. -/
structure Rejection where
  name : String
  errorCode : String
  message : String
  arguments : List Value := []
  deriving Inhabited

/-- The counts of a result, with a message about the whole. -/
structure Tally where
  passed : Bool := true
  total : Nat := 0
  passedCount : Nat := 0
  errorCount : Nat := 0
  ignoredCount : Nat := 0
  message? : Option String := none
  deriving DecidableEq, Repr, Inhabited

namespace Tally

/-- Counts a field that passed. -/
def pass (t : Tally) : Tally :=
  { t with passedCount := t.passedCount + 1 }

/-- Counts a field that was not looked at. -/
def ignore (t : Tally) : Tally :=
  { t with ignoredCount := t.ignoredCount + 1 }

/-- Counts a field that was rejected. -/
def reject (t : Tally) : Tally :=
  { t with passed := false, errorCount := t.errorCount + 1 }

/-- The first of two messages, unless it is empty. -/
def firstMessage (a? b? : Option String) : Option String :=
  match a? with
  | none => b?
  | some "" => b?
  | some a => some a

/-- The counts of two results together. -/
def merge (s t : Tally) : Tally where
  passed := s.passed && t.passed
  total := s.total + t.total
  passedCount := s.passedCount + t.passedCount
  errorCount := s.errorCount + t.errorCount
  ignoredCount := s.ignoredCount + t.ignoredCount
  message? := firstMessage s.message? t.message?

end Tally

/-- The result of one field: the fragments that rejected its value, or the result of the value as an
object. -/
inductive ElementResult where
  | own (field label : String) (value : Value) (rejections : List Rejection)
  | nested (field label : String) (value : Value) (tally : Tally) (rejected : List ElementResult)
  deriving Inhabited

/-- The result of a validation. -/
structure Result where
  tally : Tally := {}
  rejected : List ElementResult := []
  deriving Inhabited

namespace ElementResult

/-- The name of the field. -/
def field : ElementResult → String
  | own field .. => field
  | nested field .. => field

/-- The label of the field. -/
def label : ElementResult → String
  | own _ label .. => label
  | nested _ label .. => label

/-- The value of the field. -/
def value : ElementResult → Value
  | own _ _ value _ => value
  | nested _ _ value .. => value

/-- The fragments that rejected the value. -/
def rejections : ElementResult → List Rejection
  | own _ _ _ rejections => rejections
  | nested .. => []

/-- The result of the value as an object. -/
def nested? : ElementResult → Option Result
  | own .. => none
  | nested _ _ _ tally rejected => some ⟨tally, rejected⟩

/-- Whether the field passed. -/
def passed : ElementResult → Bool
  | own _ _ _ rejections => rejections.isEmpty
  | nested _ _ _ tally _ => tally.passed

/-- The result of a field whose value has a result as an object. -/
def ofNested (field label : String) (value : Value) (r : Result) : ElementResult :=
  nested field label value r.tally r.rejected

end ElementResult

namespace Result

/-- The result where there is nothing to validate. -/
def empty (message? : Option String) : Result where
  tally := { message? }

/-- Counts a field that passed. -/
def pass (r : Result) : Result :=
  { r with tally := r.tally.pass }

/-- Counts a field that was not looked at. -/
def ignore (r : Result) : Result :=
  { r with tally := r.tally.ignore }

/-- Counts and lists a field that was rejected. -/
def reject (r : Result) (e : ElementResult) : Result where
  tally := r.tally.reject
  rejected := r.rejected ++ [e]

/-- Counts a field as passed or rejected. -/
def add (r : Result) (e : ElementResult) : Result :=
  if e.passed then r.pass else r.reject e

/-- Two results as one. -/
def merge (r s : Result) : Result where
  tally := r.tally.merge s.tally
  rejected := r.rejected ++ s.rejected

/-- The result with a message about the whole. -/
def withMessage (r : Result) (message? : Option String) : Result :=
  { r with tally := { r.tally with message? } }

end Result

end FieldRules
