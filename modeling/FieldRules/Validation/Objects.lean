import FieldRules.Validation.Fragments

/-!
# Validation

An object is validated field by field: first the fields without a gate, then those with one, which are
looked at if their gates are open and ignored otherwise. A field that no fragment rejects and that is
nested is validated as an object in its turn. Single values and the parameters of functions are validated
as a field of their own.
-/

namespace FieldRules

/-- What has become of a field: it was ignored, or there is a result. -/
inductive Verdict where
  | ignored
  | judged (r : ElementResult)
  deriving Inhabited

namespace Verdict

/-- Whether the field was rejected. -/
def isRejected : Verdict → Bool
  | ignored => false
  | judged r => !r.passed

/-- The name of a field and whether it passed, if it was looked at. -/
def outcome? : Verdict → Option (String × Bool)
  | ignored => none
  | judged r => some (r.field, r.passed)

/-- Counts the field. -/
def count (r : Result) : Verdict → Result
  | ignored => r.ignore
  | judged e => r.add e

end Verdict

/-- The result for verdicts on some of the fields. -/
def Result.ofVerdicts (total : Nat) (verdicts : List Verdict) : Result :=
  verdicts.foldl Verdict.count { tally := { total } }

namespace Value

mutual

/-- How deep values lie in each other. -/
def height : Value → Nat
  | list xs => heightAll xs + 1
  | tuple xs => heightAll xs + 1
  | dict es => heightEntries es + 1
  | obj _ shared own => heightFields shared + heightFields own + 1
  | _ => 1

/-- The height of the highest value. -/
def heightAll : List Value → Nat
  | [] => 0
  | v :: rest => max v.height (heightAll rest)

/-- The height of the highest value in entries. -/
def heightEntries : List (Value × Value) → Nat
  | [] => 0
  | (_, v) :: rest => max v.height (heightEntries rest)

/-- The height of the highest value in fields. -/
def heightFields : List (String × Value) → Nat
  | [] => 0
  | (_, v) :: rest => max v.height (heightFields rest)

end

end Value

namespace Validator

open Session

/-- Looks at elements in their order, and no further than the first rejected one if so wished. -/
def lookThrough (stops : Bool) (look : Element → Run Verdict) : List Element → Run (List Verdict)
  | [] => pure []
  | e :: rest => do
    let v ← look e
    if stops && v.isRejected then return [v]
    else return v :: (← lookThrough stops look rest)

/-- The result of a subject: the fragments that reject it, or, if there are none and it is nested, the
result of its value as an object. -/
def judgeSubject (V : Validator) (inner : Value → Run Result) (q : Request) (field : String)
    (nested : Bool) (s : Subject) (fragments : List Fragment) : Run ElementResult := do
  let rejections ← V.rejections q s fragments
  if nested && rejections.isEmpty then
    return .ofNested field s.label s.value (← inner s.value)
  else return .own field s.label s.value rejections

/-- The result of a field of an object. -/
def judge (V : Validator) (inner : Value → Run Result) (q : Request)
    (requested : Option (List String)) (object : Value) (e : Element) : Run ElementResult := do
  let label ← resolveText e.label q.locale?
  let s : Subject := {
    value := e.get object
    label := label
    element? := some e
    object? := some object
  }
  V.judgeSubject inner q e.name e.nested s (selectFragments e.fragments requested)

/-- Warns of fields that a gate names and that have no outcome. -/
def warnOfMissing (object : Value) (e : Element) (g : Gate) (outcomes : List (String × Bool)) :
    Run Unit :=
  (g.missing outcomes).forM fun name => warn (.noSuchSibling object.kindName e.name name)

/-- The verdict on a field with a gate. -/
def judgeGated (judge : Element → Run ElementResult) (object : Value)
    (outcomes : List (String × Bool)) (e : Element) : Run Verdict := do
  let g := e.gate?.getD { fields := [] }
  warnOfMissing object e g outcomes
  if g.isOpen? outcomes == some true then return .judged (← judge e) else return .ignored

/-- The verdicts on the fields of an object. -/
def verdicts (stops : Bool) (judge : Element → Run ElementResult) (object : Value) (plan : Plan) :
    Run (List Verdict) := do
  let (free, gated) := plan.partition Element.isUnconditional
  let first ← lookThrough stops (fun e => return .judged (← judge e)) free
  if stops && first.any Verdict.isRejected then return first
  else
    -- No gate asks for a field with a gate (`checkGates`), so the outcomes so far are all it needs.
    let outcomes := first.filterMap Verdict.outcome?
    return first ++ (← lookThrough stops (judgeGated judge object outcomes) gated)

/-- A result with the message about the whole. -/
def finish (q : Request) (r : Result) : Run Result := do
  let key := if r.tally.passed then Texts.testPassed else Texts.testRejected
  return r.withMessage (← message? key q.locale?)

/-- Validates an object that is there. -/
def validateFields (V : Validator) (inner : Value → Run Result) (q : Request) (object : Value) :
    Run Result := do
  let plan ← V.planOf object.kind
  if plan.isEmpty then return .empty (← message? Texts.emptyElements q.locale?)
  else
    -- What is no group is found out only where there is a field to validate.
    let requested ← (liftFault (requestedGroups q.groups) : Except Error (Option (List String)))
    let found ← verdicts V.stopsAtFirst (V.judge inner q requested object) object plan
    finish q (.ofVerdicts plan.length found)

/-- Validates an object down to a depth. -/
def validateWithin (V : Validator) (q : Request) : Nat → Value → Run Result
  | _, .none => return .empty (← message? Texts.missingValue q.locale?)
  | 0, _ => throw .tooDeep
  | depth + 1, object => V.validateFields (V.validateWithin q depth) q object

/-- A depth that no validation of a value exceeds unless it goes on forever. Nested values lie in each
other, and the attributes of plain values lead to plain values after at most two steps. -/
def depthFor (v : Value) : Nat :=
  v.height + 4

/-- Validates an object. -/
def validate (V : Validator) (q : Request) (object : Value) : Run Result :=
  V.validateWithin q (depthFor object) object

/-- Validates a value as a field of its own. -/
def validateAlone (V : Validator) (q : Request) (field label : String) (nested : Bool)
    (fragments : List Fragment) (v : Value) : Run Result := do
  let requested ← (liftFault (requestedGroups q.groups) : Except Error (Option (List String)))
  let label ← resolveText label q.locale?
  let s : Subject := { value := v, label := label }
  let e ← V.judgeSubject (V.validate q) q field nested s (selectFragments fragments requested)
  finish q (.ofVerdicts 1 [.judged e])

/-- The name of a value that is validated on its own. -/
def valueField : String := "target"

/-- Validates a value against a rule text. -/
def validateValue (V : Validator) (q : Request) (rules? label? : Option String) (v : Value) :
    Run Result := do
  let fragments ← onPlans (Plans.compileTemplate V.sources.strict rules?)
  let label := (label?.filter fun l => !l.isEmpty).getD valueField
  V.validateAlone q valueField label false fragments v

/-- Validates a value against the tags of a parameter. -/
def validateParameter (V : Validator) (q : Request) (f : FunctionDeclaration) (name : String)
    (v : Value) : Run Result := do
  let m ← ((Member.parameter V.sources.declarations f name).mapError Error.setup :
    Except Error Member)
  let fragments ← onPlans (Plans.compileMember V.sources.strict m)
  V.validateAlone q name (Plans.labelOf m) (Tag.isNested m.tags) fragments v

end Validator

end FieldRules
