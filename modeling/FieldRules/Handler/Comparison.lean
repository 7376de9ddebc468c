import FieldRules.Handler.Bounds

/-!
# Comparisons

The handlers that compare a value with the arguments: membership, the start and the end of a text, and
equality with an argument or with a sibling field.
-/

namespace FieldRules.Handler

/-- The texts of values with commas between them. -/
def joinedTexts (vs : List Value) : Except Fault String := do
  return ", ".intercalate (← vs.mapM Value.text)

/-- A rejection that lists the arguments. -/
def rejectListing (f : Fragment) : Check Finding := do
  let listed ← (joinedTexts f.arguments : Except Fault String)
  return { passed := false, bindings := [("elements", .string listed)] }

/-- The value must be one of the arguments. -/
def contains : Handler where
  handlerClass := builtinClass "ContainsHandler"
  names := ["contains"]
  arity := .variadic
  check v f _ := if Value.isIn v f.arguments then accept else rejectListing f

/-- The text must start, or end, with one of the arguments. -/
def boundary : Handler where
  handlerClass := builtinClass "BoundaryHandler"
  names := ["prefixs", "suffixs"]
  types? := some [.string]
  arity := .variadic
  check v f _ := do
    let text := (v.text?.getD "").toList
    -- The empty text is rejected even where an argument is empty.
    if text.isEmpty then rejectListing f
    else
      let candidates ← (f.arguments.mapM Value.text : Except Fault (List String))
      let holds (c : String) : Bool :=
        if f.name == "prefixs" then c.toList.isPrefixOf text
        else f.name == "suffixs" && c.toList.isSuffixOf text
      if candidates.any holds then accept else rejectListing f

/-- Whether a text is that of the target, in any case if so wished. -/
def sameText (s : String) (target : Value) (ignoreCase : Bool) : Except Fault Bool := do
  match target with
  | .none => return false
  | _ =>
    let t ← target.text
    if ignoreCase then return Text.fold s.toList == Text.fold t.toList else return s == t

/-- Whether a value is the target, which is first made into one of the class of the value. A target that
cannot be made into one is another value. -/
def sameValue (v target : Value) : Except Fault Bool :=
  match target with
  | .none => pure (v.equal target)
  | _ =>
    if target.isOf v.kind then pure (v.equal target)
    else match target.convertTo v.kind with
      | .ok w => pure (v.equal w)
      | .error e =>
        if e.family == .wrongType || e.family == .badValue then pure false else throw e

/-- Whether a value is the target: texts by their characters, other values as values. -/
def same (v target : Value) (ignoreCase : Bool) : Except Fault Bool :=
  match v.text? with
  | some s => sameText s target ignoreCase
  | none => sameValue v target

/-- The value must be that of a sibling field. Outside of an object there is none, and any value
passes. -/
def sameAsSibling (v : Value) (name : String) (f : Fragment) (ctx : Context) (ignoreCase : Bool) :
    Check Finding :=
  if ctx.inObject then
    .sibling name fun target => do
      if ← (same v target ignoreCase : Except Fault Bool) then accept
      -- The label is looked up for a rejection only.
      else .siblingLabel name fun label =>
        pure {
          passed := false
          keys := ctx.typedKeys f "related"
          bindings := [("target", .string label)]
        }
  else .warn .referenceOutsideObject accept

/-- The name of the sibling field that an argument stands for. -/
def siblingName? (v : Value) : Option String :=
  match (v.text?.getD "").toList with
  | '#' :: name => some (String.ofList name)
  | _ => none

/-- The value must equal the argument, or the sibling field that the argument names. -/
def equals : Handler where
  handlerClass := builtinClass "EqualsHandler"
  names := ["equals"]
  arity := .between 1 2
  check v f ctx := do
    let target ← (f.argument 0 : Except Error Value)
    let second ← (f.argument 1 none (.bool false) : Except Error Value)
    let ignoreCase ← (second.truth : Except Fault Bool)
    match siblingName? target with
    | some name => sameAsSibling v name f ctx ignoreCase
    | none => acceptIf (← (same v target ignoreCase : Except Fault Bool)) ctx f "specify"

end FieldRules.Handler
