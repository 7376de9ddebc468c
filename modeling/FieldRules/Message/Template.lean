import FieldRules.Error
import FieldRules.Expr.Check
import FieldRules.Expr.Eval
import FieldRules.Number.Text
import FieldRules.Text.Digit
import FieldRules.Value.Convert

/-!
# Message templates

A template is text with placeholders in braces. A number in a placeholder stands for the argument at
that place, anything else is an expression. Where a placeholder has no value, nothing is written; a
brace that is not closed is text like any other.
-/

namespace FieldRules

/-- The value of a placeholder as an expression; a name that has no value stands for a missing value. -/
def resolvePlaceholder (text : String) (bindings : List (String × Value)) : Except Error Value := do
  match Expr.compile false text.toList with
  | .error (.literal f) => throw (.fault f)
  | .error p => throw (.rule (.badPlaceholder text p))
  | .ok e =>
    match ← liftFault (Expr.evaluate ⟨bindings, false⟩ e) with
    | .undefined _ => return .none
    | v => return v

namespace Template

/-- A part of a template: a character of its text, or what stands between two braces. -/
inductive Piece where
  | plain (c : Char)
  | placeholder (inner : List Char)
  deriving DecidableEq, Repr

/-- Cuts a text at the brace that closes it: what stands before the brace and what stands behind it.
`depth` counts the braces that have been opened on the way. -/
def closeBrace? (depth : Nat) : List Char → Option (List Char × List Char)
  | [] => none
  | c :: rest =>
    if c = '\x7d' then
      match depth with
      | 0 => some ([], rest)
      | depth + 1 => (closeBrace? depth rest).map fun (inner, after) => (c :: inner, after)
    else
      let depth := if c = '\x7b' then depth + 1 else depth
      (closeBrace? depth rest).map fun (inner, after) => (c :: inner, after)

/-- What stands behind the closing brace is a part of the text. -/
theorem closeBrace?_length_lt {depth : Nat} {s inner after : List Char}
    (h : closeBrace? depth s = some (inner, after)) : after.length < s.length := by
  induction s generalizing depth inner after with
  | nil => simp [closeBrace?] at h
  | cons c rest ih =>
    simp only [closeBrace?] at h
    split at h
    · split at h
      · simp_all
      · obtain ⟨⟨i, a⟩, hi, he⟩ := Option.map_eq_some_iff.1 h
        simp only [Prod.mk.injEq] at he
        have := ih hi
        simp only [List.length_cons]
        rw [← he.2]
        omega
    · obtain ⟨⟨i, a⟩, hi, he⟩ := Option.map_eq_some_iff.1 h
      simp only [Prod.mk.injEq] at he
      have := ih hi
      simp only [List.length_cons]
      rw [← he.2]
      omega

/-- The parts of a template. -/
def pieces (s : List Char) : List Piece :=
  match s with
  | [] => []
  | c :: rest =>
    if c = '\x7b' then
      match h : closeBrace? 0 rest with
      | some (inner, after) =>
        have : after.length < rest.length := closeBrace?_length_lt h
        .placeholder inner :: pieces after
      -- No brace behind an open one is looked at: the rest is text.
      | none => (c :: rest).map .plain
    else .plain c :: pieces rest
  termination_by s.length

/-- Whether a placeholder that fails in this way is written as nothing. -/
def isForgiven : Error → Bool
  | .rule _ => true
  | .fault f =>
    f.family != .unboundName && f.family != .noAttribute && f.family != .outOfMemory
  | _ => false

/-- The value of a placeholder as text. -/
def expressionText (text : String) (bindings : List (String × Value)) : Except Error String :=
  match (do liftFault (← resolvePlaceholder text bindings).rendered) with
  | .error e => if isForgiven e then pure "" else throw e
  | .ok s => pure s

/-- The text that is written for a placeholder. -/
def placeholderText (inner : List Char) (bindings : List (String × Value)) (arguments : List Value) :
    Except Error String := do
  let name := Text.trim inner
  if name.isEmpty then return ""
  else if name.all Text.isDigit then
    -- Digits of any script make it a place, also those that no number can be read from. That fault is
    -- not forgiven as one of an expression is.
    let place ← liftFault (Value.readInteger name (String.ofList (Text.quote name)))
    match arguments[place.toNat]? with
    | some v => liftFault v.rendered
    | none => return ""
  else expressionText (String.ofList name) bindings

/-- The text that is written for a part. -/
def pieceText (bindings : List (String × Value)) (arguments : List Value) :
    Piece → Except Error String
  | .plain c => pure (String.singleton c)
  | .placeholder inner => placeholderText inner bindings arguments

/-- A template with its placeholders filled in. -/
def fill (template : String) (bindings : List (String × Value)) (arguments : List Value) :
    Except Error String := do
  return String.join (← (pieces template.toList).mapM (pieceText bindings arguments))

end Template

end FieldRules
