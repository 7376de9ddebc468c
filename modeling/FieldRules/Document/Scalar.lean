import FieldRules.Number.Text
import FieldRules.Regex.Source
import FieldRules.Text.Escape
import FieldRules.Text.Split
import FieldRules.Value.Basic

/-!
# Scalars

What a plain scalar of a document stands for: nothing, a truth value, a number, or else the text that it
is.
-/

namespace FieldRules.Document

/-- The forms of integers with their bases. -/
def integerForms : List (String × Nat) :=
  [("[-+]?0b[0-1_]+", 2), ("[-+]?0[0-7_]+", 8), ("[-+]?(?:0|[1-9][0-9_]*)", 10),
    ("[-+]?0x[0-9a-fA-F_]+", 16), ("[-+]?[1-9][0-9_]*(?::[0-5]?[0-9])+", 60)]

/-- The forms of decimal numbers. -/
def decimalForm : String :=
  "[-+]?(?:[0-9][0-9_]*)\\.[0-9_]*(?:[eE][-+][0-9]+)?|\\.[0-9][0-9_]*(?:[eE][-+][0-9]+)?"

/-- The value of a digit. -/
def digitValue (c : Char) : Nat :=
  (Text.hexDigit? c).getD 0

/-- The number that digits stand for in a base. -/
def numberIn (base : Nat) (digits : List Char) : Nat :=
  digits.foldl (fun n c => base * n + digitValue c) 0

/-- The number that parts of sixty stand for. -/
def sexagesimal (digits : List Char) : Nat :=
  (Text.splitAll [':'] digits).foldl (fun n part => 60 * n + numberIn 10 part) 0

/-- The integer that a text of an integer form stands for. -/
def integerValue (base : Nat) (s : List Char) : Int :=
  let (negative, digits) := Number.takeSign (s.filter (· != '_'))
  let digits := if base == 2 || base == 16 then digits.drop 2 else digits
  let n := if base == 60 then sexagesimal digits else numberIn base digits
  if negative then -(n : Int) else n

/-- The integer that a scalar is. -/
def integerScalar? (s : List Char) : Option Int :=
  integerForms.findSome? fun (form, base) =>
    if Regex.matchesSource form s then some (integerValue base s) else none

/-- The floating-point number that a scalar is. -/
def decimalScalar? (s : List Char) : Option Float :=
  if Regex.matchesSource decimalForm s then Number.readFloat? (s.filter (· != '_'))
  else if Regex.matchesSource "[-+]?\\.(?:inf|Inf|INF)" s then
    some (Number.Binary.infinity (s.head? == some '-'))
  else if Regex.matchesSource "\\.(?:nan|NaN|NAN)" s then some Number.Binary.notANumber
  else none

/-- The words for nothing and for the truth values. -/
def words : List (Value × List String) :=
  [(.none, ["", "~", "null", "Null", "NULL"]),
    (.bool true, ["yes", "Yes", "YES", "true", "True", "TRUE", "on", "On", "ON"]),
    (.bool false, ["no", "No", "NO", "false", "False", "FALSE", "off", "Off", "OFF"])]

/-- What a plain scalar stands for. -/
def scalarValue (s : List Char) : Value :=
  let text := String.ofList s
  match words.find? fun (_, names) => names.contains text with
  | some (v, _) => v
  | none =>
    match integerScalar? s with
    | some n => .int n
    | none => ((decimalScalar? s).map Value.float).getD (.string text)

end FieldRules.Document
