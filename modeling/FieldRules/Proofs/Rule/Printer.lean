import FieldRules.Rule.Scanner
import Mathlib.Algebra.Group.Nat.Defs
import Mathlib.Data.List.Forall2

/-!
# Writing rules

How rules are written that are to be read back: what a fragment is to be is given by a descriptor, with its
arguments as literals. A writer puts a backslash before what would end a text or a pattern too early, and
leaves out parts that are not there. `Descriptor.Printable` says which descriptors can be written at all,
and `Descriptor.Describes` what a fragment has to be that has been read back.
-/

namespace FieldRules.Rule

/-- A literal in an argument list. -/
inductive Literal where
  | text (s : String)
  | integer (n : Int)
  | truth (b : Bool)
  | nothing
  | pattern (source : String)
  deriving DecidableEq, Repr

namespace Literal

/-- A character as it is written in a text. -/
def escapeChar (c : Char) : List Char :=
  if c = '\n' then ['\\', 'n']
  else if c = '\r' then ['\\', 'r']
  else if c = '\\' ∨ c = '\'' ∨ c = '"' then ['\\', c]
  else [c]

/-- A character is written behind a backslash, or as it is; it has no meaning of its own then. -/
theorem escapeChar_cases (c : Char) :
    (∃ d, escapeChar c = ['\\', d] ∧ d ≠ '\r') ∨
      (escapeChar c = [c] ∧ c ≠ '\r' ∧ c ≠ '\\' ∧ c ≠ '\'' ∧ c ≠ '"') := by
  unfold escapeChar
  split
  · exact .inl ⟨'n', rfl, by decide⟩
  split
  · exact .inl ⟨'r', rfl, by decide⟩
  next hreturn =>
  split
  · exact .inl ⟨c, rfl, hreturn⟩
  · next hother =>
    rw [not_or, not_or] at hother
    exact .inr ⟨rfl, hreturn, hother⟩

/-- A character as it is written in a pattern. -/
def escapeSlash (c : Char) : List Char :=
  if c = '/' then ['\\', '/'] else [c]

/-- A number in decimal digits, with its sign if it is negative. -/
def printInteger (n : Int) : List Char :=
  if n < 0 then '-' :: Nat.toDigits 10 n.natAbs else Nat.toDigits 10 n.natAbs

/-- A literal as it is written. -/
def print : Literal → List Char
  | text s => '\'' :: s.toList.flatMap escapeChar ++ ['\'']
  | integer n => printInteger n
  | truth b => if b then "true".toList else "false".toList
  | nothing => "none".toList
  | pattern source => '/' :: source.toList.flatMap escapeSlash ++ ['/']

/-- Whether the literal can be written: numbers have a bound on their digits, and patterns have to be
patterns that do not end in a backslash. -/
def Printable : Literal → Prop
  | integer n => n.natAbs < 10 ^ Number.maxDigits
  | pattern source => (∃ r, Regex.compile source = .ok r) ∧ source.toList.getLast? ≠ some '\\'
  | _ => True

/-- The value that a literal stands for. -/
def Denotes : Literal → Value → Prop
  | text s, v => v = .string s
  | integer n, v => v = .int n
  | truth b, v => v = .bool b
  | nothing, v => v = .none
  | pattern source, v => ∃ r, Regex.compile source = .ok r ∧ r.source = source ∧ v = .pattern r

end Literal

/-- What a fragment is to be. -/
structure Descriptor where
  name : String
  arguments : List Literal := []
  groups : List String := []
  message? : Option String := none
  deriving DecidableEq, Repr

namespace Descriptor

/-- Arguments as they are written, nothing if there are none. -/
def printArguments : List Literal → List Char
  | [] => []
  | arguments => '(' :: [','].intercalate (arguments.map Literal.print) ++ [')']

/-- Groups as they are written, nothing if there are none. -/
def printGroups : List String → List Char
  | [] => []
  | groups => '<' :: [','].intercalate (groups.map String.toList) ++ ['>']

/-- A message as it is written, nothing if there is none. -/
def printMessage : Option String → List Char
  | none => []
  | some message => '<' :: '<' :: message.toList ++ ['>', '>']

/-- A descriptor as it is written. -/
def print (d : Descriptor) : List Char :=
  d.name.toList ++ printArguments d.arguments ++ printGroups d.groups ++ printMessage d.message?

/-- Whether the descriptor can be written. -/
structure Printable (d : Descriptor) : Prop where
  /-- There is a name. -/
  named : d.name ≠ ""
  /-- The name has word characters only. -/
  name : ∀ c ∈ d.name.toList, isNameChar c = true
  arguments : ∀ l ∈ d.arguments, l.Printable
  /-- A group has a name, which has no blanks in it and nothing that would end it. -/
  groups : ∀ g ∈ d.groups, g ≠ "" ∧ g.toList.head? ≠ some '<' ∧
    ∀ c ∈ g.toList, c ≠ ',' ∧ c ≠ '>' ∧ Text.isBlank c = false
  /-- A message has nothing in it that would end it too early. -/
  message : ∀ m, d.message? = some m → ¬['>', '>'] <:+: m.toList ∧ m.toList.getLast? ≠ some '>'

/-- The fragment is what it is to be; its groups are those of the descriptor as a set. -/
structure Describes (d : Descriptor) (f : Fragment) : Prop where
  name : f.name = d.name
  arguments : List.Forall₂ Literal.Denotes d.arguments f.arguments
  groups : ∀ g, g ∈ f.groups ↔ g ∈ d.groups
  message : f.message = d.message?
  template : f.template = if d.arguments.isEmpty then d.name else d.name ++ "(...)"

end Descriptor

/-- A rule text for descriptors, with a delimiter between them. -/
def print (ds : List Descriptor) : String :=
  String.ofList ([delimiter].intercalate (ds.map Descriptor.print))

end FieldRules.Rule
