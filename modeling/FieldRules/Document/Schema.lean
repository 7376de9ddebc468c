import FieldRules.Text.Alnum
import FieldRules.Text.Split
import FieldRules.Value.Render

/-!
# Schemas

A schema says what a document may look like, as a list of demands. A document that does not meet them is
reported by its best violation: the one nearest to the root, of those the one whose path comes last, and
of those at one place the first whose schema asks for another kind of value.
-/

namespace FieldRules

/-- The kinds of values in documents. -/
inductive Document.Kind where
  | object | array | string | boolean | null
  deriving DecidableEq, Repr

/-- A demand on a value. -/
inductive Demand where
  | kinds (ks : List Document.Kind)
  | closed (names : List String)
  | required (names : List String)
  | properties (schemas : List (String × List Demand))
  | otherProperties (names : List String) (schema : List Demand)
  | propertyNames (schema : List Demand)
  | items (schema : List Demand)
  | form (source : String) (holds : List Char → Bool)
  | nonEmptyText
  | nonEmptyList
  | oneOf (words : List String)

/-- A schema is a list of demands. -/
abbrev Schema := List Demand

namespace Document

/-- The name of a kind. -/
def Kind.name : Kind → String
  | object => "object"
  | array => "array"
  | string => "string"
  | boolean => "boolean"
  | null => "null"

/-- Whether a value is of a kind. -/
def Kind.holds : Kind → Value → Bool
  | object, .dict _ => true
  | array, .list _ => true
  | string, .string _ => true
  | boolean, .bool _ => true
  | null, .none => true
  | _, _ => false

/-- A step from a value into it. -/
inductive Step where
  | key (name : String)
  | index (n : Nat)
  deriving DecidableEq, Repr

/-- A step as text. -/
def Step.text : Step → String
  | key name => name
  | index n => toString n

/-- The order of steps. -/
def Step.compare : Step → Step → Ordering
  | key a, .key b => Ord.compare a b
  | index a, .index b => Ord.compare a b
  | key _, .index _ => .gt
  | index _, .key _ => .lt

/-- The order of paths. -/
def comparePaths : List Step → List Step → Ordering
  | [], [] => .eq
  | [], _ => .lt
  | _, [] => .gt
  | a :: as, b :: bs => (a.compare b).then (comparePaths as bs)

/-- A demand that is not met: where, what about it, and whether the value is of the kind that the schema
asks for. -/
structure Violation where
  path : List Step
  message : String
  rightKind : Bool
  deriving Repr

/-- A violation as seen from further outside. -/
def Violation.under (step : Step) (v : Violation) : Violation :=
  { v with path := step :: v.path }

/-- Whether a violation is more telling than another one. -/
def Violation.beats (v w : Violation) : Bool :=
  if v.path.length != w.path.length then v.path.length < w.path.length
  else match comparePaths v.path w.path with
    | .gt => true
    | .lt => false
    | .eq => !v.rightKind && w.rightKind

/-- The most telling violation, the first of those that are equally so. -/
def best? : List Violation → Option Violation
  | [] => none
  | v :: rest => some (rest.foldl (fun b w => if w.beats b then w else b) v)

/-- Where a violation stands. -/
def Violation.place (v : Violation) : String :=
  match v.path with
  | [] => "<root>"
  | path => "/".intercalate (path.map Step.text)

end Document

namespace Schema

open Document

/-- The entries of a document with their keys as text. -/
def textEntries (entries : List (Value × Value)) : List (String × Value) :=
  entries.map fun (k, v) => ((k.text.toOption).getD "", v)

/-- Whether a value is of a kind that the schema asks for. -/
def asksFor (s : Schema) (v : Value) : Bool :=
  match s.findSome? fun
    | .kinds ks => some ks
    | _ => none with
  | some ks => ks.any fun k => k.holds v
  | none => false

/-- The report of names that may not be there. -/
def unexpectedText (names : List String) : String :=
  let verb := if names.length == 1 then "was" else "were"
  "Additional properties are not allowed (" ++ ", ".intercalate (names.map Text.quoteString)
    ++ s!" {verb} unexpected)"

/-- The report of a value of another kind. -/
def kindsText (v : Value) (ks : List Kind) : String :=
  s!"{v.quoted} is not of type " ++ ", ".intercalate (ks.map fun k => Text.quoteString k.name)

/-- The report of a value that is none of some words. -/
def wordsText (v : Value) (words : List String) : String :=
  s!"{v.quoted} is not one of [" ++ ", ".intercalate (words.map Text.quoteString) ++ "]"

/-- The violation of a demand on the value itself. -/
def report (rightKind met : Bool) (message : String) : List Violation :=
  if met then [] else [⟨[], message, rightKind⟩]

mutual

/-- The violations of demands. `rightKind` says whether the value is of a kind that they ask for. -/
def violations (rightKind : Bool) (v : Value) : List Demand → List Violation
  | [] => []
  | d :: rest => violationsOf rightKind v d ++ violations rightKind v rest

/-- The violations of a demand. -/
def violationsOf (rightKind : Bool) (v : Value) : Demand → List Violation
  | .kinds ks => report rightKind (ks.any fun k => k.holds v) (kindsText v ks)
  | .closed names =>
    match v with
    | .dict entries =>
      let extra := ((textEntries entries).map Prod.fst).filter fun n => !names.contains n
      report rightKind extra.isEmpty (unexpectedText (extra.mergeSort fun a b => a ≤ b))
    | _ => []
  | .required names =>
    match v with
    | .dict entries => names.flatMap fun name =>
      report rightKind (((textEntries entries).lookup name).isSome)
        (Text.quoteString name ++ " is a required property")
    | _ => []
  | .properties schemas =>
    match v with
    | .dict entries => propertyViolations (textEntries entries) schemas
    | _ => []
  | .otherProperties names schema =>
    match v with
    | .dict entries => ((textEntries entries).filter fun (n, _) => !names.contains n).flatMap
      fun (n, w) => (violations (asksFor schema w) w schema).map (Violation.under (.key n))
    | _ => []
  | .propertyNames schema =>
    match v with
    -- The name is no part of the document, so the violation stands where the mapping does.
    | .dict entries => (textEntries entries).flatMap fun (n, _) =>
      violations (asksFor schema (.string n)) (.string n) schema
    | _ => []
  | .items schema =>
    match v with
    | .list items => items.zipIdx.flatMap fun (w, i) =>
      (violations (asksFor schema w) w schema).map (Violation.under (.index i))
    | _ => []
  | .form source holds =>
    match v with
    | .string s =>
      report rightKind (holds s.toList) (s!"{v.quoted} does not match " ++ Text.quoteString source)
    | _ => []
  | .nonEmptyText =>
    match v with
    | .string s => report rightKind (!s.isEmpty) s!"{v.quoted} should be non-empty"
    | _ => []
  | .nonEmptyList =>
    match v with
    | .list items => report rightKind (!items.isEmpty) s!"{v.quoted} should be non-empty"
    | _ => []
  | .oneOf words =>
    report rightKind (words.any fun w => v.text? == some w) (wordsText v words)

/-- The violations of demands on properties. -/
def propertyViolations (entries : List (String × Value)) : List (String × List Demand) → List Violation
  | [] => []
  | (name, schema) :: rest =>
    -- A property that is not there violates nothing here; `required` is a demand of its own.
    let here := match entries.lookup name with
      | some w => (violations (asksFor schema w) w schema).map (Violation.under (.key name))
      | none => []
    here ++ propertyViolations entries rest

end

theorem violationsOf_kinds (rightKind : Bool) (v : Value) (ks : List Kind) :
    violationsOf rightKind v (.kinds ks) = report rightKind (ks.any fun k => k.holds v) (kindsText v ks) := by
  rw [violationsOf]

/-- The best violation of a schema by a document, if it does not meet it. -/
def check? (s : Schema) (v : Value) : Option Violation :=
  best? (violations (asksFor s v) v s)

/-- A character of an import path. -/
def isPathChar (c : Char) : Bool :=
  Text.isAlnum c || c == '_' || c == '.'

/-- Two dotted names with a colon between them; a line may end behind them. -/
def isImportPath (s : List Char) : Bool :=
  let holds (s : List Char) : Bool :=
    match Text.splitAll [':'] s with
    | [a, b] => !a.isEmpty && !b.isEmpty && a.all isPathChar && b.all isPathChar
    | _ => false
  holds s || s.getLast? == some '\n' && holds s.dropLast

/-- The demand of an import path. -/
def importPath : Demand :=
  .form "^[\\w.]+:[\\w.]+$" isImportPath

end Schema

end FieldRules
