import FieldRules.Rule.Tag
import FieldRules.Value.Class

/-!
# Type hints

What is written for the type of a field: a class, the name of a class that is looked up later, or a form
built from such. Every hint stands for one class: a choice between one type and nothing for that type, a
form with parameters for its base, and what stands for no single class for the class of everything.
-/

namespace FieldRules

/-- A type hint. -/
inductive Hint where
  | classRef (c : Class)
  | reference (name : String)
  | union (members : List Hint)
  | list (item : Hint)
  | dict (key item : Hint)
  | sequence (item : Hint)
  | callable (result : Hint)
  | literal (words : List String)
  | annotated (h : Hint) (tags : List Tag)
  | typeVar
  | classVar (h : Hint)
  deriving Inhabited

namespace Hint

/-- A type or nothing. -/
def optional (h : Hint) : Hint :=
  union [h, classRef .noneType]

mutual

/-- Puts classes in the place of their names. -/
def resolve (find : String → Option Class) : Hint → Except Fault Hint
  | classRef c => pure (classRef c)
  | reference name =>
    match find name with
    | some c => pure (classRef c)
    | none => throw (.unbound name)
  | union members => do return union (← resolveAll find members)
  | list item => do return list (← resolve find item)
  | dict key item => do return dict (← resolve find key) (← resolve find item)
  | sequence item => do return sequence (← resolve find item)
  | callable result => do return callable (← resolve find result)
  | literal words => pure (literal words)
  | annotated h tags => do return annotated (← resolve find h) tags
  | typeVar => pure typeVar
  | classVar h => do return classVar (← resolve find h)

/-- Puts classes in the place of their names in several hints. -/
def resolveAll (find : String → Option Class) : List Hint → Except Fault (List Hint)
  | [] => pure []
  | h :: rest => do return (← resolve find h) :: (← resolveAll find rest)

end

mutual

/-- Whether two hints are the same. -/
def same : Hint → Hint → Bool
  | classRef a, .classRef b => a.name == b.name
  | reference a, .reference b => a == b
  | union a, .union b => sameAll a b
  | list a, .list b => same a b
  | dict a b, .dict c d => same a c && same b d
  | sequence a, .sequence b => same a b
  | callable a, .callable b => same a b
  | literal a, .literal b => a == b
  | annotated a s, .annotated b t => same a b && s.length == t.length
  | classVar a, .classVar b => same a b
  | _, _ => false

/-- Whether two lists have the same hints. -/
def sameAll : List Hint → List Hint → Bool
  | [], [] => true
  | a :: as, b :: bs => same a b && sameAll as bs
  | _, _ => false

end

/-- The class of several alternatives: that of the only one that is not the class of nothing. -/
def collapse (alternatives : List (Hint × Class)) : Class :=
  match alternatives.filter fun (h, _) => !same h (classRef .noneType) with
  | [] => .noneType
  -- An alternative that is written twice is one alternative.
  | (h, c) :: rest => if rest.all fun (h', _) => same h h' then c else .object

mutual

/-- The alternatives of a hint, each with the class that it stands for. -/
def alternatives : Hint → List (Hint × Class)
  | union members => alternativesOf members
  | classRef c => [(classRef c, c)]
  | reference name => [(reference name, .object)]
  | list item => [(list item, .list)]
  | dict key item => [(dict key item, .dict)]
  | sequence item => [(sequence item, .sequence)]
  | callable result => [(callable result, .callable)]
  | literal words => [(literal words, .object)]
  | annotated h tags => [(annotated h tags, collapse (alternatives h))]
  | typeVar => [(typeVar, .object)]
  | classVar h => [(classVar h, .object)]

/-- The alternatives of several hints. -/
def alternativesOf : List Hint → List (Hint × Class)
  | [] => []
  | h :: rest => alternatives h ++ alternativesOf rest

end

/-- The class that a hint stands for. -/
def unwrap (h : Hint) : Class :=
  collapse (alternatives h)

/-- The tags of a hint. -/
def tags : Hint → List Tag
  | annotated h ts => h.tags ++ ts
  | _ => []

/-- Whether the hint is that of an attribute of the class itself. -/
def isClassVar : Hint → Bool
  | classVar _ => true
  | _ => false

end Hint

namespace Class

/-- The modules whose classes are no composite types. -/
def plainHomes : List String :=
  ["builtins", "typing", "collections", "re", "abc", "enum", "numbers", "types", "functools"]

/-- Whether the values of the class cannot be validated field by field. -/
def isPlain (c : Class) : Bool :=
  plainHomes.contains (String.ofList (c.name.home.toList.takeWhile (· != '.')))

end Class

end FieldRules
