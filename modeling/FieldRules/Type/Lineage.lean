import FieldRules.Value.Class

/-!
# Lineages

The lineage of a class that is derived from several others: every class stands before those that it is
derived from, and the classes derived from are taken in the order in which they are named.
-/

namespace FieldRules.Class

/-- The first head of a row that stands in no tail. -/
def nextHead? (rows : List (List TypeName)) : Option TypeName :=
  (rows.filterMap List.head?).find? fun h => rows.all fun row => !row.tail.contains h

/-- Merges rows of classes into one that keeps the order of each; nothing if there is none. Every step
takes a class, so their number is fuel enough. -/
def merge : Nat → List (List TypeName) → Option (List TypeName)
  | 0, rows => if rows.all List.isEmpty then some [] else none
  | fuel + 1, rows =>
    let rows := rows.filter fun row => !row.isEmpty
    if rows.isEmpty then some []
    else do
      let h ← nextHead? rows
      let rest ← merge fuel (rows.map fun row => if row.head? == some h then row.tail else row)
      return h :: rest

/-- A class with the given name that is derived from others. -/
def derive? (name : TypeName) (bases : List Class) : Option Class := do
  let rows := bases.map lineage ++ [(bases.filter fun b => b.name != object.name).map Class.name]
  let ancestors ← merge (rows.flatten.length) rows
  return { name, ancestors }

end FieldRules.Class
