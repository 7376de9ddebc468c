import FieldRules.Value.Render

/-!
# Catalogs

A catalog gives texts to dotted names. It is written as a mapping whose values are texts or further
mappings: a name is the path to a text. Of two texts under one name the later one counts, and a missing
text is no text.
-/

namespace FieldRules

/-- Texts under their names, in the order of the first text under each name. -/
abbrev Catalog := List (String × String)

namespace Catalog

/-- Puts a text under a name. -/
def insert (name text : String) : Catalog → Catalog
  | [] => [(name, text)]
  | (n, t) :: rest => if n == name then (n, text) :: rest else (n, t) :: insert name text rest

/-- The text under a name. -/
def get? (c : Catalog) (name : String) : Option String :=
  c.lookup name

/-- The name of what stands under a key at a path. -/
def extend (path key : String) : String :=
  if path.isEmpty then key else path ++ "." ++ key

mutual

/-- The texts of a mapping in the order of the document, each with its path. -/
def leaves (path : String) : Value → Except Fault (List (String × String))
  | .dict entries => leavesOfEntries path entries
  | .obj c shared own =>
    if Value.isDictionaryClass c then leavesOfFields path own
    else do return [(path, ← (Value.obj c shared own).text)]
  | .none => pure []
  | v => do return [(path, ← v.text)]

/-- The texts of entries in the order of the document, each with its path. -/
def leavesOfEntries (path : String) : List (Value × Value) → Except Fault (List (String × String))
  | [] => pure []
  | (k, v) :: rest => do
    let here ← leaves (extend path (← k.text)) v
    return here ++ (← leavesOfEntries path rest)

/-- The texts of fields in their order, each with its path. -/
def leavesOfFields (path : String) : List (String × Value) → Except Fault (List (String × String))
  | [] => pure []
  | (k, v) :: rest => do
    let here ← leaves (extend path k) v
    return here ++ (← leavesOfFields path rest)

end

/-- The catalog of texts that may repeat names. -/
def ofLeaves (texts : List (String × String)) : Catalog :=
  texts.foldl (fun c (name, text) => c.insert name text) []

/-- The catalog of a document; one that is no mapping has no texts. -/
def flatten (path : String) (v : Value) : Except Fault Catalog :=
  match v.entries? with
  | some entries => do return ofLeaves (← leavesOfEntries path entries)
  | none => pure []

end Catalog

end FieldRules
