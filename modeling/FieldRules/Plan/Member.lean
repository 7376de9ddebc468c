import FieldRules.Plan.Table
import FieldRules.Type.Declaration

/-!
# Members

The members of a type are its annotated fields and those that a rule table names, the fields of general
classes before those of special ones. A field stands where it is met first and is what the last
declaration makes of it: special classes win over general ones, and the table over annotations.
-/

namespace FieldRules

/-- What tells members apart: the class that declares a field, or the function of a parameter, and the
name. -/
inductive MemberKey where
  | field (owner : TypeName) (name : String)
  | parameter (function name : String)
  deriving DecidableEq, Repr, Inhabited

/-- A field or a parameter with its tags. -/
structure Member where
  key : MemberKey
  owner : Class
  name : String
  kind : Class
  getter : String
  setter : String
  tags : List Tag
  deriving Inhabited

/-- The name of a member with what it belongs to. -/
def MemberKey.qualified : MemberKey → String
  | field owner name => owner.qualified ++ "." ++ name
  | parameter function name => function ++ "." ++ name

namespace Member

/-- Puts a member among others: in the place of the one with its name, else at the end. -/
def put (m : Member) : List Member → List Member
  | [] => [m]
  | n :: rest => if n.name == m.name then m :: rest else n :: put m rest

/-- A class of a lineage by its name. -/
def classAt (d : Declarations) (c : Class) (name : TypeName) : Class :=
  if c.name == name then c else ((d.find? name).map ClassDeclaration.declared).getD ⟨name, []⟩

/-- The field that an annotation declares. -/
def ofHint (owner : Class) (name : String) (h : Hint) : Member where
  key := .field owner.name name
  owner := owner
  name := name
  kind := h.unwrap
  getter := name
  setter := name
  tags := h.tags

/-- The field that an entry of a rule table declares. Without a hint it keeps its type. -/
def ofRule (owner : Class) (r : FieldRule) (known : List Member) : Member where
  key := .field owner.name r.name
  owner := owner
  name := r.name
  kind := match r.hint? with
    | some h => h.unwrap
    | none => ((known.find? fun m => m.name == r.name).map Member.kind).getD .object
  getter := r.getter?.getD r.name
  setter := r.setter?.getD r.name
  tags := r.tags

/-- Resolves the annotations of a class. All annotations in its lineage must be resolvable, general
classes first. -/
def resolveAnnotations (d : Declarations) (c : Class) : Except Fault (List (String × Hint)) := do
  let resolveOwn (name : TypeName) : Except Fault (List (String × Hint)) :=
    (d.annotations name).mapM fun (field, h) => do
      return (field, ← h.resolve (d.classNamed? name.home))
  -- Nothing is made of the hints of general classes here, but a fault in them comes first.
  (c.ancestors.reverse).forM fun name => do discard (resolveOwn name)
  resolveOwn c.name

/-- The annotated fields of a class, if it has any. -/
def ownHints (d : Declarations) (c : Class) : Except SetupError (List (String × Hint)) :=
  if (d.annotations c.name).isEmpty then pure []
  else match resolveAnnotations d c with
    | .ok hints => pure (hints.filter fun (_, h) => !h.isClassVar)
    | .error f => throw (.unresolvable c.simpleName f.message)

/-- Adds the fields that a class declares to those of more general classes. -/
def addClass (d : Declarations) (table : RuleTable) (known : List Member) (c : Class) :
    Except SetupError (List Member) := do
  let hints ← ownHints d c
  let known := hints.foldl (fun known (name, h) => put (ofHint c name h) known) known
  return (table.fields c.name).foldl (fun known r => put (ofRule c r known) known) known

/-- The fields of a class. -/
def fields (d : Declarations) (table : RuleTable) (c : Class) : Except SetupError (List Member) :=
  (c.lineage.reverse.map (classAt d c)).foldlM (addClass d table) []

/-- The parameter of a function. -/
def parameter (d : Declarations) (f : FunctionDeclaration) (name : String) :
    Except SetupError Member := do
  if (f.parameters.lookup name).isNone then throw (.noParameter f.name name)
  let find := d.classNamed? f.home
  -- The hints of all parameters have to be resolvable, whichever is asked for.
  let hints ← match f.parameters.mapM fun (p, h?) => do
      return (p, ← h?.mapM (Hint.resolve find)) with
    | .ok hints => pure hints
    | .error (e : Fault) => throw (.unresolvable f.name e.message)
  let h := ((hints.lookup name).join).getD (.classRef .object)
  return {
    key := .parameter (f.home ++ "." ++ f.name) name
    owner := .object
    name := name
    kind := h.unwrap
    getter := name
    setter := name
    tags := h.tags
  }

end Member

end FieldRules
