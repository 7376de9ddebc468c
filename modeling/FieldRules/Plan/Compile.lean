import FieldRules.Cache
import FieldRules.Plan.Element
import FieldRules.Plan.Member
import FieldRules.Rule.Scanner
import FieldRules.Warning

/-!
# Compiling plans

Rule texts are compiled into fragments, the tags of a member into fragments, and a type into its plan.
Each of the three has a cache, and so have the argument lists in rule texts. The plans of nested types
are compiled once the plan they are nested in is kept, so that types may refer to each other.
-/

namespace FieldRules

/-- What has been compiled, and the warnings on the way. -/
structure Plans where
  arguments : Cache String Expr := {}
  templates : Cache String (List Fragment) := {}
  members : Cache MemberKey (List Fragment) := {}
  types : Cache Class Plan := {}
  warnings : List Warning := []
  deriving Inhabited

/-- What plans are compiled from. -/
structure Sources where
  strict : Bool := true
  declarations : Declarations := {}
  table : RuleTable := []
  deriving Inhabited

namespace Plans

/-- A computation that compiles. -/
abbrev Run := Cache.Run Plans Error

/-- The cache of argument lists. -/
def argumentSlot : Cache.Slot Plans String Expr where
  get := arguments
  set c p := { p with arguments := c }

/-- The cache of rule texts. -/
def templateSlot : Cache.Slot Plans String (List Fragment) where
  get := templates
  set c p := { p with templates := c }

/-- The cache of members. -/
def memberSlot : Cache.Slot Plans MemberKey (List Fragment) where
  get := members
  set c p := { p with members := c }

/-- The cache of types. -/
def typeSlot : Cache.Slot Plans Class Plan where
  get := types
  set c p := { p with types := c }

/-- Takes down a warning. -/
def warn (w : Warning) : Run Unit :=
  modify fun p => { p with warnings := p.warnings ++ [w] }

/-- The expression of an argument list. Patterns in it go by names that other lists use as well, so what
is kept holds for these too. -/
def compileList (text : String) : Run Expr :=
  Cache.getOrCompute argumentSlot
    (.setup (.recursive (Text.quoteString text) "argument-expressions")) text
    (liftM (compileArguments text))

/-- The fragments of a rule text. Texts that are the same once cleaned share one entry. -/
def compileTemplate (strict : Bool) (text? : Option String) : Run (List Fragment) := do
  let key ← Rule.clean text?
  Cache.getOrCompute templateSlot (.setup (.recursive (Text.quoteString key) "template-cache")) key
    (Rule.parseBy compileList strict (some key))

/-- The fragments that tags stand for: those of the rules, else those of the constraints. -/
def tagFragments (strict : Bool) (tags : List Tag) : Run (List Fragment) :=
  match Tag.rules? tags with
  | some text => compileTemplate strict (some text)
  | none => pure (Tag.constraints tags)

/-- The fragments of a member. -/
def compileMember (strict : Bool) (m : Member) : Run (List Fragment) :=
  Cache.getOrCompute memberSlot (.setup (.recursive m.key.qualified "member-cache")) m.key
    (tagFragments strict m.tags)

/-- The label of a field: its name if it has no tag for it, and the key of a message if the tag is
empty. -/
def labelOf (m : Member) : String :=
  match Tag.label? m.tags with
  | none => m.name
  | some "" => "\x7b" ++ m.key.qualified ++ "\x7d"
  | some label => label

/-- The element of a field, unless nothing is asked of it. -/
def elementOf (m : Member) (nested : Bool) (fragments : List Fragment) : Option Element :=
  if !nested && fragments.isEmpty then none
  else some {
    owner := m.owner
    kind := m.kind
    name := m.name
    getter := m.getter
    setter? := some m.setter
    nested := nested
    fragments? := some fragments
    label? := some (labelOf m)
    gate? := Tag.gate? m.tags
  }

/-- Compiles a field of a class. A type that is no composite cannot be nested. -/
def compileField (strict : Bool) (c : Class) (m : Member) : Run (Option Element) := do
  let fragments ← compileMember strict m
  let nested := Tag.isNested m.tags
  if nested && m.kind.isPlain then
    warn (.notNested c.simpleName m.name m.kind.simpleName)
  return elementOf m (nested && !m.kind.isPlain) fragments

/-- The fields of a gate that have gates themselves. -/
def gatedFields (plan : Plan) (e : Element) : List String :=
  ((e.gate?.map Gate.fields).getD []).filter fun name =>
    plan.any fun other => other.name == name && !other.isUnconditional

/-- Refuses a plan in which a gate names a field with a gate. -/
def checkGates (c : Class) (plan : Plan) : Except SetupError Unit :=
  plan.forM fun e =>
    match gatedFields plan e with
    | [] => pure ()
    | gated => throw (.nestedConditions e.name c.simpleName gated)

/-- Compiles the plan of a class, without those of nested types. -/
def compilePlan (s : Sources) (c : Class) : Run Plan := do
  let members ← liftSetup (Member.fields s.declarations s.table c)
  let elements ← members.mapM (compileField s.strict c)
  let plan := elements.filterMap id
  liftSetup (checkGates c plan)
  return plan
where
  /-- What does not fit together, as an error. -/
  liftSetup {α : Type} (r : Except SetupError α) : Run α := liftM (r.mapError Error.setup)

/-- The plan of a class from the cache, compiled if it is not there. -/
def planOf (s : Sources) (c : Class) : Run Plan :=
  Cache.getOrCompute typeSlot (.setup (.recursive (Value.writeClass c) "type-cache")) c
    (compilePlan s c)

/-- Compiles a class and the types nested in it. Each nested type that is compiled on the way is another
one, so the number of declared fields bounds the depth. -/
def compileTypeWithin (s : Sources) : Nat → Class → Run Plan
  | 0, c => planOf s c
  | depth + 1, c => do
    let plan ← planOf s c
    -- The plan is kept by now, so types may lead back to each other: what is kept is not entered.
    plan.forM fun e => do
      if e.nested && !(← get).types.contains e.kind then
        discard (compileTypeWithin s depth e.kind)
    return plan

/-- How many fields are declared. -/
def fieldCount (s : Sources) : Nat :=
  (s.declarations.classes.flatMap ClassDeclaration.annotations).length
    + (s.table.flatMap Prod.snd).length

/-- Compiles a class and the types nested in it. -/
def compileType (s : Sources) (c : Class) : Run Plan :=
  compileTypeWithin s (fieldCount s) c

end Plans

end FieldRules
