import FieldRules.Setup.Loader
import FieldRules.Setup.Settings
import FieldRules.Validation.Objects

/-!
# Services

A service ties everything together: it is set up with bundles of messages, handlers and rule tables, takes
more of them later, and validates objects, values and parameters.
-/

namespace FieldRules

/-- A service: what can be found by import paths and what has been, what validations go by, and what is
kept between them. -/
structure Service where
  known : Known := {}
  found : List (String × Class) := []
  validator : Validator := {}
  session : Session := {}
  deriving Inhabited

namespace Service

/-- A computation of a service. -/
abbrev Run := Cache.Run Service Error

variable {α : Type}

/-! ## Parts of a service -/

/-- Computes in the session of a service. -/
def onSession (m : Validator → Session.Run α) : Run α := fun s =>
  let (r, session) := m s.validator s.session
  (r, { s with session })

/-- What a service loads into. -/
def loader (s : Service) : Loader where
  table := s.validator.sources.table
  handlers? := some s.validator.registry
  found := s.found
  store := s.session.library.store
  warnings := s.session.warnings

/-- A service after something was loaded. -/
def afterLoading (s : Service) (l : Loader) : Service :=
  { s with
    found := l.found
    validator := { s.validator with
      sources := { s.validator.sources with table := l.table }
      registry := l.handlers?.getD s.validator.registry }
    session := { s.session with
      library := { s.session.library with store := l.store }
      warnings := l.warnings } }

/-- Loads into a service. -/
def onLoader (m : Known → Loader.Run α) : Run α := fun s =>
  let (r, l) := m s.known s.loader
  (r, s.afterLoading l)

/-! ## Setting up -/

/-- Adds a bundle of messages. -/
def addBundle (base : String) (preload : List String) : Run Unit :=
  onSession fun _ => Session.onLibrary (Library.addBundle base preload)

/-- Registers a handler. -/
def registerHandler (h : Handler) : Run Unit := do
  let registry := (← get).validator.registry
  onLoader fun _ => Loader.register registry h

/-- Registers the handler that the class with an import path makes. -/
def addHandlerAt (path : String) : Run Handler := do
  let h ← onLoader fun k => Loader.resolveHandler k path
  registerHandler h
  return h

/-- Registers the handler that a class makes. -/
def addHandlerOf (c : Class) : Run Handler := do
  match Loader.handlerOf? (← get).known.handlers c with
  | some h =>
    registerHandler h
    return h
  | none => throw (.setup (.notHandlerClass c.simpleName))

/-- Refuses to register a value, which is no handler. -/
def refuseHandler (v : Value) : Run α :=
  throw (.setup (.notHandler v.quoted))

/-- Registers what a value stands for: a text is an import path, a class makes a handler. -/
def addHandler (v : Value) : Run Handler :=
  match v with
  | .string path | .markup path => addHandlerAt path
  | .classRef c => addHandlerOf c
  | v => refuseHandler v

/-- Loads a rule table from a path or URI. -/
def loadTable (uri : String) : Run (List Class) := do
  let f := (← get).session.library.fetcher
  onLoader fun k => Loader.load k f uri

/-- Loads a rule table from a document. -/
def loadData (source : String) (v : Value) : Run (List Class) :=
  onLoader fun k => Loader.loadData k source v

/-- The class that an import path names. -/
def resolveClass (path : String) : Run Class :=
  onLoader fun k => Loader.resolveClass k path

/-- Adds entries for the fields of a type to the rule table. -/
def register (c : Class) (rules : List FieldRule) : Run Unit :=
  onLoader fun _ => Loader.addFields c.name rules

/-- A service before anything is loaded. -/
def ofSettings (known : Known) (store : Store) (s : Settings) : Service where
  known := known
  validator := {
    sources := { strict := s.strict, declarations := known.declarations }
    leniency := { strict := s.strictDispatch, warns := s.warns }
    stopsAtFirst := s.stopsAtFirst
  }
  session := {
    library := {
      store := store
      fetcher := Settings.fetcherFor store s.cache? s.base?
      keyPrefix := s.keyPrefix
      defaultLocale? := s.defaultLocale?
    }
  }

/-- Loads what settings name: the bundles, then the handlers, then the rule tables. -/
def setUp (s : Settings) : Run Unit := do
  s.bundles.forM fun b => addBundle b.base b.preload
  s.handlers.forM fun path => discard (addHandlerAt path)
  s.tables.forM fun uri => discard (loadTable uri)

/-- A service with settings. -/
def start (known : Known) (store : Store) (s : Settings) : Except Error Unit × Service :=
  setUp s (ofSettings known store s)

/-! ## Compiling -/

/-- The fragments of a rule text. -/
def compile (rules? : Option String) : Run (List Fragment) :=
  onSession fun V => Session.onPlans (Plans.compileTemplate V.sources.strict rules?)

/-- The plan of a class. -/
def compileType (c : Class) : Run Plan :=
  onSession fun V => V.planOf c

/-- Whether two rule texts share what they are compiled to, which is so if they are the same once
cleaned or if neither has a fragment. -/
def sharePlan (a? b? : Option String) : Run Bool := do
  let a ← compile a?
  let b ← compile b?
  let x ← (Rule.clean a? : Except Error String)
  let y ← (Rule.clean b? : Except Error String)
  return x == y || a.isEmpty && b.isEmpty

/-- How many rule texts, members and types are kept. -/
def cacheSizes (s : Service) : List Nat :=
  [s.session.plans.templates.size, s.session.plans.members.size, s.session.plans.types.size]

/-- Whether the plan of a class is kept. -/
def keepsType (s : Service) (c : Class) : Bool :=
  s.session.plans.types.contains c

/-- Forgets all that has been compiled. -/
def forgetPlans : Run Unit :=
  modify fun s =>
    let plans := s.session.plans
    { s with session := { s.session with plans := { plans with
        templates := plans.templates.clear
        members := plans.members.clear
        types := plans.types.clear } } }

/-! ## Validating -/

/-- Validates an object. -/
def validate (q : Request) (v : Value) : Run Result :=
  onSession fun V => V.validate q v

/-- Validates a value against a rule text. -/
def validateValue (q : Request) (rules? label? : Option String) (v : Value) : Run Result :=
  onSession fun V => V.validateValue q rules? label? v

/-- Validates a value against the tags of a parameter. -/
def validateParameter (q : Request) (f : FunctionDeclaration) (name : String) (v : Value) :
    Run Result :=
  onSession fun V => V.validateParameter q f name v

/-- Sets a field of an object through the element with its name, and reads it again. -/
def setField (v : Value) (field : String) (w : Value) : Run (Option (Value × Value)) := do
  match (← compileType v.kind).find? fun e => e.name == field with
  | none => return none
  | some e =>
    let changed ← (e.set v w : Except Error Value)
    return some (changed, e.get changed)

/-! ## Messages -/

/-- The text that a text stands for. -/
def resolveText (text : String) (locale? : Option String) : Run String :=
  onSession fun _ => Session.resolveText text locale?

/-- The text for a key, or what is given instead if there is none. -/
def resolveKey (key : String) (locale? default? : Option String) : Run (Option String) :=
  onSession fun _ => Session.onLibrary (Library.resolveOr key locale? default?)

end Service

end FieldRules
