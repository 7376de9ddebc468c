import FieldRules.Handler.Registry
import FieldRules.Setup.TableDocument
import FieldRules.Type.Lookup

/-!
# Loading

Classes and handlers are found by their import paths, and rule tables are loaded from documents into the
table and the registry, entry by entry: what has been loaded before something fails stays.
-/

namespace FieldRules

/-- The table and the registry that are loaded into, the classes that have been found by their import
paths, the resources, and the warnings that were given. -/
structure Loader where
  table : RuleTable := []
  handlers? : Option Registry := none
  found : List (String × Class) := []
  store : Store := {}
  warnings : List Warning := []
  deriving Inhabited

/-- What can be found by import paths: classes, and the handlers that some of them make. -/
structure Known where
  declarations : Declarations := {}
  handlers : List Handler := []
  deriving Inhabited

namespace Loader

/-- A computation that loads. -/
abbrev Run := Cache.Run Loader Error

variable {α : Type}

/-- Reads resources. -/
def onStore (m : Store.Run α) : Run α := fun l =>
  let (r, store) := m l.store
  (r, { l with store })

/-- The class that an import path names, which is kept. -/
def resolveClass (k : Known) (path : String) : Run Class := do
  match (← get).found.lookup path with
  | some c => return c
  | none =>
    let c ← (k.declarations.classAt path : Except Error Class)
    modify fun l => { l with found := l.found ++ [(path, c)] }
    return c

/-- Adds entries for the fields of a type. -/
def addFields (type : TypeName) (rules : List FieldRule) : Run Unit :=
  modify fun l => { l with table := rules.foldl (fun t r => t.add type r) l.table }

/-- Loads the entries for a type. -/
def loadType (k : Known) (path : String) (rules : List FieldRule) : Run Class := do
  let c ← resolveClass k path
  addFields c.name rules
  return c

/-- The handler that a class makes. -/
def handlerOf? (handlers : List Handler) (c : Class) : Option Handler :=
  handlers.find? fun h => h.handlerClass.name == c.name

/-- The handler that the class with an import path makes. -/
def resolveHandler (k : Known) (path : String) : Run Handler := do
  match handlerOf? k.handlers (← resolveClass k path) with
  | some h => return h
  | none => throw (.setup (.notHandlerPath path))

/-- Registers a handler, with warnings for the names that it takes from another one. -/
def register (r : Registry) (h : Handler) : Run Unit := do
  match r.register h with
  | .ok (r, ws) => modify fun l => { l with handlers? := some r, warnings := l.warnings ++ ws }
  | .error e => throw (.setup e)

/-- Loads a handler that a document lists. -/
def loadHandler (k : Known) (source path : String) : Run Unit := do
  let h ← resolveHandler k path
  match (← get).handlers? with
  | none => throw (.setup (.tableWithoutRegistry source))
  | some r => register r h

/-- Loads a document, and says which types it has entries for. -/
def loadData (k : Known) (source : String) (v : Value) :
    Run (List Class) := do
  let doc ← ((TableDocument.ofValue source v).mapError Error.setup : Except Error TableDocument)
  -- Nothing is taken back where an entry or a handler fails.
  let classes ← doc.types.mapM fun (path, rules) => loadType k path rules
  doc.handlers.forM (loadHandler k source)
  return classes

/-- Loads the document that a path or URI leads to. -/
def load (k : Known) (f : Fetcher) (uri : String) :
    Run (List Class) := do
  loadData k uri (← onStore (TableDocument.fetch f uri))

end Loader

end FieldRules
