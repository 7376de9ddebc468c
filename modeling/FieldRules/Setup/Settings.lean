import FieldRules.Message.Texts
import FieldRules.Setup.TableDocument

/-!
# Settings

What a service is set up with. Settings are read from a document that is laid over one with the defaults:
mappings are merged, anything else is replaced as a whole.
-/

namespace FieldRules

/-- A bundle of messages, and the locales whose catalogs are read at once. -/
structure BundleSetting where
  base : String
  preload : List String := []
  deriving DecidableEq, Repr, Inhabited

/-- What a service is set up with. -/
structure Settings where
  strict : Bool := true
  stopsAtFirst : Bool := false
  strictDispatch : Bool := false
  defaultLocale? : Option String := none
  warns : Bool := true
  keyPrefix : String := Texts.keyPrefix
  bundles : List BundleSetting := []
  handlers : List String := []
  tables : List String := []
  cache? : Option String := none
  base? : Option Path := none
  deriving DecidableEq, Repr, Inhabited

namespace Settings

open Document

/-! ## Documents -/

/-- The document with the defaults. -/
def defaults : Value :=
  .dict [
    (.string "parser", .dict [(.string "strict_mode", .bool true)]),
    (.string "validation", .dict [
      (.string "single_failure_mode", .bool false),
      (.string "strict_dispatch", .bool false)]),
    (.string "messages", .dict [
      (.string "default_locale", .none),
      (.string "warning_log", .bool true),
      (.string "key_prefix", .string Texts.keyPrefix),
      (.string "bundles", .list [])]),
    (.string "handlers", .list []),
    (.string "rule_tables", .list []),
    (.string "cache_dir", .none)]

mutual

/-- Lays a value over another one: mappings are merged, anything else replaces what was there. -/
def overlay (base : Value) : Value → Value
  | .dict upper =>
    match base with
    | .dict entries => .dict (overlayEntries entries upper)
    | _ => .dict upper
  | v => v

/-- Lays entries over others, one after the other. A new key comes last. -/
def overlayEntries (entries : List (Value × Value)) : List (Value × Value) → List (Value × Value)
  | [] => entries
  | (k, v) :: rest =>
    -- A mapping that is laid over anything else is taken as it is.
    let here := (Value.lookup? k entries).getD .none
    overlayEntries (Value.insertEntry k (overlay here v) entries) rest

end

/-- The schema of the setting for a bundle. -/
def bundleSchema : Schema :=
  [.kinds [.object], .closed ["base_name", "preload"], .required ["base_name"],
    .properties [
      ("base_name", [.kinds [.string], .nonEmptyText]),
      ("preload", [.kinds [.array], .items [.kinds [.string]]])]]

/-- The schema of a group of settings, each with a schema of its own. -/
def groupSchema (schemas : List (String × Schema)) : Schema :=
  [.kinds [.object], .closed (schemas.map Prod.fst), .properties schemas]

/-- The schema of a document with settings. -/
def schema : Schema :=
  groupSchema [
    ("parser", groupSchema [("strict_mode", [.kinds [.boolean]])]),
    ("validation", groupSchema [
      ("single_failure_mode", [.kinds [.boolean]]),
      ("strict_dispatch", [.kinds [.boolean]])]),
    ("messages", groupSchema [
      ("default_locale", [.kinds [.string, .null]]),
      ("warning_log", [.kinds [.boolean]]),
      ("key_prefix", [.kinds [.string], .nonEmptyText]),
      ("bundles", [.kinds [.array], .items bundleSchema])]),
    ("handlers", [.kinds [.array], .items [.kinds [.string], Schema.importPath]]),
    ("rule_tables", [.kinds [.array], .items [.kinds [.string]]]),
    ("cache_dir", [.kinds [.string, .null]])]

/-- Reads the setting for a bundle. -/
def readBundle (v : Value) : BundleSetting where
  base := (textAt? v "base_name").getD ""
  preload := textsAt v "preload"

/-- Reads a document that meets the schema. -/
def ofValid (base? : Option Path) (v : Value) : Settings :=
  let group (key : String) : Value := (at? v key).getD .none
  {
    strict := flagAt (group "parser") "strict_mode" true
    stopsAtFirst := flagAt (group "validation") "single_failure_mode" false
    strictDispatch := flagAt (group "validation") "strict_dispatch" false
    defaultLocale? := textAt? (group "messages") "default_locale"
    warns := flagAt (group "messages") "warning_log" true
    keyPrefix := (textAt? (group "messages") "key_prefix").getD Texts.keyPrefix
    bundles := (itemsAt (group "messages") "bundles").map readBundle
    handlers := textsAt v "handlers"
    tables := textsAt v "rule_tables"
    cache? := textAt? v "cache_dir"
    base? := base?
  }

/-! ## Loading -/

/-- Settings with the documents that they come from: the one with the defaults, the one that was laid over it, and
what came of that. -/
structure Loaded where
  settings : Settings
  bundled : Value
  override : Value
  merged : Value
  deriving Inhabited

/-- The directory that relative paths in a document start from: the one that the document lies in, if
it is a file, else where the program runs. -/
def baseOf (place : Path) (uri : String) : Except Error Path := do
  match Uri.split uri.toList with
  | .error p => throw (.uri p)
  | .ok u =>
    if uri.isEmpty then return place
    else if u.scheme.length ≤ 1 then return (Path.resolve place (Path.ofString uri)).parent
    else if String.ofList u.scheme == "file" then
      return (Path.ofString (String.ofList (Uri.unescape u.path))).parent
    else return place

/-- Where the resources of a service are looked for: relative paths in the directory of its settings,
texts from the network where they have been kept. -/
def fetcherFor (s : Store) (cache? : Option String) (base? : Option Path) : Fetcher where
  base := base?.getD s.place
  cache := match cache? with
    | none => s.keep
    | some "" => s.keep
    | some dir => Path.ofString dir

/-- Fetches the document that is laid over the defaults, which must be a mapping. -/
def fetchOverride (uri : String) : Store.Run Value := do
  let s ← get
  let f := fetcherFor s none (some s.place)
  match ← Store.fetchDocument f uri fun _ => .setup (.unreadableConfig uri) with
  | none => throw (.setup (.missingConfig uri))
  | some .none => throw (.setup (.missingConfig uri))
  | some (.dict entries) => return .dict entries
  | some _ => throw (.setup (.configNotMapping uri))

/-- Settings from the defaults with a document laid over them. -/
def ofOverride (base : Path) (override : Value) : Except SetupError Loaded :=
  let merged := overlay defaults override
  match schema.check? merged with
  | some violation => throw (.invalidConfig violation.place violation.message)
  | none => pure { settings := ofValid (some base) merged, bundled := defaults, override, merged }

/-- Loads the settings that a path or URI leads to; an empty one leads to the defaults. -/
def load (uri : String) : Store.Run Loaded := do
  let base ← (baseOf (← get).place uri : Except Error Path)
  let override ← if uri.isEmpty then pure (.dict []) else fetchOverride uri
  ((ofOverride base override).mapError Error.setup : Except Error Loaded)

end Settings

end FieldRules
