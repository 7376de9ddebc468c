import FieldRules.Message.Locale
import FieldRules.Message.Texts
import FieldRules.Resource.Store

/-!
# Bundles

A bundle is a family of catalogs, one without a locale and one for each tag. Its catalogs are read when
they are first asked for and then kept, also the knowledge that there is none.
-/

namespace FieldRules

/-- A bundle: the path of its files without their endings, or nothing for the texts that are always
there, and the catalogs that have been asked for. -/
structure Bundle where
  base? : Option String := none
  catalogs : List (Option String × Option Catalog) := []
  deriving Inhabited

namespace Bundle

/-- A computation that reads the catalogs of a bundle. -/
abbrev Run := Cache.Run (Bundle × Store) Error

/-- The name of the file for a tag. -/
def fileName (base : String) : Option String → String
  | some tag => base ++ "." ++ tag ++ ".yaml"
  | none => base ++ ".yaml"

/-- Reads resources, and leaves the bundle as it is. -/
def onStore {α : Type} (m : Store.Run α) : Run α := fun (b, s) =>
  let (r, s) := m s
  (r, (b, s))

/-- Reads the catalog of a file, if there is one. -/
def readCatalog (f : Fetcher) (file : String) : Run (Option Catalog) := do
  match ← onStore (Store.fetchDocument f file fun _ => .setup (.invalidMessages file)) with
  | none => return none
  | some v => return some (← liftFault (Catalog.flatten "" v))

/-- The catalog for a tag, if there is one. -/
def catalog (f : Fetcher) (tag? : Option String) : Run (Option Catalog) := do
  let (b, _) ← get
  match b.catalogs.lookup tag? with
  | some c => return c
  | none =>
    let c ← match b.base? with
      | none => pure (Texts.forTag? tag?)
      | some base => readCatalog f (fileName base tag?)
    -- A file that cannot be read has ended this before, and is asked for again the next time.
    modify fun (b, s) => ({ b with catalogs := b.catalogs ++ [(tag?, c)] }, s)
    return c

/-- The text for a key under the first of some tags that has one. -/
def lookupIn (f : Fetcher) (key : String) : List (Option String) → Run (Option String)
  | [] => pure none
  | tag? :: rest => do
    match (← catalog f tag?).bind fun c => c.get? key with
    | some text => return some text
    | none => lookupIn f key rest

/-- Reads the catalogs for some locales, and says whether there was any. -/
def load (f : Fetcher) : List (Option String) → Run Bool
  | [] => pure false
  | locale? :: rest => do
    let here ← catalog f (locale?.bind Locale.tag?)
    let others ← load f rest
    return here.isSome || others

end Bundle

end FieldRules
