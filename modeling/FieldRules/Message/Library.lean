import FieldRules.Message.Bundle

/-!
# Message libraries

A library finds the text for a key: in the bundles that have been added, the latest first, and then in
the texts that are always there, each time for the locale, for its language and without a locale.
-/

namespace FieldRules

/-- Bundles, the latest first and the texts that are always there last, with the resources that they
are read from. -/
structure Library where
  store : Store := {}
  fetcher : Fetcher := {}
  bundles : List Bundle := [{}]
  keyPrefix : String := Texts.keyPrefix
  defaultLocale? : Option String := none
  deriving Inhabited

namespace Library

/-- A computation that uses a library. -/
abbrev Run := Cache.Run Library Error

/-- Reads resources of a library. -/
def onStore {α : Type} (m : Store.Run α) : Run α := fun l =>
  let (r, s) := m l.store
  (r, { l with store := s })

/-- Adds a bundle and reads its catalogs without a locale and for some locales. There must be one of
them. -/
def addBundle (base : String) (preload : List String) : Run Unit := fun l =>
  match Bundle.load l.fetcher (none :: preload.map some) ({ base? := some base }, l.store) with
  | (.ok true, (b, s)) => (.ok (), { l with bundles := b :: l.bundles, store := s })
  | (.ok false, (_, s)) => (.error (.setup (.unreadableBundle base)), { l with store := s })
  | (.error e, (_, s)) => (.error e, { l with store := s })

/-- The text for a key in the first of some bundles that has one, with the bundles afterwards. -/
def lookupIn (f : Fetcher) (key : String) (tags : List (Option String)) :
    List Bundle → Store → Except Error (Option String) × List Bundle × Store
  | [], s => (.ok none, [], s)
  | b :: rest, s =>
    match Bundle.lookupIn f key tags (b, s) with
    | (.ok none, (b, s)) =>
      let (r, rest, s) := lookupIn f key tags rest s
      (r, b :: rest, s)
    -- A failure is an answer as well: the bundles behind it are not asked.
    | (r, (b, s)) => (r, b :: rest, s)

/-- A locale that is not empty. -/
def nonEmpty (locale? : Option String) : Option String :=
  locale?.filter fun l => !l.isEmpty

/-- The text for a key, if any bundle has one. -/
def resolve (key : String) (locale? : Option String) : Run (Option String) := fun l =>
  let tags := Locale.candidates (nonEmpty locale? <|> l.defaultLocale?)
  let (r, bundles, s) := lookupIn l.fetcher key tags l.bundles l.store
  (r, { l with bundles, store := s })

/-- The text for a key, or what is given instead if no bundle has one. -/
def resolveOr (key : String) (locale? default? : Option String) : Run (Option String) := do
  return (← resolve key locale?).or default?

/-- The full key for a short one. -/
def messageKey (l : Library) (short : String) : String :=
  l.keyPrefix ++ "." ++ short

/-- The key that a text stands for, which is a key in braces and nothing else. -/
def referredKey? (text : String) : Option String :=
  match text.toList with
  | '\x7b' :: rest =>
    if rest.getLast? == some '\x7d' && !rest.contains '\x7b' then
      some (String.ofList (Text.trim rest.dropLast))
    else none
  | _ => none

/-- The text that a text stands for; any text that is no key of a bundle stands for itself. -/
def resolveText (text : String) (locale? : Option String) : Run String := do
  match referredKey? text with
  | some key => return (← resolve key locale?).getD text
  | none => return text

end Library

end FieldRules
