/-!
# Paths

A path is a row of names, which may start at the root. Written paths may repeat slashes and may name
the place they stand in; both are left out. Two dots lead up to where a path was before.
-/

namespace FieldRules

/-- A path: what it starts with, and its names. -/
structure Path where
  start : String := ""
  parts : List String := []
  deriving DecidableEq, Repr, Inhabited

namespace Path

/-- How many slashes a text starts with. -/
def leadingSlashes (s : List Char) : Nat :=
  (s.takeWhile (· == '/')).length

/-- Reads a path. Two slashes at the start are kept, as they may mean something of their own. -/
def ofString (s : String) : Path where
  start := match leadingSlashes s.toList with
    | 0 => ""
    | 2 => "//"
    | _ => "/"
  parts := ((s.toList.splitBy fun a b => (a == '/') == (b == '/')).map String.ofList).filter fun p =>
    p != "." && !p.startsWith "/"

/-- Writes a path. -/
def toString (p : Path) : String :=
  if p.start.isEmpty && p.parts.isEmpty then "." else p.start ++ "/".intercalate p.parts

/-- Whether the path starts at the root. -/
def isAbsolute (p : Path) : Bool :=
  !p.start.isEmpty

/-- A path as seen from another one. -/
def join (base p : Path) : Path :=
  if p.isAbsolute then p else { base with parts := base.parts ++ p.parts }

/-- The path without its last name. -/
def parent (p : Path) : Path :=
  { p with parts := p.parts.dropLast }

/-- The names with those left out that two dots lead up from. -/
def resolveParts (parts : List String) : List String :=
  (parts.foldl (fun back part => if part == ".." then back.drop 1 else part :: back) []).reverse

/-- The path from the root on, as seen from a place. -/
def resolve (place p : Path) : Path :=
  let full := place.join p
  { start := "/", parts := resolveParts full.parts }

end Path

end FieldRules
