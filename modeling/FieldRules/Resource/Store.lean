import FieldRules.Cache
import FieldRules.Document.Reader
import FieldRules.Resource.Digest
import FieldRules.Resource.Path
import FieldRules.Text.Quoted
import FieldRules.Uri.Escaped

/-!
# Resources

Texts are read from files and from the network. What has been read from the network once is kept in a
file, named for the digest of the URI, and read from there afterwards. A resource that is not there is no
error; one that cannot be had is.
-/

namespace FieldRules

/-- What a file holds: a text, or a document that has been read already. -/
inductive Content where
  | text (s : String)
  | document (v : Value)
  deriving Inhabited

/-- What the network answers. -/
inductive Reply where
  | response (status : Int) (reason text : String)
  | failure (reason : String)
  deriving DecidableEq, Repr, Inhabited

/-- Where the program runs, where texts from the network are kept unless said otherwise, the files that
there are, by their paths from the root, the directories that have been made, the replies of the network,
and the URIs that it has been asked for. -/
structure Store where
  place : Path := { start := "/" }
  keep : Path := { parts := ["cache"] }
  files : List (List String × Content) := []
  directories : List (List String) := []
  network : List (String × Reply) := []
  requested : List String := []
  deriving Inhabited

/-- Where relative paths start, and where texts from the network are kept. -/
structure Fetcher where
  base : Path := {}
  cache : Path := {}
  deriving DecidableEq, Repr, Inhabited

namespace Store

/-- A computation that reads resources. -/
abbrev Run := Cache.Run Store Error

/-- Whether the names lead to a directory: to one that has been made or holds a file, or to where the
program runs. -/
def isDirectory (s : Store) (names : List String) : Bool :=
  names.isPrefixOf s.place.parts || s.directories.contains names
    || s.files.any fun (path, _) => names.isPrefixOf path && names.length < path.length

/-- Where names lead to from a directory. Only directories can be gone into or up from. -/
def walk? (s : Store) : List String → List String → Option (List String)
  | here, [] => some here
  | here, name :: rest =>
    if !s.isDirectory here then none
    else if name == ".." then s.walk? here.dropLast rest
    else s.walk? (here ++ [name]) rest

/-- The file at a path. -/
def file? (s : Store) (p : Path) : Option Content :=
  (s.walk? [] (s.place.join p).parts).bind fun names => s.files.lookup names

/-- Puts a content under names. -/
def putContent (names : List String) (c : Content) :
    List (List String × Content) → List (List String × Content)
  | [] => [(names, c)]
  | (n, d) :: rest => if n == names then (n, c) :: rest else (n, d) :: putContent names c rest

/-- The directories on the way to a path. -/
def directoriesTo (s : Store) (p : Path) : List (List String) :=
  let parts := (s.place.join p).parts
  (List.range parts.length).map fun n => Path.resolveParts (parts.take n)

/-- Writes a file, and makes the directories on the way to it. -/
def write (s : Store) (p : Path) (c : Content) : Store :=
  { s with
    files := putContent (Path.resolve s.place p).parts c s.files
    directories := s.directories ++ s.directoriesTo p }

/-- The names of the files in a directory, in their order. -/
def filesIn (s : Store) (p : Path) : List String :=
  let names := (Path.resolve s.place p).parts
  let inside := s.files.filterMap fun (path, _) =>
    if names.isPrefixOf path && path.length == names.length + 1 then path.getLast? else none
  inside.mergeSort fun a b => a ≤ b

/-- The content of a file as it is read: ends of lines are all alike. -/
def readContent : Content → Content
  | .text s => .text (String.ofList (Text.unifyLines s.toList))
  | .document v => .document v

/-- Reads a file, if there is one. -/
def readFile (p : Path) : Run (Option Content) := do
  return ((← get).file? p).map readContent

/-- The name of the file for a URI. -/
def cacheName (uri : String) : String :=
  let bytes := Digest.digest uri.toUTF8.toList
  "resource_" ++ String.ofList (bytes.flatMap fun b => Text.hexDigits 2 b.toNat)

/-- Asks the network for a text, which may not be there. -/
def request (uri : String) : Run (Option String) := do
  modify fun s => { s with requested := s.requested ++ [uri] }
  match ((← get).network.lookup uri).getD (.failure "unreachable") with
  | .failure reason => throw (.resource (.unreachable uri reason))
  | .response status reason text =>
    if status == 404 then return none
    else if 400 ≤ status then throw (.resource (.status uri status reason))
    else return some text

/-- Reads a text from the network, or from the file where it has been kept. -/
def fetchRemote (f : Fetcher) (uri : String) : Run (Option Content) := do
  let kept := f.cache.join { parts := [cacheName uri] }
  match (← get).file? kept with
  | some c => return some (readContent c)
  | none =>
    match ← request uri with
    | none => return none
    | some text =>
      modify fun s => s.write kept (.text text)
      -- The text is given as it came. When it is read from the file, its ends of lines are made alike.
      return some (.text text)

/-- Reads a resource by its path or URI. A scheme of one letter is a part of a path. -/
def fetch (f : Fetcher) (uri : String) : Run (Option Content) := do
  match Uri.split uri.toList with
  | .error p => throw (.uri p)
  | .ok u =>
    if u.scheme.length ≤ 1 then readFile (f.base.join (Path.ofString uri))
    else match String.ofList u.scheme with
      | "file" => readFile (Path.ofString (String.ofList (Uri.unescape u.path)))
      | "http" | "https" => fetchRemote f uri
      | scheme => throw (.resource (.scheme scheme uri))

/-- The document that a content is. -/
def documentOf : Content → Except DocumentError Value
  | .text s => Document.ofText s
  | .document v => pure v

/-- Reads a document by its path or URI. `unreadable` is reported if it is none. -/
def fetchDocument (f : Fetcher) (uri : String) (unreadable : DocumentError → Error) :
    Run (Option Value) := do
  match ← fetch f uri with
  | none => return none
  | some c =>
    match documentOf c with
    | .ok v => return some v
    | .error e => throw (unreadable e)

end Store

end FieldRules
