/-!
# Parts of texts

Finding, splitting and replacing parts of texts.
-/

namespace FieldRules.Text

/-- Cuts a text at the first place where a part stands: what is before it and what is behind it. -/
def cutAt? (part : List Char) : List Char → Option (List Char × List Char)
  | [] => if part.isEmpty then some ([], []) else none
  | c :: rest =>
    if part.isPrefixOf (c :: rest) then some ([], (c :: rest).drop part.length)
    else (cutAt? part rest).map fun (before, after) => (c :: before, after)

/-- Splits a text at a part that is not empty, at most `limit` times. -/
def splitAtMost (part : List Char) : Nat → List Char → List (List Char)
  | 0, s => [s]
  | limit + 1, s =>
    match cutAt? part s with
    | some (before, after) => before :: splitAtMost part limit after
    | none => [s]

/-- Splits a text at a part that is not empty. -/
def splitAll (part s : List Char) : List (List Char) :=
  splitAtMost part (s.length + 1) s

/-- Puts a text between each two characters and at both ends, at most `limit` times. -/
def interleave (new : List Char) : Nat → List Char → List Char
  | 0, s => s
  | _ + 1, [] => new
  | limit + 1, c :: rest => new ++ c :: interleave new limit rest

/-- Replaces a part by another text, at most `limit` times. An empty part stands between each two
characters and at both ends. -/
def replaceAtMost (old new : List Char) (limit : Nat) (s : List Char) : List Char :=
  if old.isEmpty then interleave new limit s
  else (splitAtMost old limit s).intersperse new |>.flatten

/-- Replaces a part by another text wherever it stands. -/
def replaceAll (old new s : List Char) : List Char :=
  replaceAtMost old new (s.length + 1) s

/-- Takes characters of a class off the start. -/
def stripLeft (chars : Char → Bool) (s : List Char) : List Char :=
  s.dropWhile chars

/-- Takes characters of a class off the end. -/
def stripRight (chars : Char → Bool) (s : List Char) : List Char :=
  (s.reverse.dropWhile chars).reverse

/-- Takes characters of a class off both ends. -/
def strip (chars : Char → Bool) (s : List Char) : List Char :=
  stripRight chars (stripLeft chars s)

/-- Splits at blank runs, at most `limit` times; the last part then keeps its inner blanks. -/
def splitBlanks (blank : Char → Bool) : Nat → List Char → List (List Char)
  | 0, s =>
    let rest := strip blank s
    if rest.isEmpty then [] else [stripLeft blank s]
  | limit + 1, s =>
    let rest := stripLeft blank s
    if rest.isEmpty then []
    else rest.takeWhile (fun c => !blank c)
      :: splitBlanks blank limit (rest.dropWhile fun c => !blank c)

/-- The lines of a text whose line ends may be of three kinds, all made into line feeds. -/
def unifyLines : List Char → List Char
  | [] => []
  | '\r' :: '\n' :: rest => '\n' :: unifyLines rest
  | c :: rest => (if c == '\r' then '\n' else c) :: unifyLines rest

end FieldRules.Text
