import FieldRules.Regex.Syntax
import FieldRules.Text.Blank
import FieldRules.Text.Case
import FieldRules.Text.Digit

/-!
# Matching patterns

A node matches from a place in the text and hands the place behind it to what follows; if that fails,
the node tries its next way to match. `Regex.matches` asks whether a pattern matches a whole text.
A repetition of something that matched no text goes on to what follows, so no repetition has more
turns than there are characters left, and one.
-/

namespace FieldRules.Regex

/-- A place in the text: the characters before it from the last to the first, those after it, and what
the groups have captured so far. -/
structure Place where
  before : List Char
  rest : List Char
  index : Nat
  captured : List (Nat × List Char)
  deriving DecidableEq, Repr

/-- What follows a node in a match. -/
abbrev Onward := Place → Option Place

/-- How a node matches: from a place, and with what follows it. -/
abbrev Matcher := Place → Onward → Option Place

/-! ## One character -/

/-- The lower case of a character, of ASCII letters alone if the pattern says so. -/
def lowerFor (flags : Flags) (c : Char) : Char :=
  if flags.ascii then c.toLower else Text.simpleLower c

/-- The lower case characters that count as the same as a lower case one. -/
def equals (flags : Flags) (c : Char) : List Char :=
  if flags.ascii then [c] else c :: Text.twins c

/-- Whether a character is the one with the given code point. -/
def isCode (flags : Flags) (code : Nat) (c : Char) : Bool :=
  if flags.ignoreCase then
    (equals flags (lowerFor flags (Char.ofNat code))).contains (lowerFor flags c)
  else c.toNat == code

/-- Whether a character is in a class. -/
def Category.holds (flags : Flags) (c : Char) : Category → Bool
  | digit => if flags.ascii then Text.isAsciiDigit c else Text.isDecimal c
  | space => if flags.ascii then c == ' ' || (9 ≤ c.toNat && c.toNat ≤ 13) else Text.isBlank c
  | word =>
    if flags.ascii then Text.isAsciiLetter c || Text.isAsciiDigit c || c == '_' else Text.isWord c

/-- The characters that count as the same as a character. -/
def variants (flags : Flags) (c : Char) : List Char :=
  if flags.ascii then [c, c.toLower, c.toUpper] else c :: Text.caseVariants c

/-- Whether a character is the given member of a set. -/
def SetItem.holds (flags : Flags) (c : Char) : SetItem → Bool
  | code n => isCode flags n c
  | span low high =>
    if flags.ignoreCase then (variants flags c).any fun v => low ≤ v.toNat && v.toNat ≤ high
    else low ≤ c.toNat && c.toNat ≤ high
  | category k negated =>
    k.holds flags (if flags.ignoreCase then lowerFor flags c else c) != negated

/-- Matches one character that fulfils a condition. -/
def one (holds : Char → Bool) : Matcher := fun p onward =>
  match p.rest with
  | c :: rest =>
    if holds c then onward { p with before := c :: p.before, rest, index := p.index + 1 } else none
  | [] => none

/-! ## Places -/

/-- Whether words begin or end at a place. -/
def isBoundary (flags : Flags) (p : Place) : Bool :=
  let isWord (s : List Char) := s.head?.any fun c => Category.word.holds flags c
  isWord p.before != isWord p.rest

/-- Whether a place fulfils a condition. -/
def Anchor.holds (flags : Flags) (p : Place) : Anchor → Bool
  | textStart => p.before.isEmpty
  | textEnd => p.rest.isEmpty
  | lineStart => p.before.isEmpty || flags.multiLine && p.before.head? == some '\n'
  | lineEnd => p.rest.isEmpty || p.rest == ['\n'] || flags.multiLine && p.rest.head? == some '\n'
  | boundary => !(p.before.isEmpty && p.rest.isEmpty) && isBoundary flags p
  | notBoundary => !(p.before.isEmpty && p.rest.isEmpty) && !isBoundary flags p

/-- The place that many characters earlier, if there is one. -/
def Place.back? (p : Place) (n : Nat) : Option Place :=
  if p.index < n then none
  else some { p with
    before := p.before.drop n, rest := (p.before.take n).reverse ++ p.rest, index := p.index - n }

/-- Matches a row of characters. -/
def row (same : Char → Char → Bool) : List Char → Matcher
  | [], p, onward => onward p
  | c :: rest, p, onward => one (same c) p fun p => row same rest p onward

/-! ## Repetitions -/

/-- Matches a number of times. -/
def times (m : Matcher) : Nat → Matcher
  | 0, p, onward => onward p
  | n + 1, p, onward => m p fun p => times m n p onward

/-- Matches as often as possible, at most a number of times. -/
def greedily (m : Matcher) : Nat → Matcher
  | 0, p, onward => onward p
  | n + 1, p, onward =>
    -- A turn that has taken no character is the last one, or the same would come again and again.
    match m p fun q => if q.index == p.index then onward q else greedily m n q onward with
    | some q => some q
    | none => onward p

/-- Matches as seldom as possible, at most a number of times. -/
def lazily (m : Matcher) : Nat → Matcher
  | 0, p, onward => onward p
  | n + 1, p, onward =>
    match onward p with
    | some q => some q
    | none => m p fun q => if q.index == p.index then onward q else lazily m n q onward

/-- Matches a number of times, each turn for good. -/
def timesForGood (m : Matcher) : Nat → Place → Option Place
  | 0, p => some p
  | n + 1, p => (m p some).bind (timesForGood m n)

/-- Matches as often as possible, at most a number of times, each turn for good. -/
def possessively (m : Matcher) : Nat → Place → Place
  | 0, p => p
  | n + 1, p =>
    match m p some with
    | some q => if q.index == p.index then q else possessively m n q
    | none => p

/-- How many turns a repetition may have beyond the least number of them. -/
def turns (least : Nat) (most : Option Nat) (p : Place) : Nat :=
  match most with
  | some m => min (m - least) (p.rest.length + 1)
  | none => p.rest.length + 1

/-- Matches a repetition. -/
def repetition (m : Matcher) (greed : Greed) (least : Nat) (most : Option Nat) : Matcher :=
  fun p onward =>
    match greed with
    | .greedy => times m least p fun q => greedily m (turns least most q) q onward
    | .lazy => times m least p fun q => lazily m (turns least most q) q onward
    | .possessive =>
      match timesForGood m least p with
      | some q => onward (possessively m (turns least most q) q)
      | none => none

/-! ## Nodes -/

/-- How a node matches under the given flags. -/
def Node.matcher : Node → Flags → Matcher
  | empty, _ => fun p onward => onward p
  | literal code, flags => one (isCode flags code)
  | any, flags => one fun c => flags.dotAll || c != '\n'
  | set negated items, flags => one fun c => items.any (SetItem.holds flags c) != negated
  | anchor a, flags => fun p onward => if a.holds flags p then onward p else none
  | cat a b, flags => fun p onward => a.matcher flags p fun q => b.matcher flags q onward
  | alt a b, flags => fun p onward =>
    match a.matcher flags p onward with
    | some q => some q
    | none => b.matcher flags p onward
  | group capture on off body, flags => fun p onward =>
    body.matcher (flags.change on off) p fun q =>
      match capture with
      | some n =>
        onward { q with captured := (n, (q.before.take (q.index - p.index)).reverse) :: q.captured }
      | none => onward q
  | loop greed least most body, flags => repetition (body.matcher flags) greed least most
  | backreference n, flags => fun p onward =>
    match p.captured.lookup n with
    | some s => row (fun c d => if flags.ignoreCase then lowerFor flags c == lowerFor flags d
        else c == d) s p onward
    | none => none
  | look behind negated body, flags => fun p onward =>
    let found := (match behind with
      | some n => p.back? n
      | none => some p).bind fun start => body.matcher flags start some
    -- What the look has captured stays, but it takes no characters.
    match negated, found with
    | true, none => onward p
    | false, some q => onward { p with captured := q.captured }
    | _, _ => none
  | atomic body, flags => fun p onward =>
    match body.matcher flags p some with
    | some q => onward q
    | none => none
  | conditional n yes no, flags => fun p onward =>
    if (p.captured.lookup n).isSome then yes.matcher flags p onward else no.matcher flags p onward

end FieldRules.Regex

namespace FieldRules

/-- Whether the pattern matches the whole text. -/
def Regex.matches (r : Regex) (text : List Char) : Bool :=
  (r.node.matcher r.flags ⟨[], text, 0, []⟩ fun p => if p.rest.isEmpty then some p else none).isSome

end FieldRules
