/-!
# Patterns

The syntax tree of a pattern. Characters are code points. A group may capture what it matches under a
number and may change flags for its body.
-/

namespace FieldRules.Regex

/-- What changes the meaning of a pattern as a whole or of a group. -/
structure Flags where
  ignoreCase : Bool := false
  multiLine : Bool := false
  dotAll : Bool := false
  verbose : Bool := false
  ascii : Bool := false
  wide : Bool := false
  template : Bool := false
  deriving DecidableEq, Repr, Inhabited

namespace Flags

/-- Flags that are in one of two sets. -/
def union (a b : Flags) : Flags where
  ignoreCase := a.ignoreCase || b.ignoreCase
  multiLine := a.multiLine || b.multiLine
  dotAll := a.dotAll || b.dotAll
  verbose := a.verbose || b.verbose
  ascii := a.ascii || b.ascii
  wide := a.wide || b.wide
  template := a.template || b.template

/-- Flags of the first set that are not in the second. -/
def without (a b : Flags) : Flags where
  ignoreCase := a.ignoreCase && !b.ignoreCase
  multiLine := a.multiLine && !b.multiLine
  dotAll := a.dotAll && !b.dotAll
  verbose := a.verbose && !b.verbose
  ascii := a.ascii && !b.ascii
  wide := a.wide && !b.wide
  template := a.template && !b.template

/-- Whether the sets have a flag in common. -/
def meets (a b : Flags) : Bool :=
  a.ignoreCase && b.ignoreCase || a.multiLine && b.multiLine || a.dotAll && b.dotAll
    || a.verbose && b.verbose || a.ascii && b.ascii || a.wide && b.wide || a.template && b.template

/-- The flags inside a group that turns some on and some off. Choosing an alphabet drops the other. -/
def change (flags on off : Flags) : Flags :=
  let kept := if on.ascii || on.wide then { flags with ascii := false, wide := false } else flags
  (kept.union on).without off

/-- The names of the flags that are set, in their fixed order. -/
def names (f : Flags) : List String :=
  [(f.template, "TEMPLATE"), (f.ignoreCase, "IGNORECASE"), (f.multiLine, "MULTILINE"),
    (f.dotAll, "DOTALL"), (f.verbose, "VERBOSE"), (f.ascii, "ASCII")].filterMap
      fun (on, name) => if on then some ("re." ++ name) else none

end Flags

/-- The classes of characters that have an escape. -/
inductive Category where
  | digit | space | word
  deriving DecidableEq, Repr

/-- One member of a set of characters. -/
inductive SetItem where
  | code (n : Nat)
  | span (low high : Nat)
  | category (c : Category) (negated : Bool)
  deriving DecidableEq, Repr

/-- Conditions on a place in the text. -/
inductive Anchor where
  | lineStart | lineEnd | textStart | textEnd | boundary | notBoundary
  deriving DecidableEq, Repr

/-- How a repetition chooses its count. -/
inductive Greed where
  | greedy | lazy | possessive
  deriving DecidableEq, Repr

/-- The syntax tree of a pattern. -/
inductive Node where
  | empty
  | literal (code : Nat)
  | any
  | set (negated : Bool) (items : List SetItem)
  | anchor (a : Anchor)
  | cat (first second : Node)
  | alt (first second : Node)
  | group (capture : Option Nat) (on off : Flags) (body : Node)
  | loop (greed : Greed) (least : Nat) (most : Option Nat) (body : Node)
  | backreference (group : Nat)
  | look (behind : Option Nat) (negated : Bool) (body : Node)
  | atomic (body : Node)
  | conditional (group : Nat) (yes no : Node)
  deriving DecidableEq, Repr, Inhabited

namespace Node

/-- The nodes one after another. -/
def sequence : List Node → Node
  | [] => empty
  | [n] => n
  | n :: rest => cat n (sequence rest)

/-- One of the nodes, the first that fits. -/
def choice : List Node → Node
  | [] => empty
  | [n] => n
  | n :: rest => alt n (choice rest)

/-- The least and the greatest number of characters that a node matches, the greatest being nothing
if there is none. `groups` gives the widths of the groups. -/
def width (groups : Nat → Nat × Option Nat) : Node → Nat × Option Nat
  | empty | anchor _ | look .. => (0, some 0)
  | literal _ | any | set .. => (1, some 1)
  | cat a b =>
    let (la, ha) := a.width groups
    let (lb, hb) := b.width groups
    (la + lb, ha.bind fun x => hb.map (x + ·))
  | alt a b =>
    let (la, ha) := a.width groups
    let (lb, hb) := b.width groups
    (min la lb, ha.bind fun x => hb.map (max x ·))
  | group _ _ _ body => body.width groups
  | atomic body => body.width groups
  | loop _ least most body =>
    let (l, h) := body.width groups
    let high := match most, h with
      | _, some 0 => some 0
      | some m, some n => some (n * m)
      | _, _ => none
    (l * least, high)
  | backreference n => groups n
  | conditional _ yes no =>
    let (la, ha) := yes.width groups
    let (lb, hb) := no.width groups
    (min la lb, ha.bind fun x => hb.map (max x ·))

end Node

end FieldRules.Regex

namespace FieldRules

/-- A pattern that has been read: its source, its flags and its syntax tree. -/
structure Regex where
  source : String
  flags : Regex.Flags
  node : Regex.Node
  deriving DecidableEq, Repr, Inhabited

end FieldRules
