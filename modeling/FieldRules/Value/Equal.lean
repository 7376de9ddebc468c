import FieldRules.Number.Binary
import FieldRules.Value.Basic

/-!
# Equality

When two values are equal. Numbers are compared by what they count, truth values among them, text by
its characters, lists and tuples item by item, sets and dictionaries without regard to order. An object
is equal to nothing but what it is a dictionary for.
-/

namespace FieldRules

/-- A number: an integer or a floating-point one. -/
inductive Numeric where
  | int (n : Int)
  | float (x : Float)

namespace Numeric

/-- The number taken apart. -/
def binary : Numeric → Number.Binary
  | int n => .ofInt n
  | float x => .ofFloat x

/-- The order of two numbers by their exact values, nothing if one is not a number. -/
def compare? : Numeric → Numeric → Option Ordering
  | int a, int b => some (compare a b)
  | a, b => a.binary.compare? b.binary

/-- Whether two numbers have the same value. -/
def same (a b : Numeric) : Bool :=
  a.compare? b == some .eq

end Numeric

namespace Value

/-- The number that a value is, truth values included. -/
def numeric? : Value → Option Numeric
  | float x => some (.float x)
  | v => v.integer?.map .int

/-- Whether ranges hold the same integers. -/
def sameRange (a b c x y z : Int) : Bool :=
  let n := rangeLength a b c
  n == rangeLength x y z && (n == 0 || a == x && (n == 1 || c == z))

mutual

/-- Whether two values are equal. -/
def equal : Value → Value → Bool
  | none, .none => true
  | bool a, w => w.numeric?.any (Numeric.same (.int (if a then 1 else 0)))
  | int a, w => w.numeric?.any (Numeric.same (.int a))
  | float a, w => w.numeric?.any (Numeric.same (.float a))
  | string a, w => w.text? == some a
  | markup a, w => w.text? == some a
  | bytes a, .bytes b => a == b
  | pattern a, .pattern b => a.source == b.source
  | list a, .list b => equalAll a b
  | tuple a, .tuple b => equalAll a b
  | set a, .set b => a.length == b.length && eachIn a b
  | dict a, w =>
    match w.entries? with
    | some b => a.length == b.length && eachEntryIn a b
    | .none => false
  | obj c _ own, w =>
    match isDictionaryClass c, w.entries? with
    | true, some b => own.length == b.length && eachFieldIn own b
    | _, _ => false
  | classRef a, .classRef b => a.name == b.name
  | outcome a, .outcome b => a == b
  | range a b c, .range x y z => sameRange a b c x y z
  -- Undefined values of one sort are equal, whatever they stand for.
  | undefined u, .undefined w => u.strict == w.strict
  | _, _ => false

/-- Whether two lists have equal items. -/
def equalAll : List Value → List Value → Bool
  | [], [] => true
  | v :: rest, w :: rest' => equal v w && equalAll rest rest'
  | _, _ => false

/-- Whether each value has an equal one in a list. -/
def eachIn : List Value → List Value → Bool
  | [], _ => true
  | v :: rest, ws => ws.any (equal v) && eachIn rest ws

/-- Whether each entry has an equal one in a list. -/
def eachEntryIn : List (Value × Value) → List (Value × Value) → Bool
  | [], _ => true
  | (k, v) :: rest, ws => ws.any (fun (k', v') => equal k k' && equal v v') && eachEntryIn rest ws

/-- Whether each field of an object has an equal entry in a list. -/
def eachFieldIn : List (String × Value) → List (Value × Value) → Bool
  | [], _ => true
  | (k, v) :: rest, ws =>
    ws.any (fun (k', v') => k'.text? == some k && equal v v') && eachFieldIn rest ws

end

/-- Whether a list has an item equal to the value. -/
def isIn (v : Value) (items : List Value) : Bool :=
  items.any (equal v)

/-- The value of the first entry with an equal key. -/
def lookup? (key : Value) (entries : List (Value × Value)) : Option Value :=
  (entries.find? fun (k, _) => equal k key).map Prod.snd

/-- Puts an entry into a dictionary: in the place of the entry with an equal key, else at the end. -/
def insertEntry (key value : Value) : List (Value × Value) → List (Value × Value)
  | [] => [(key, value)]
  | (k, v) :: rest => if equal k key then (k, value) :: rest else (k, v) :: insertEntry key value rest

/-- Whether all items are integers. -/
def integers? (items : List Value) : Option (List Int) :=
  items.mapM fun
    | int n => some n
    | _ => Option.none

/-- The items without repetitions, the first of equal ones kept. -/
def distinct (items : List Value) : List Value :=
  items.foldl (fun acc v => if isIn v acc then acc else acc ++ [v]) []

/-- A set of the given items. Integers stand in their order. -/
def setOf (items : List Value) : Value :=
  let unique := distinct items
  match integers? unique with
  | some ns => set ((ns.mergeSort fun a b => a ≤ b).map int)
  | Option.none => set unique

mutual

/-- The name of the kind that keeps a value from being a key, if there is one. -/
def unhashable? : Value → Option String
  | list _ => some "list"
  | set _ => some "set"
  | dict _ => some "dict"
  | obj c _ _ => if isDictionaryClass c then some c.simpleName else Option.none
  | tuple items => anyUnhashable? items
  | _ => Option.none

/-- The first kind among values that keeps one of them from being a key. -/
def anyUnhashable? : List Value → Option String
  | [] => Option.none
  | v :: rest => (unhashable? v).or (anyUnhashable? rest)

end

/-- Refuses a value that cannot be a key. -/
def checkKey (v : Value) : Except Fault Unit :=
  match v with
  | undefined u => if u.strict then throw u.fault else pure ()
  | _ =>
    match v.unhashable? with
    | some kind => throw (.unhashable kind)
    | .none => pure ()

end Value

end FieldRules
