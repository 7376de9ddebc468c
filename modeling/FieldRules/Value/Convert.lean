import FieldRules.Text.Blank
import FieldRules.Text.Case
import FieldRules.Value.Arithmetic

/-!
# Conversions

A value made into one of another class: an integer, a floating-point number, a text, a truth value, a
collection, bytes, an outcome.
-/

namespace FieldRules

namespace Value

/-- The integer part of a floating-point number. -/
def truncate (x : Float) : Except Fault Int :=
  match Number.Binary.ofFloat x with
  | .nan => throw .integerOfNaN
  | .infinite _ => throw .integerOfInfinity
  | b => pure (b.truncate?.getD 0)

/-- Reads an integer; `quoted` is the written form of what is read. -/
def readInteger (s : List Char) (quoted : String) : Except Fault Int :=
  match Number.readInt s with
  | .value n => pure n
  | .invalid => throw (.integerText quoted)
  | .tooLong digits => throw (.integerTooLongToRead digits)

/-- Bytes as characters, one for each. -/
def bytesText (data : List UInt8) : List Char :=
  data.map fun b => Char.ofNat b.toNat

/-- The value as an integer. -/
def toInteger (v : Value) : Except Fault Int :=
  match v with
  | float x => truncate x
  | string s => readInteger s.toList v.quoted
  | markup s => readInteger s.toList v.quoted
  | bytes data => readInteger (bytesText data) v.quoted
  | undefined u => throw u.fault
  | _ =>
    match v.integer? with
    | some n => pure n
    | Option.none => throw (.integerSource v.kindName)

/-- Reads a floating-point number; `quoted` is the written form of what is read. -/
def readDecimal (s : List Char) (quoted : String) : Except Fault Float :=
  match Number.readFloat? s with
  | some x => pure x
  | Option.none => throw (.floatText quoted)

/-- The value as a floating-point number. -/
def toFloat (v : Value) : Except Fault Float :=
  match v with
  | float x => pure x
  | string s => readDecimal s.toList v.quoted
  | markup s => readDecimal s.toList v.quoted
  | bytes data => readDecimal (bytesText data) v.quoted
  | undefined u => throw u.fault
  | _ =>
    match v.integer? with
    | some n => floatOfInt n
    | Option.none => throw (.floatSource v.kindName)

/-- The entries that a list of pairs stands for. -/
def entriesFrom (acc : List (Value × Value)) : Nat → List Value →
    Except Fault (List (Value × Value))
  | _, [] => pure acc
  | index, v :: rest => do
    let parts ← match v.items with
      | .ok parts => pure parts
      | .error _ => throw (.entrySource index)
    match parts with
    | [k, w] =>
      k.checkKey
      entriesFrom (insertEntry k w acc) (index + 1) rest
    | _ => throw (.entryLength index parts.length)

/-- The value as a dictionary. -/
def toEntries (v : Value) : Except Fault (List (Value × Value)) :=
  match v.entries? with
  | some entries => pure entries
  | Option.none => do entriesFrom [] 0 (← v.items)

/-- The value as bytes. -/
def toBytes (v : Value) : Except Fault (List UInt8) :=
  match v with
  | bytes data => pure data
  | string _ => throw .textWithoutEncoding
  | markup _ => throw .textWithoutEncoding
  | _ =>
    match v.integer? with
    | some n =>
      if n < 0 && -(sizeLimit : Int) ≤ n then throw .negativeCount
      else do repeatList .outOfMemory [0] n
    | Option.none =>
      match v.items with
      | .ok xs => xs.mapM fun x =>
        match x.integer? with
        | some n => if n < 0 || 255 < n then throw .bytesOutOfRange else pure (UInt8.ofNat n.toNat)
        | Option.none => throw (.notInteger x.kindName)
      | .error _ => throw (.bytesSource v.kindName)

/-- The outcome that a text names, whatever its case and the blanks around it. -/
def readOutcome (s : List Char) : Except Fault Outcome :=
  let name := String.ofList (Text.lower (Text.trim s))
  if name == "passed" then pure .passed
  else if name == "rejected" then pure .rejected
  else throw (.noOutcome (Text.quoteString name))

/-- The outcome that a value names. -/
def toOutcome (v : Value) : Except Fault Outcome :=
  match v with
  | outcome o => pure o
  | _ => do readOutcome (← v.text).toList

/-- The outcome that a value is equal to by its name. -/
def exactOutcome (v : Value) : Except Fault Outcome :=
  match v with
  | outcome o => pure o
  | _ =>
    match v.text? with
    | some "passed" => pure .passed
    | some "rejected" => pure .rejected
    | _ => throw (.noOutcome v.quoted)

/-- The value made into one of a class. -/
def convertTo (c : Class) (v : Value) : Except Fault Value := do
  if c = Class.int then return int (← v.toInteger)
  else if c = Class.float then return float (← v.toFloat)
  else if c = Class.string then return string (← v.text)
  else if c = Class.bool then return bool (← v.truth)
  else if c = Class.list then return list (← v.items)
  else if c = Class.tuple then return tuple (← v.items)
  else if c = Class.set then
    let xs ← v.items
    xs.forM checkKey
    return setOf xs
  else if c = Class.dict then return dict (← v.toEntries)
  else if c = Class.bytes then return bytes (← v.toBytes)
  else if c = Class.outcome then return outcome (← v.exactOutcome)
  else if c = Class.type then return classRef v.kind
  else if isDictionaryClass c then
    let entries ← v.toEntries
    return obj c [] (entries.filterMap fun (k, w) => k.text?.map fun s => (s, w))
  else throw (.noInstance c.simpleName)

/-- Whether the value is an instance of a class. -/
def isOf (v : Value) (c : Class) : Bool :=
  v.kind.isSubclassOf c

end Value

end FieldRules
