import FieldRules.Value.Equal

/-!
# Items, length and truth

What a value yields one after another, how many of them there are, whether a value counts as true, and
whether it contains another.
-/

namespace FieldRules

namespace Value

/-- The keys of entries. -/
def keysOf (entries : List (Value × Value)) : List Value :=
  entries.map Prod.fst

/-- What a view of a dictionary shows. -/
def viewItems : View → List (Value × Value) → List Value
  | .keys, entries => keysOf entries
  | .values, entries => entries.map Prod.snd
  | .items, entries => entries.map fun (k, v) => tuple [k, v]

/-- The characters of a text as values. -/
def characters (s : String) : List Value :=
  s.toList.map fun c => string (String.singleton c)

/-- The items of a value in their order. -/
def items : Value → Except Fault (List Value)
  | string s => pure (characters s)
  | markup s => pure (characters s)
  | bytes data => pure (data.map fun b => int b.toNat)
  | list xs => pure xs
  | tuple xs => pure xs
  | set xs => pure xs
  | range start stop step => pure (rangeItems start stop step)
  | view v entries => pure (viewItems v entries)
  | stream _ xs fault? =>
    match fault? with
    | some f => throw f
    | Option.none => pure xs
  | undefined u => if u.strict then throw u.fault else pure []
  | v =>
    match v.entries? with
    | some entries => pure (keysOf entries)
    | Option.none => throw (.notIterable v.kindName)

/-- The items of a value from the last to the first. -/
def reversedItems : Value → Except Fault (List Value)
  | v@(set _) => throw (.notReversible v.kindName)
  | v@(stream ..) => throw (.notReversible v.kindName)
  | undefined u => if u.strict then throw u.fault else pure []
  | v =>
    match v.items with
    | .ok xs => pure xs.reverse
    | .error _ => throw (.notReversible v.kindName)

/-- How many items a value has, nothing if it is not sized. -/
def length? : Value → Option Nat
  | string s => some s.length
  | markup s => some s.length
  | bytes data => some data.length
  | list xs => some xs.length
  | tuple xs => some xs.length
  | set xs => some xs.length
  | range start stop step => some (rangeLength start stop step)
  | view _ entries => some entries.length
  | v => v.entries?.map List.length

/-- How many items a value has. -/
def length (v : Value) : Except Fault Nat :=
  match v with
  | undefined u => if u.strict then throw u.fault else pure 0
  | _ =>
    match v.length? with
    | some n => pure n
    | Option.none => throw (.noLength v.kindName)

/-- Whether a value counts as true: it is not empty, not zero and not missing. -/
def truth : Value → Except Fault Bool
  | none => pure false
  | undefined u => if u.strict then throw u.fault else pure false
  | v =>
    match v.numeric? with
    | some n => pure (!n.same (.int 0))
    -- What has no size counts as true.
    | Option.none => pure (v.length? != some 0)

/-- Whether a text stands inside another. -/
def isInfix (part : List Char) : List Char → Bool
  | [] => part.isEmpty
  | c :: rest => part.isPrefixOf (c :: rest) || isInfix part rest

/-- Whether bytes stand inside others. -/
def isByteInfix (part : List UInt8) : List UInt8 → Bool
  | [] => part.isEmpty
  | b :: rest => part.isPrefixOf (b :: rest) || isByteInfix part rest

/-- The fault of comparing something for equality, if it is strictly undefined. -/
def strictFault? : Value → Option Fault
  | undefined u => if u.strict then some u.fault else Option.none
  | _ => Option.none

/-- Whether a list has an item equal to the value. A strict undefined value may not be compared. -/
def memberOf (v : Value) : List Value → Except Fault Bool
  | [] => pure false
  | x :: rest =>
    match v.strictFault?, x.strictFault? with
    | some f, _ => throw f
    | _, some f => throw f
    | _, _ => if equal x v then pure true else memberOf v rest

/-- Whether a container contains a value. -/
def contains (container v : Value) : Except Fault Bool :=
  match container with
  | string s =>
    match v.text? with
    | some part => pure (isInfix part.toList s.toList)
    | Option.none => throw (.memberNotText v.kindName)
  | markup s =>
    match v.text? with
    | some part => pure (isInfix part.toList s.toList)
    | Option.none => throw (.memberNotText v.kindName)
  | bytes data =>
    match v with
    | bytes part => pure (isByteInfix part data)
    | _ =>
      match v.integer? with
      | some n =>
        if n < 0 || 255 < n then throw .byteOutOfRange
        else pure (data.any fun b => b.toNat == n)
      | Option.none => throw (.memberNotBytes v.kindName)
  | set xs => do
    v.checkKey
    return isIn v xs
  | undefined u => if u.strict then throw u.fault else pure false
  | _ =>
    match container.entries? with
    | some entries => do
      v.checkKey
      return (lookup? v entries).isSome
    | Option.none =>
      match container.items with
      | .ok xs => memberOf v xs
      | .error (.notIterable kind) => throw (.notContainer kind)
      | .error f => throw f

end Value

end FieldRules
