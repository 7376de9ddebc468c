import FieldRules.Value.Attribute
import FieldRules.Value.Items
import FieldRules.Value.Render

/-!
# Parts of values

What an expression reads of a value: an attribute by its name, an item by its index or key, a slice.
What is not there is undefined, which is a value too. Attributes whose names start with an underscore
are there but may not be used.
-/

namespace FieldRules.Expr

/-- The undefined value with the given fault. -/
def undefinedWith (strict : Bool) (text : String) : Value :=
  .undefined ⟨strict, .undefinedValue text⟩

/-- What a name stands for that has no value. -/
def undefinedName (strict : Bool) (name : String) : Value :=
  undefinedWith strict (Text.quoteString name ++ " is undefined")

/-- What an attribute is that a value does not have. -/
def undefinedAttribute (strict : Bool) (v : Value) (name : String) : Value :=
  undefinedWith strict (Text.quoteString v.kindText ++ " has no attribute " ++ Text.quoteString name)

/-- What an item is that a value does not have. -/
def undefinedItem (strict : Bool) (v key : Value) : Value :=
  match key.text? with
  | some name => undefinedAttribute strict v name
  | none => undefinedWith strict (v.kindText ++ " has no element " ++ key.quoted)

/-- What an attribute is that may not be used. -/
def forbiddenAttribute (strict : Bool) (v : Value) (name : String) : Value :=
  .undefined ⟨strict, .forbidden ("access to attribute " ++ Text.quoteString name ++ " of "
    ++ Text.quoteString v.kindName ++ " object is unsafe.")⟩

/-! ## Attributes -/

/-- The value of an attribute, with those that may not be used made undefined. -/
def usableAttribute? (strict : Bool) (v : Value) (name : String) : Option Value :=
  (v.attribute? name).map fun w =>
    if name.startsWith "_" then forbiddenAttribute strict v name else w

/-! ## Items -/

/-- The item at an index, counted from the end if it is negative. -/
def itemAt? {α : Type} (xs : List α) (i : Int) : Option α :=
  if 0 ≤ i then xs[i.toNat]?
  else if 0 ≤ (xs.length : Int) + i then xs[((xs.length : Int) + i).toNat]? else none

/-- The integer that a range holds at an index. -/
def rangeAt? (start stop step i : Int) : Option Int :=
  let n : Int := Value.rangeLength start stop step
  let j := if i < 0 then n + i else i
  if 0 ≤ j && j < n then some (start + step * j) else none

/-- The item of a value by its index or key, nothing if the value has none there. Asking an undefined
value for an item is a fault, and so is a strict undefined key. -/
def nativeItem? (v key : Value) : Except Fault (Option Value) :=
  match v with
  | .undefined u => throw u.fault
  | _ =>
    match v.entries? with
    | some entries =>
      match key.strictFault? with
      | some f => throw f
      -- What cannot be a key is not found, and no fault here.
      | none => pure (if key.unhashable?.isSome then none else Value.lookup? key entries)
    | none =>
      match key.integer? with
      | none => pure none
      | some i =>
        match v with
        | .string s => pure ((itemAt? s.toList i).map fun c => .string (String.singleton c))
        | .markup s => pure ((itemAt? s.toList i).map fun c => .markup (String.singleton c))
        | .list xs => pure (itemAt? xs i)
        | .tuple xs => pure (itemAt? xs i)
        | .bytes data => pure ((itemAt? data i).map fun b => .int b.toNat)
        | .range start stop step => pure ((rangeAt? start stop step i).map .int)
        | _ => pure none

/-- The attribute of a value by its name: an attribute of its own, or else the item with that key. -/
def attributeOf (strict : Bool) (v : Value) (name : String) : Except Fault Value := do
  match v, usableAttribute? strict v name with
  | _, some w => return w
  | .undefined u, none => throw u.fault
  | _, none =>
    match ← nativeItem? v (.string name) with
    | some w => return w
    | none => return undefinedAttribute strict v name

/-- The item of a value by its index or key, or else the attribute with that name. -/
def itemOf (strict : Bool) (v key : Value) : Except Fault Value := do
  match ← nativeItem? v key with
  | some w => return w
  | none =>
    match key.text?.bind (usableAttribute? strict v) with
    | some w => return w
    | none => return undefinedItem strict v key

/-! ## Slices -/

/-- A bound of a slice within a row of `n` items: counted from the end if it is negative, and moved
to the nearest place that there is. -/
def clampBound (n : Int) (forward : Bool) (b : Int) : Int :=
  -- Backwards, the place in front of the first item is one to stop at.
  let low : Int := if forward then 0 else -1
  let high : Int := if forward then n else n - 1
  let b := if b < 0 then b + n else b
  if b < low then low else if high < b then high else b

/-- The indices of a slice of a row of `n` items, for a step that is not zero. -/
def sliceIndices (n : Nat) (start stop : Option Int) (step : Int) : List Nat :=
  let forward := 0 < step
  let first := match start with
    | some b => clampBound n forward b
    | none => if forward then 0 else (n : Int) - 1
  let last := match stop with
    | some b => clampBound n forward b
    | none => if forward then (n : Int) else -1
  (List.range (Value.rangeLength first last step)).map fun (i : Nat) => (first + step * i).toNat

/-- The items at some indices. -/
def pick {α : Type} (xs : List α) (indices : List Nat) : List α :=
  let row := xs.toArray
  indices.filterMap fun i => row[i]?

/-- A bound of a slice as a number. -/
def sliceBound : Value → Except Fault (Option Int)
  | .none => pure none
  | v =>
    match v.integer? with
    | some n => pure (some n)
    | none => throw .badSliceBound

/-- The slice of a row. -/
def sliceRow {α : Type} (xs : List α) (start stop step : Value) : Except Fault (List α) := do
  let step ← sliceBound step
  if step == some 0 then throw .zeroSliceStep
  let start ← sliceBound start
  let stop ← sliceBound stop
  return pick xs (sliceIndices xs.length start stop (step.getD 1))

/-- The slice of a range, which is a range. -/
def sliceRange (a b c : Int) (start stop step : Value) : Except Fault Value := do
  let step ← sliceBound step
  if step == some 0 then throw .zeroSliceStep
  let start ← sliceBound start
  let stop ← sliceBound stop
  let step := step.getD 1
  let n := Value.rangeLength a b c
  let forward := 0 < step
  let first := match start with
    | some x => clampBound n forward x
    | none => if forward then 0 else (n : Int) - 1
  let last := match stop with
    | some x => clampBound n forward x
    | none => if forward then (n : Int) else -1
  return .range (a + c * first) (a + c * last) (c * step)

/-- The slice of a value. -/
def sliceOf (v start stop step : Value) : Except Fault Value := do
  match v with
  | .string s => return .string (String.ofList (← sliceRow s.toList start stop step))
  | .markup s => return .markup (String.ofList (← sliceRow s.toList start stop step))
  | .list xs => return .list (← sliceRow xs start stop step)
  | .tuple xs => return .tuple (← sliceRow xs start stop step)
  | .bytes data => return .bytes (← sliceRow data start stop step)
  | .range a b c => sliceRange a b c start stop step
  | .undefined u => throw u.fault
  | _ =>
    if v.entries?.isSome then throw (.unhashable "slice")
    else throw (.notSubscriptable v.kindName)

end FieldRules.Expr
