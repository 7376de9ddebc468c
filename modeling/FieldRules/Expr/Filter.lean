import FieldRules.Expr.Test
import FieldRules.Text.Split

/-!
# Filters

The filters that an expression may send a value through with a bar. Most have a fixed signature; `map`,
`select` and `reject` apply a filter or a test, which they get by name, to every item.
-/

namespace FieldRules.Expr

/-- A filter: its signature, and what it gives for the values of its parameters. `strict` says what
sort of undefined value it gives where there is none to give. -/
structure Filter where
  signature : Signature
  apply : Bool → List Value → Except Fault Value

namespace Filter

/-! ## Texts -/

/-- Changes the text of a value, which stays safe if it was. -/
def mapText (f : List Char → List Char) (v : Value) : Except Fault Value := do
  match v with
  | .markup s => return .markup (String.ofList (f s.toList))
  | _ => return .string (String.ofList (f (← v.text).toList))

/-- A character at which a word of a title begins anew. -/
def isWordBreak (c : Char) : Bool :=
  c == '-' || Text.isBlank c || c == '(' || c == '\x7b' || c == '[' || c == '<'

/-- A word with its first character in upper case and the others in lower case. -/
def titleWord : List Char → List Char
  | [] => []
  | c :: rest => Text.upperChar c ++ Text.lower rest

/-- A text with every word as in a title. -/
def titleWords (s : List Char) : List Char :=
  ((s.splitBy fun a b => isWordBreak a == isWordBreak b).map titleWord).flatten

/-- The text as it stands in a document. -/
def escape (v : Value) : Except Fault Value := do
  match v with
  | .markup s => return .markup s
  | _ => return .markup (Value.escapeText (← v.text))

/-- The text of a value, which stays as it is if it is a text. -/
def string (v : Value) : Except Fault Value := do
  match v with
  | .string s => return .string s
  | .markup s => return .markup s
  | _ => return .string (← v.text)

/-- The text with a part replaced, at most a number of times. -/
def replace (v old new count : Value) : Except Fault Value := do
  let s := (← v.text).toList
  let old := (← old.text).toList
  let new := (← new.text).toList
  let most ← match count with
    | .none => pure (-1)
    | n =>
      match n.integer? with
      | some n => pure n
      | none => throw (.notInteger count.kindName)
  let limit := if most < 0 then s.length + 1 else most.toNat
  return .string (String.ofList (Text.replaceAtMost old new limit s))

/-- The text without blanks or the given characters at its ends. -/
def trim (v chars : Value) : Except Fault Value := do
  match chars with
  | .none => mapText Text.trim v
  | c =>
    match c.text? with
    | some s => mapText (Text.strip fun c => s.toList.contains c) v
    | none => throw (.wrongArguments "strip arg must be None or str")

/-! ## Numbers -/

/-- Whether a fault is one that reading a number may answer for. -/
def isReadingFault (f : Fault) : Bool :=
  f.family == .wrongType || f.family == .badValue

/-- The digits of an integer in a base, single underscores between them left out. -/
def readDigits (base : Nat) (after : Bool) : List Char → Option (List Nat)
  | [] => if after then some [] else none
  | '_' :: rest => if after then readDigits base false rest else none
  | c :: rest =>
    let value? := match Text.decimalValue? c with
      | some d => some d
      | none => if Text.isAsciiLetter c then some (c.toLower.toNat - 87) else none
    match value? with
    | some d => if d < base then (readDigits base true rest).map (d :: ·) else none
    | none => none

/-- The base that a mark such as `0x` stands for. -/
def markedBase? : List Char → Option Nat
  | '0' :: c :: _ =>
    if c == 'x' || c == 'X' then some 16
    else if c == 'o' || c == 'O' then some 8
    else if c == 'b' || c == 'B' then some 2
    else none
  | _ => none

/-- Reads an integer in a base other than ten; in the base zero the mark decides. -/
def readInBase? (base : Nat) (s : List Char) : Option Int := do
  let (negative, body) := Number.takeSign (Text.trim s)
  let mark? := markedBase? body
  let (base, body, after) := match mark? with
    | some m => if base == 0 || base == m then (m, body.drop 2, true) else (base, body, false)
    | none => (if base == 0 then 10 else base, body, false)
  let digits ← readDigits base after body
  if digits.isEmpty then none
  let n : Nat := digits.foldl (fun n d => n * base + d) 0
  return if negative then -(n : Int) else n

/-- A value as an integer, where a text is read in a base. -/
def integerIn (v base : Value) : Except Fault Int :=
  match v.text? with
  | none => v.toInteger
  | some s =>
    match base.integer? with
    | none => throw (.notInteger base.kindName)
    | some 10 => v.toInteger
    | some b =>
      if b == 0 || (2 ≤ b && b ≤ 36) then
        match readInBase? b.toNat s.toList with
        | some n => pure n
        | none => throw (.integerText v.quoted)
      else throw (.badArgument "int() base must be >= 2 and <= 36, or 0")

/-- A value as an integer: as one, else by way of a floating-point number, else the default. -/
def toInt (v default base : Value) : Except Fault Value :=
  match integerIn v base with
  | .ok n => pure (.int n)
  | .error f =>
    if !isReadingFault f then throw f
    else
      -- Here an infinite number gives the default. One that is no text has failed above.
      match v.toFloat.bind Value.truncate with
      | .ok n => pure (.int n)
      | .error f => if isReadingFault f || f.family == .tooLarge then pure default else throw f

/-- A value as a floating-point number, else the default. -/
def toFloat (v default : Value) : Except Fault Value :=
  match v.toFloat with
  | .ok x => pure (.float x)
  | .error f => if isReadingFault f then pure default else throw f

/-- An integer rounded to a power of ten, a half to the even one. -/
def roundInt (n places : Int) : Int :=
  if 0 ≤ places then n
  else
    let unit := Nat.pow 10 places.natAbs
    let q : Int := Number.Binary.roundHalfEven n.natAbs unit * unit
    if n < 0 then -q else q

/-- A floating-point number rounded to a number of places. -/
def roundFloat (x : Float) (places : Int) : Float :=
  if 323 < places then x
  else if places < -308 then (if Number.signBit x then -0.0 else 0.0)
  else Number.roundPlaces x places

/-- A value rounded to the nearest number with that many places. -/
def roundNearest (v places : Value) : Except Fault Value :=
  match v, v.integer?, places.integer? with
  | _, some n, some p => pure (.int (roundInt n p))
  | .float x, _, some p => pure (.float (roundFloat x p))
  | .float x, _, none =>
    match places with
    | .none => do return .int (← Value.truncate (roundFloat x 0))
    | _ => throw (.notInteger places.kindName)
  | _, some n, none =>
    match places with
    | .none => pure (.int n)
    | _ => throw (.notInteger places.kindName)
  | _, _, _ => throw (.noRounding v.kindName)

/-- A value rounded up or down to a number of places. -/
def roundToward (up : Bool) (v places : Value) : Except Fault Value := do
  let scale ← Value.operate .power (.int 10) places
  let scaled ← Value.operate .multiply v scale
  let n ← match scaled, scaled.integer? with
    | _, some n => pure n
    | .float x, _ => Value.truncate (if up then x.ceil else x.floor)
    | w, _ => throw (.formatNeedsReal w.kindName)
  Value.operate .divide (.int n) scale

/-- A value rounded by one of the three methods. -/
def round (v places method : Value) : Except Fault Value :=
  match method.text? with
  | some "common" => roundNearest v places
  | some "ceil" => roundToward true v places
  | some "floor" => roundToward false v places
  | _ => throw (.badFilterArgument "method must be common, ceil or floor")

/-- The magnitude of a number. -/
def magnitude (v : Value) : Except Fault Value :=
  match v, v.integer? with
  | .float x, _ => pure (.float x.abs)
  | _, some n => pure (.int n.natAbs)
  | _, _ => throw (.noMagnitude v.kindName)

/-! ## Rows -/

/-- A value as it counts in a comparison without regard to case. -/
def ignoreCase (sensitive : Bool) (v : Value) : Value :=
  if sensitive then v
  else match v.text? with
    | some s => .string (String.ofList (Text.lower s.toList))
    | none => v

/-- The parts of the path to an attribute. -/
def pathParts (path : Value) : List Value :=
  match path with
  | .none => []
  | _ =>
    match path.text? with
    | none => [path]
    | some s => (Text.splitAll ['.'] s.toList).map fun part =>
        if !part.isEmpty && part.all Text.isDigit then
          match Number.readInt part with
          | .value n => .int n
          | _ => .string (String.ofList part)
        else .string (String.ofList part)

/-- What is found at the end of a path. -/
def follow (strict : Bool) (v : Value) : List Value → Except Fault Value
  | [] => pure v
  | part :: rest => do follow strict (← itemOf strict v part) rest

/-- The items with what they are compared by. -/
def keyed (strict sensitive : Bool) (path : Value) (items : List Value) :
    Except Fault (List (Value × Value)) :=
  items.mapM fun v => do
    return (ignoreCase sensitive (← follow strict v (pathParts path)), v)

/-- Puts an item behind those that it is not less than; the row is given from its end. -/
def insertFromEnd (x : Value × Value) : List (Value × Value) →
    Except Fault (List (Value × Value))
  | [] => pure [x]
  | y :: rest => do
    -- Keys are compared as rows of one, so equal ones need no order.
    if !Value.equal x.1 y.1 && (← Value.compareBy .less x.1 y.1) then
      return y :: (← insertFromEnd x rest)
    return x :: y :: rest

/-- The items in ascending order; equal ones keep theirs. -/
def sortKeyed (items : List (Value × Value)) : Except Fault (List (Value × Value)) := do
  return (← items.foldlM (fun sorted x => insertFromEnd x sorted) []).reverse

/-- The items in order. -/
def sort (strict : Bool) (v backwards sensitive path : Value) : Except Fault Value := do
  let items ← keyed strict (← sensitive.truth) path (← v.items)
  if ← backwards.truth then
    -- Turned around twice, equal items keep their order here as well.
    return .list ((← sortKeyed items.reverse).reverse.map Prod.snd)
  return .list ((← sortKeyed items).map Prod.snd)

/-- The first item that no later one goes before, in the sense of a comparison. -/
def best (c : Comparison) (x : Value × Value) : List (Value × Value) → Except Fault Value
  | [] => pure x.2
  | y :: rest => do best c (if ← Value.compareBy c y.1 x.1 then y else x) rest

/-- The least or the greatest item. -/
def extreme (c : Comparison) (strict : Bool) (v sensitive path : Value) : Except Fault Value := do
  match ← keyed strict (← sensitive.truth) path (← v.items) with
  | [] => return undefinedWith strict "No aggregated item, sequence was empty."
  | x :: rest => best c x rest

/-- The sum of the items. -/
def sum (strict : Bool) (v path start : Value) : Except Fault Value := do
  if start.text?.isSome then
    throw (.wrongArguments "sum() can't sum strings [use ''.join(seq) instead]")
  let items ← (← v.items).mapM fun x => follow strict x (pathParts path)
  items.foldlM (Value.operate .add) start

/-- The first item. -/
def first (strict : Bool) (v : Value) : Except Fault Value := do
  match v with
  | .stream _ (x :: _) _ => return x
  | _ =>
    match ← v.items with
    | x :: _ => return x
    | [] => return undefinedWith strict "No first item, sequence was empty."

/-- The last item. -/
def last (strict : Bool) (v : Value) : Except Fault Value := do
  match ← v.reversedItems with
  | x :: _ => return x
  | [] => return undefinedWith strict "No last item, sequence was empty."

/-- The texts of the items, joined. -/
def join (strict : Bool) (v separator path : Value) : Except Fault Value := do
  let s := (← separator.text)
  let items ← (← v.items).mapM fun x => do (← follow strict x (pathParts path)).text
  return .string (s.intercalate items)

/-- The kind of what goes through a value from its end. -/
def reverseKind : Value → String
  | .list _ => "list_reverseiterator"
  | .range .. => "range_iterator"
  | v => if v.entries?.isSome then "dict_reversekeyiterator" else "reversed"

/-- The items from the last to the first; a text stays a text. -/
def reverse (v : Value) : Except Fault Value :=
  match v with
  | .string s => pure (.string (String.ofList s.toList.reverse))
  | .markup s => pure (.markup (String.ofList s.toList.reverse))
  | _ =>
    match v.reversedItems with
    | .ok items => pure (.stream (reverseKind v) items none)
    | .error (.undefinedValue t) => throw (.undefinedValue t)
    | .error _ =>
      match v.items with
      | .ok items => pure (.list items.reverse)
      | .error _ => throw (.badFilterArgument "argument must be iterable")

/-- The items whose keys are not equal to an earlier one. -/
def uniqueItems (seen : List Value) : List (Value × Value) → Except Fault (List Value)
  | [] => pure []
  | (k, v) :: rest => do
    k.checkKey
    if Value.isIn k seen then uniqueItems seen rest
    else return v :: (← uniqueItems (k :: seen) rest)

/-- A row that is gone through later: its items, or the fault that comes up then. -/
def later (items : Except Fault (List Value)) : Value :=
  match items with
  | .ok xs => .stream "generator" xs none
  | .error f => .stream "generator" [] (some f)

/-- The items without repetitions. -/
def unique (strict : Bool) (v sensitive path : Value) : Except Fault Value :=
  pure (later do uniqueItems [] (← keyed strict (← sensitive.truth) path (← v.items)))

/-- Rows of some items each, the open one given from its end. -/
def batches (size : Value) (open_ : List Value) : List Value → List (List Value)
  | [] => if open_.isEmpty then [] else [open_.reverse]
  | x :: rest =>
    if Value.equal (.int open_.length) size then open_.reverse :: batches size [x] rest
    else batches size (x :: open_) rest

/-- A row filled up to a size. -/
def fillUp (size filling : Value) (row : List Value) : List Value :=
  match filling, size.integer? with
  | .none, _ => row
  | _, some n => row ++ List.replicate (n - row.length).toNat filling
  | _, none => row

/-- The items in rows of some each, the last one filled up if there is something to fill it with. -/
def batch (v size filling : Value) : Except Fault Value :=
  pure (later do
    let rows := batches size [] (← v.items)
    return rows.map fun r => .list (fillUp size filling r))

/-! ## The table -/

/-- A required parameter. -/
def required (name : String) : Parameter := ⟨name, none⟩

/-- A parameter with a default. -/
def optional (name : String) (v : Value) : Parameter := ⟨name, some v⟩

/-- A filter of a value alone. -/
def ofValue (callee parameter : String) (f : Value → Except Fault Value) : Filter :=
  ⟨⟨callee, 0, [required parameter]⟩, fun _ vs =>
    match vs with
    | [v] => f v
    | _ => pure .none⟩

/-- A filter that counts items. -/
def length : Filter :=
  ofValue "len" "obj" fun v => do return .int (← v.length)

/-- A filter that puts a default in the place of what is missing. -/
def default : Filter :=
  ⟨⟨"do_default", 0, [required "value", optional "default_value" (.string ""),
    optional "boolean" (.bool false)]⟩, fun _ vs =>
    match vs with
    | [v, d, boolean] => do
      if !v.isDefined then return d
      if ← boolean.truth then return if ← v.truth then v else d
      return v
    | _ => pure .none⟩

/-- All filters with a fixed signature by their names. -/
def table : List (String × Filter) :=
  [ ("upper", ofValue "do_upper" "s" (mapText Text.upper)),
    ("lower", ofValue "do_lower" "s" (mapText Text.lower)),
    ("capitalize", ofValue "do_capitalize" "s" (mapText Text.capitalize)),
    ("title", ofValue "do_title" "s" fun v => do
      return .string (String.ofList (titleWords (← v.text).toList))),
    ("length", length),
    ("count", length),
    ("default", default),
    ("d", default),
    ("abs", ofValue "abs" "x" magnitude),
    ("e", ofValue "escape" "s" escape),
    ("escape", ofValue "escape" "s" escape),
    ("safe", ofValue "do_mark_safe" "value" fun v => do return .markup (← v.text)),
    ("string", ofValue "soft_str" "s" string),
    ("list", ofValue "sync_do_list" "value" fun v => do return .list (← v.items)),
    ("reverse", ofValue "do_reverse" "value" reverse),
    ("trim", ⟨⟨"do_trim", 0, [required "value", optional "chars" .none]⟩, fun _ vs =>
      match vs with
      | [v, chars] => trim v chars
      | _ => pure .none⟩),
    ("replace", ⟨⟨"do_replace", 1, [required "s", required "old", required "new",
        optional "count" .none]⟩, fun _ vs =>
      match vs with
      | [v, old, new, count] => replace v old new count
      | _ => pure .none⟩),
    ("int", ⟨⟨"do_int", 0, [required "value", optional "default" (.int 0),
        optional "base" (.int 10)]⟩, fun _ vs =>
      match vs with
      | [v, d, base] => toInt v d base
      | _ => pure .none⟩),
    ("float", ⟨⟨"do_float", 0, [required "value", optional "default" (.float 0.0)]⟩, fun _ vs =>
      match vs with
      | [v, d] => toFloat v d
      | _ => pure .none⟩),
    ("round", ⟨⟨"do_round", 0, [required "value", optional "precision" (.int 0),
        optional "method" (.string "common")]⟩, fun _ vs =>
      match vs with
      | [v, places, method] => round v places method
      | _ => pure .none⟩),
    ("first", ⟨⟨"sync_do_first", 1, [required "seq"]⟩, fun strict vs =>
      match vs with
      | [v] => first strict v
      | _ => pure .none⟩),
    ("last", ⟨⟨"do_last", 1, [required "seq"]⟩, fun strict vs =>
      match vs with
      | [v] => last strict v
      | _ => pure .none⟩),
    ("join", ⟨⟨"sync_do_join", 1, [required "value", optional "d" (.string ""),
        optional "attribute" .none]⟩, fun strict vs =>
      match vs with
      | [v, d, path] => join strict v d path
      | _ => pure .none⟩),
    ("sort", ⟨⟨"do_sort", 1, [required "value", optional "reverse" (.bool false),
        optional "case_sensitive" (.bool false), optional "attribute" .none]⟩, fun strict vs =>
      match vs with
      | [v, backwards, sensitive, path] => sort strict v backwards sensitive path
      | _ => pure .none⟩),
    ("sum", ⟨⟨"sync_do_sum", 1, [required "iterable", optional "attribute" .none,
        optional "start" (.int 0)]⟩, fun strict vs =>
      match vs with
      | [v, path, start] => sum strict v path start
      | _ => pure .none⟩),
    ("min", ⟨⟨"do_min", 1, [required "value", optional "case_sensitive" (.bool false),
        optional "attribute" .none]⟩, fun strict vs =>
      match vs with
      | [v, sensitive, path] => extreme .less strict v sensitive path
      | _ => pure .none⟩),
    ("max", ⟨⟨"do_max", 1, [required "value", optional "case_sensitive" (.bool false),
        optional "attribute" .none]⟩, fun strict vs =>
      match vs with
      | [v, sensitive, path] => extreme .greater strict v sensitive path
      | _ => pure .none⟩),
    ("unique", ⟨⟨"sync_do_unique", 1, [required "value", optional "case_sensitive" (.bool false),
        optional "attribute" .none]⟩, fun strict vs =>
      match vs with
      | [v, sensitive, path] => unique strict v sensitive path
      | _ => pure .none⟩),
    ("batch", ⟨⟨"do_batch", 0, [required "value", required "linecount",
        optional "fill_with" .none]⟩, fun _ vs =>
      match vs with
      | [v, size, filling] => batch v size filling
      | _ => pure .none⟩) ]

/-- The filters that apply others by their names. -/
def higherNames : List String := ["map", "select", "reject"]

/-- Whether there is a filter of that name. -/
def isKnown (name : String) : Bool :=
  (table.lookup name).isSome || higherNames.contains name

/-- Whether a filter may be worked out before the names have their values. -/
def isFoldable (name : String) : Bool :=
  (table.lookup name).isSome

/-- Applies a function to items up to the first fault. -/
def mapItems (f : Value → Except Fault Value) : List Value → List Value × Option Fault
  | [] => ([], none)
  | x :: rest =>
    match f x with
    | .error e => ([], some e)
    | .ok y =>
      let (ys, fault?) := mapItems f rest
      (y :: ys, fault?)

/-- Keeps the items that pass a test, up to the first fault. -/
def keepItems (p : Value → Except Fault Bool) : List Value → List Value × Option Fault
  | [] => ([], none)
  | x :: rest =>
    match p x with
    | .error e => ([], some e)
    | .ok keep =>
      let (ys, fault?) := keepItems p rest
      (if keep then x :: ys else ys, fault?)

/-- The fault of a name that names no filter. -/
def unknownFault (name : Value) : Fault :=
  match name with
  | .undefined u => .unknownFilter (s!"Undefined. ({u.fault.message}; "
      ++ "did you forget to quote the callable name?)")
  | v => .unknownFilter v.quoted

/-- The items of a value that counts as true, none of any other. -/
def itemsIfTrue (v : Value) : Except Fault (List Value) := do
  if ← v.truth then v.items else return []

/-- A row that is gone through later: items and the fault behind them. -/
def laterWith (items : Except Fault (List Value))
    (f : List Value → List Value × Option Fault) : Value :=
  match items with
  | .ok xs =>
    let (ys, fault?) := f xs
    .stream "generator" ys fault?
  | .error e => .stream "generator" [] (some e)

/-- The attribute of every item, with a default for those that have none. -/
def mapAttribute (strict : Bool) (v : Value) (named : List (String × Value)) : Value :=
  let path := (named.lookup "attribute").getD .none
  let default := (named.lookup "default").getD .none
  let rest := named.filter fun (k, _) => k != "attribute" && k != "default"
  match rest with
  | (k, _) :: _ =>
    laterWith (do
      let items ← itemsIfTrue v
      if items.isEmpty then return []
      throw (.badFilterArgument s!"Unexpected keyword argument {Text.quoteString k}"))
      fun xs => (xs, none)
  | [] =>
    laterWith (itemsIfTrue v) (mapItems fun x => do
      let w ← follow strict x (pathParts path)
      return match w, default with
        | .undefined _, .none => w
        | .undefined _, d => d
        | _, _ => w)

/-- The test that `select` puts to an item: one by its name, or whether it counts as true. -/
def itemTest (args : List Value) (named : List (String × Value)) (x : Value) : Except Fault Bool :=
  match args with
  | [] => x.truth
  | name :: rest =>
    match name.text?.bind fun n => ValueTest.run? n x rest named with
    | some r => r
    | none => throw (.unknownTest name.quoted)

/-- Sends a value through the filter of the given name. -/
def run (strict : Bool) (name : String) (v : Value) (args : List Value)
    (named : List (String × Value)) : Except Fault Value :=
  match table.lookup name, args with
  | some f, _ => do f.apply strict (← f.signature.bind (v :: args) named)
  | none, inner :: rest =>
    if name == "map" then
      pure (laterWith (itemsIfTrue v) (mapItems fun x =>
        match inner.text? with
        | some n => if isKnown n then run strict n x rest named else throw (unknownFault inner)
        | none => throw (unknownFault inner)))
    else if name == "select" then
      pure (laterWith (itemsIfTrue v) (keepItems (itemTest (inner :: rest) named)))
    else if name == "reject" then
      pure (laterWith (itemsIfTrue v) (keepItems fun x => do
        return !(← itemTest (inner :: rest) named x)))
    else throw (.missingFilter (Text.quoteString name))
  | none, [] =>
    if name == "map" then
      if (named.lookup "attribute").isSome then pure (mapAttribute strict v named)
      else pure (laterWith (do
        let items ← itemsIfTrue v
        if items.isEmpty then return []
        throw (.badFilterArgument "map requires a filter argument")) fun xs => (xs, none))
    else if name == "select" then pure (laterWith (itemsIfTrue v) (keepItems (itemTest [] named)))
    else if name == "reject" then
      pure (laterWith (itemsIfTrue v) (keepItems fun x => do return !(← itemTest [] named x)))
    else throw (.missingFilter (Text.quoteString name))
termination_by structural args

end Filter

end FieldRules.Expr
