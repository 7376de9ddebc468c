import FieldRules.Expr.Arguments
import FieldRules.Text.Case
import FieldRules.Text.Identifier
import FieldRules.Text.Split
import FieldRules.Value.Format

/-!
# Methods

Calls of the methods of values: of texts, dictionaries, numbers and rows. A method that would change its
value has no effect, for a value stays what it is.
-/

namespace FieldRules.Expr.Method

/-- Refuses a number of arguments beyond what a method takes. -/
def checkCount (name : String) (least most given : Nat) : Except Fault Unit :=
  if given < least then
    let bound := if least == most then "" else "at least "
    throw (.wrongArguments s!"{name} expected {bound}{least} argument{plural least}, got {given}")
  else if most < given then
    let bound := if least == most then "" else "at most "
    throw (.wrongArguments s!"{name} expected {bound}{most} argument{plural most}, got {given}")
  else pure ()

/-- Refuses any argument. -/
def checkNone (kind name : String) (given : Nat) : Except Fault Unit :=
  if given == 0 then pure ()
  else throw (.wrongArguments s!"{kind}.{name}() takes no arguments ({given} given)")

/-- Refuses arguments by name. -/
def checkUnnamed (kind name : String) (named : List (String × Value)) : Except Fault Unit :=
  if named.isEmpty then pure ()
  else throw (.wrongArguments s!"{kind}.{name}() takes no keyword arguments")

/-- An integer argument. -/
def integerArgument (v : Value) : Except Fault Int :=
  match v.integer? with
  | some n => pure n
  | none => throw (.notInteger v.kindName)

/-- A text argument of a method at a place. -/
def textArgument (name : String) (place : Nat) (v : Value) : Except Fault (List Char) :=
  match v.text? with
  | some s => pure s.toList
  | none => throw (.wrongArguments s!"{name}() argument {place} must be str, not {v.kindName}")

/-- A text with the first character of every word in title case and the others in lower case. -/
def titleText (after : Bool) : List Char → List Char
  | [] => []
  | c :: rest =>
    let cased := Text.isUpperChar c || Text.isLowerChar c || Text.titlecaseTable.contains c
    (if after then Text.lowerChar c else Text.titleChar c) ++ titleText cased rest

/-- A text with upper and lower case exchanged. -/
def swapCase (s : List Char) : List Char :=
  s.flatMap fun c =>
    if Text.isUpperChar c then Text.lowerChar c
    else if Text.isLowerChar c then Text.upperChar c
    else [c]

/-- The characters to strip: those of a text, or blanks. -/
def stripClass (name : String) : List Value → Except Fault (Char → Bool)
  | [] => pure Text.isBlank
  | .none :: _ => pure Text.isBlank
  | v :: _ =>
    match v.text? with
    | some s => pure fun c => s.toList.contains c
    | none => throw (.wrongArguments s!"{name} arg must be None or str")

/-- How often a part may be cut at; a negative number sets no limit. -/
def limitOf (s : List Char) (n : Int) : Nat :=
  if n < 0 then s.length + 1 else n.toNat

/-- Splits a text at a separator or at blanks. -/
def split (s : List Char) (separator : Value) (most : Int) : Except Fault (List (List Char)) :=
  match separator with
  | .none => pure (Text.splitBlanks Text.isBlank (limitOf s most) s)
  | v =>
    match v.text? with
    | none => throw (.wrongArguments s!"must be str or None, not {v.kindName}")
    | some part =>
      if part.isEmpty then throw (.badArgument "empty separator")
      else pure (Text.splitAtMost part.toList (limitOf s most) s)

/-- The texts that a text is asked to start or end with. -/
def affixes (name : String) (v : Value) : Except Fault (List (List Char)) :=
  match v, v.text? with
  | _, some s => pure [s.toList]
  | .tuple items, _ => items.mapM fun x =>
    match x.text? with
    | some s => pure s.toList
    | none => throw (.wrongArguments s!"tuple for {name} must only contain str, not {x.kindName}")
  | _, _ => throw (.wrongArguments
      s!"{name} first arg must be str or a tuple of str, not {v.kindName}")

/-- How often a part stands in a text without overlapping. -/
def countParts (part s : List Char) : Nat :=
  if part.isEmpty then s.length + 1 else (Text.splitAll part s).length - 1

/-- The place where a part stands first. -/
def findPart? (part s : List Char) : Option Nat :=
  (Text.cutAt? part s).map fun (before, _) => before.length

/-- The text of each item of a row, which has to be texts. -/
def joinedItems (index : Nat) : List Value → Except Fault (List (List Char))
  | [] => pure []
  | v :: rest =>
    match v.text? with
    | some s => do return s.toList :: (← joinedItems (index + 1) rest)
    | none => throw (.wrongArguments
        s!"sequence item {index}: expected str instance, {v.kindName} found")

/-- A text filled up to a width on both sides. -/
def fillText (left right : Nat) (fill : Char) (s : List Char) : List Char :=
  List.replicate left fill ++ s ++ List.replicate right fill

/-- The methods that make a text of a text alone. -/
def transforms : List (String × (List Char → List Char)) :=
  [("upper", Text.upper), ("lower", Text.lower), ("capitalize", Text.capitalize),
    ("casefold", Text.fold), ("title", titleText false), ("swapcase", swapCase)]

/-- The methods that ask whether all characters of a text are in a class, and there is one. -/
def classTests : List (String × (List Char → Bool)) :=
  let all (p : Char → Bool) : List Char → Bool := fun s => !s.isEmpty && s.all p
  [("isdigit", all Text.isDigit), ("isdecimal", all Text.isDecimal), ("isalpha", all Text.isAlpha),
    ("isalnum", all Text.isAlnum), ("isspace", all Text.isBlank), ("isupper", Text.isUpper),
    ("islower", Text.isLower), ("isascii", fun s => s.all fun c => c.toNat < 128),
    ("isidentifier", Text.isIdentifier)]

/-- The arguments of `split` from those by place and by name. -/
def splitArguments (args : List Value) (named : List (String × Value)) :
    Except Fault (Value × Int) := do
  let values ← (Signature.mk "split" 0
    [⟨"sep", some .none⟩, ⟨"maxsplit", some (.int (-1))⟩]).bind args named
  match values with
  | [separator, most] => return (separator, ← integerArgument most)
  | _ => return (.none, -1)

/-- Calls a method of a text. `wrap` makes a text of the same kind. -/
def callText (wrap : String → Value) (s : List Char) (name : String) (args : List Value)
    (named : List (String × Value)) : Except Fault Value := do
  let text (cs : List Char) := wrap (String.ofList cs)
  if name == "split" then
    let (separator, most) ← splitArguments args named
    return .list ((← split s separator most).map text)
  checkUnnamed "str" name named
  match transforms.lookup name, classTests.lookup name with
  | some f, _ =>
    checkNone "str" name args.length
    return text (f s)
  | _, some p =>
    checkNone "str" name args.length
    return .bool (p s)
  | _, _ =>
    match name, args with
    | "strip", _ =>
      checkCount name 0 1 args.length
      return text (Text.strip (← stripClass name args) s)
    | "lstrip", _ =>
      checkCount name 0 1 args.length
      return text (Text.stripLeft (← stripClass name args) s)
    | "rstrip", _ =>
      checkCount name 0 1 args.length
      return text (Text.stripRight (← stripClass name args) s)
    | "replace", _ =>
      checkCount name 2 3 args.length
      match args with
      | old :: new :: rest =>
        let old ← textArgument name 1 old
        let new ← textArgument name 2 new
        let most ← match rest with
          | [] => pure (-1)
          | n :: _ => integerArgument n
        return text (Text.replaceAtMost old new (limitOf s most) s)
      | _ => return text s
    | "startswith", [] | "endswith", [] =>
      throw (.wrongArguments s!"{name}() takes at least 1 argument (0 given)")
    | "startswith", v :: _ =>
      return .bool ((← affixes name v).any fun p => p.isPrefixOf s)
    | "endswith", v :: _ =>
      return .bool ((← affixes name v).any fun p => p.isSuffixOf s)
    | "join", [v] =>
      let items ← match v.items with
        | .ok items => pure items
        | .error _ => throw (.wrongArguments "can only join an iterable")
      return text ((← joinedItems 0 items).intersperse s).flatten
    | "count", v :: _ => return .int (countParts (← textArgument name 1 v) s)
    | "find", v :: _ =>
      return .int (((findPart? (← textArgument name 1 v) s).map Int.ofNat).getD (-1))
    | "index", v :: _ =>
      match findPart? (← textArgument name 1 v) s with
      | some n => return .int n
      | none => throw (.badArgument "substring not found")
    | "zfill", [v] =>
      let gap := ((← integerArgument v) - s.length).toNat
      match s with
      | '-' :: rest => return text ('-' :: fillText gap 0 '0' rest)
      | '+' :: rest => return text ('+' :: fillText gap 0 '0' rest)
      | _ => return text (fillText gap 0 '0' s)
    | "ljust", [v] => return text (fillText 0 ((← integerArgument v) - s.length).toNat ' ' s)
    | "rjust", [v] => return text (fillText ((← integerArgument v) - s.length).toNat 0 ' ' s)
    | "removeprefix", [v] =>
      let part ← textArgument name 1 v
      return text (if part.isPrefixOf s then s.drop part.length else s)
    | "removesuffix", [v] =>
      let part ← textArgument name 1 v
      return text (if part.isSuffixOf s then s.take (s.length - part.length) else s)
    | "partition", [v] =>
      let part ← textArgument name 1 v
      if part.isEmpty then throw (.badArgument "empty separator")
      match Text.cutAt? part s with
      | some (before, after) => return .tuple [text before, text part, text after]
      | none => return .tuple [text s, text [], text []]
    | _, _ => throw (.notCallable name)

/-- Calls a method of a dictionary. -/
def callDict (entries : List (Value × Value)) (name : String) (args : List Value)
    (named : List (String × Value)) : Except Fault Value := do
  checkUnnamed "dict" name named
  match name, args with
  | "get", _ =>
    checkCount name 1 2 args.length
    match args with
    | key :: rest =>
      key.checkKey
      return (Value.lookup? key entries).getD (rest.headD .none)
    | [] => return .none
  | "keys", _ =>
    checkNone "dict" name args.length
    return .view .keys entries
  | "values", _ =>
    checkNone "dict" name args.length
    return .view .values entries
  | "items", _ =>
    checkNone "dict" name args.length
    return .view .items entries
  | "copy", _ =>
    checkNone "dict" name args.length
    return .dict entries
  | "pop", key :: rest =>
    key.checkKey
    match Value.lookup? key entries, rest with
    | some v, _ => return v
    | none, v :: _ => return v
    | none, [] => throw (.missingKey key.quoted)
  | "setdefault", key :: rest =>
    key.checkKey
    return (Value.lookup? key entries).getD (rest.headD .none)
  | "update", _ | "clear", _ => return .none
  | _, _ => throw (.notCallable name)

/-- How many binary digits an integer has. -/
def bitLength (n : Int) : Nat :=
  if n == 0 then 0 else n.natAbs.log2 + 1

/-- Calls a method of an integer. -/
def callInt (n : Int) (name : String) (args : List Value) (named : List (String × Value)) :
    Except Fault Value := do
  checkUnnamed "int" name named
  checkNone "int" name args.length
  match name with
  | "bit_length" => return .int (bitLength n)
  | "bit_count" => return .int ((Nat.toDigits 2 n.natAbs).count '1')
  | "conjugate" => return .int n
  | "as_integer_ratio" => return .tuple [.int n, .int 1]
  | _ => throw (.notCallable name)

/-- Calls a method of a floating-point number. -/
def callFloat (x : Float) (name : String) (args : List Value) (named : List (String × Value)) :
    Except Fault Value := do
  checkUnnamed "float" name named
  checkNone "float" name args.length
  match name with
  | "is_integer" => return .bool (x.isFinite && x.floor == x)
  | "conjugate" => return .float x
  | _ => throw (.notCallable name)

/-- Calls a method of a row of values. -/
def callRow (kind : String) (items : List Value) (name : String) (args : List Value)
    (named : List (String × Value)) : Except Fault Value := do
  checkUnnamed kind name named
  match name, args with
  | "count", _ =>
    match args with
    | [v] => return .int (items.filter (Value.equal v)).length
    | _ => throw (.wrongArguments
        s!"{kind}.{name}() takes exactly one argument ({args.length} given)")
  | "index", v :: _ =>
    match items.findIdx? (Value.equal v) with
    | some i => return .int i
    | none => throw (.badArgument (if kind == "list" then s!"{v.quoted} is not in list"
        else s!"{kind}.index(x): x not in {kind}"))
  | "copy", [] => return .list items
  | "pop", [] =>
    match items.getLast? with
    | some v => return v
    | none => throw (.missingKey "pop from empty list")
  | "append", [_] | "extend", [_] | "insert", [_, _] | "remove", [_] | "reverse", [] | "sort", []
  | "clear", [] => return .none
  | _, _ => throw (.notCallable name)

/-- Calls the method of a value with the given name. -/
def call (receiver : Value) (name : String) (args : List Value) (named : List (String × Value)) :
    Except Fault Value :=
  match receiver with
  | .string s => callText .string s.toList name args named
  | .markup s => callText .markup s.toList name args named
  | .bool b => callInt (if b then 1 else 0) name args named
  | .int n => callInt n name args named
  | .float x => callFloat x name args named
  | .list items => callRow "list" items name args named
  | .tuple items => callRow "tuple" items name args named
  | v =>
    match v.entries? with
    | some entries => callDict entries name args named
    | none => throw (.notCallable v.kindName)

/-! ## Functions and classes -/

/-- The most integers that a range may hold. -/
def maxRange : Nat := 100000

/-- The range of one, two or three integers. -/
def makeRange (args : List Value) : Except Fault Value := do
  if args.isEmpty then
    throw (.wrongArguments "range expected at least 1 argument, got 0")
  if 3 < args.length then
    throw (.wrongArguments s!"range expected at most 3 arguments, got {args.length}")
  let ns ← args.mapM integerArgument
  let (start, stop, step) := match ns with
    | [stop] => (0, stop, 1)
    | [start, stop] => (start, stop, 1)
    | start :: stop :: step :: _ => (start, stop, step)
    | [] => (0, 0, 1)
  if step == 0 then throw .rangeZeroStep
  let n := Value.rangeLength start stop step
  if Value.sizeLimit ≤ n then throw .sizeTooLarge
  if maxRange < n then throw .rangeTooBig
  return .range start stop step

/-- What a class gives without arguments. -/
def emptyOf (c : Class) : Except Fault Value :=
  if c = Class.int then pure (.int 0)
  else if c = Class.float then pure (.float 0.0)
  else if c = Class.bool then pure (.bool false)
  else if c = Class.string then pure (.string "")
  else if c = Class.bytes then pure (.bytes [])
  else if c = Class.list then pure (.list [])
  else if c = Class.tuple then pure (.tuple [])
  else if c = Class.set then pure (.set [])
  else if c = Class.dict then pure (.dict [])
  else if c = Class.object then pure .bare
  else pure (.obj c [] [])

/-- A dictionary of the entries of a value and of named values. -/
def makeDict (args : List Value) (named : List (String × Value)) : Except Fault Value := do
  let entries ← match args with
    | [] => pure []
    | [v] => v.toEntries
    | _ => throw (.wrongArguments s!"dict expected at most 1 argument, got {args.length}")
  return .dict (named.foldl (fun acc (k, v) => Value.insertEntry (.string k) v acc) entries)

/-- Calls a class. -/
def callClass (c : Class) (args : List Value) (named : List (String × Value)) :
    Except Fault Value :=
  if c = Class.dict then makeDict args named
  else match args, named with
    | [], [] => emptyOf c
    | [v], [] => v.convertTo c
    | _, (_, _) :: _ => throw (.wrongArguments s!"{c.simpleName}() takes no keyword arguments")
    | _, _ => throw (.wrongArguments
        s!"{c.simpleName} expected at most 1 argument, got {args.length}")

/-- Calls a value. -/
def callValue (f : Value) (args : List Value) (named : List (String × Value)) :
    Except Fault Value :=
  match f with
  | .undefined u => throw u.fault
  | .function "range" =>
    match named with
    | [] => makeRange args
    | (k, _) :: _ => throw (.wrongArguments
        ("safe_range() got an unexpected keyword argument " ++ Text.quoteString k))
  | .method receiver name => call receiver name args named
  | .classRef c => callClass c args named
  | _ => throw (.notCallable f.kindName)

end FieldRules.Expr.Method
