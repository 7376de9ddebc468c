import FieldRules.Number.Text
import FieldRules.Value.Basic

/-!
# Values as text

The written form of a value, in which text is quoted, and its plain text. Only an integer with more
digits than may be written has neither.
-/

namespace FieldRules

namespace Value

/-- An integer as text, if it is not too long. -/
def writeInt (n : Int) : Except Fault String :=
  let text := Number.intText n
  let digits := if n < 0 then text.length - 1 else text.length
  if Number.maxDigits < digits then throw .integerTooLongToWrite else pure (String.ofList text)

/-- A floating-point number as text. -/
def writeFloat (x : Float) : String :=
  String.ofList (Number.floatText x)

/-- The pattern with the flags that it sets itself; the quoted source is cut after 200 characters. -/
def writePattern (p : Regex) : String :=
  let source := String.ofList ((Text.quote p.source.toList).take 200)
  let flags := match p.flags.names with
    | [] => ""
    | names => ", " ++ "|".intercalate names
  s!"re.compile({source}{flags})"

/-- The class as it is written. -/
def writeClass (c : Class) : String :=
  if c = Class.any then c.name.key else "<class '" ++ c.name.key ++ "'>"

/-- The words that go around what a view shows. -/
def View.name : View → String
  | .keys => "dict_keys"
  | .values => "dict_values"
  | .items => "dict_items"

mutual

/-- The written form of a value. -/
def written : Value → Except Fault String
  | none => pure "None"
  | bool b => pure (if b then "True" else "False")
  | int n => writeInt n
  | float x => pure (writeFloat x)
  | string s => pure (Text.quoteString s)
  | markup s => pure s!"Markup({Text.quoteString s})"
  | bytes data => pure (String.ofList (Text.quoteBytes data))
  | pattern p => pure (writePattern p)
  | list items => do return "[" ++ ", ".intercalate (← writtenAll items) ++ "]"
  | tuple items => do
    match ← writtenAll items with
    | [x] => return s!"({x},)"
    | xs => return "(" ++ ", ".intercalate xs ++ ")"
  | set items => do
    match ← writtenAll items with
    | [] => return "set()"
    | xs => return "\x7b" ++ ", ".intercalate xs ++ "\x7d"
  | dict entries => do return "\x7b" ++ ", ".intercalate (← writtenEntries entries) ++ "\x7d"
  | classRef c => pure (writeClass c)
  | obj c _ own => do
    if isDictionaryClass c then
      return "\x7b" ++ ", ".intercalate (← writtenFields own) ++ "\x7d"
    else return s!"<{c.name.qualified} object>"
  | bare => pure s!"<{Class.bareObject.name.qualified} object>"
  | outcome .passed => pure "<Outcome.PASSED: 'passed'>"
  | outcome .rejected => pure "<Outcome.REJECTED: 'rejected'>"
  | range start stop step => do
    if step == 1 then return s!"range({← writeInt start}, {← writeInt stop})"
    else return s!"range({← writeInt start}, {← writeInt stop}, {← writeInt step})"
  | view v entries => do
    let shown ← match v with
      | .keys => writtenKeys entries
      | .values => writtenValues entries
      | .items => writtenPairs entries
    return View.name v ++ "([" ++ ", ".intercalate shown ++ "])"
  | stream kind _ _ => pure s!"<{kind} object>"
  | undefined _ => pure "Undefined"
  | method _ name => pure s!"<built-in method {name}>"
  | function name => pure s!"<function {name}>"

/-- The written forms of values. -/
def writtenAll : List Value → Except Fault (List String)
  | [] => pure []
  | v :: rest => do return (← written v) :: (← writtenAll rest)

/-- The written forms of the entries of a dictionary. -/
def writtenEntries : List (Value × Value) → Except Fault (List String)
  | [] => pure []
  | (k, v) :: rest => do return s!"{← written k}: {← written v}" :: (← writtenEntries rest)

/-- The written forms of keys. -/
def writtenKeys : List (Value × Value) → Except Fault (List String)
  | [] => pure []
  | (k, _) :: rest => do return (← written k) :: (← writtenKeys rest)

/-- The written forms of the values of entries. -/
def writtenValues : List (Value × Value) → Except Fault (List String)
  | [] => pure []
  | (_, v) :: rest => do return (← written v) :: (← writtenValues rest)

/-- The written forms of entries as pairs. -/
def writtenPairs : List (Value × Value) → Except Fault (List String)
  | [] => pure []
  | (k, v) :: rest => do return s!"({← written k}, {← written v})" :: (← writtenPairs rest)

/-- The written forms of the entries of an object that is a dictionary. -/
def writtenFields : List (String × Value) → Except Fault (List String)
  | [] => pure []
  | (k, v) :: rest => do return s!"{Text.quoteString k}: {← written v}" :: (← writtenFields rest)

end

/-- The plain text of a value. Whoever asks a strict undefined value for its text gets its fault. -/
def text : Value → Except Fault String
  | string s => pure s
  | markup s => pure s
  | undefined u => if u.strict then throw u.fault else pure ""
  | outcome .passed => pure "Outcome.PASSED"
  | outcome .rejected => pure "Outcome.REJECTED"
  | v => v.written

/-- The written form of a value inside a message of a fault. -/
def quoted (v : Value) : String :=
  match v.written with
  | .ok s => s
  | .error _ => ""

/-- A value as it stands in a message: nothing for a missing value, the source of a pattern, and the
plain text of anything else. -/
def rendered : Value → Except Fault String
  | none => pure ""
  | undefined _ => pure ""
  | pattern p => pure p.source
  | v => v.text

end Value

end FieldRules
