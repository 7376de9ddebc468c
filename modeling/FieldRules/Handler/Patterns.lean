import FieldRules.Handler.Bounds
import FieldRules.Regex.Source
import FieldRules.Uri.Split

/-!
# Patterns

The handlers that ask for a text of a certain form: patterns of one's own, common patterns by name,
passwords of several levels, and URIs.
-/

namespace FieldRules.Handler

/-- The characters of a value that is text. -/
def charsOf (v : Value) : List Char :=
  (v.text?.getD "").toList

/-- The argument as a pattern; anything else is taken by its text. -/
def patternOf (v : Value) : Except Error Regex := do
  match v with
  | .pattern r => return r
  | v =>
    let source ← liftFault v.text
    (Regex.compile source).mapError (.pattern source)

/-- The whole text must match the pattern. -/
def pattern : Handler where
  handlerClass := builtinClass "PatternHandler"
  names := ["pattern"]
  types? := some [.string]
  arity := .exactly 1
  check v f ctx := do
    let argument ← (f.argument 0 : Except Error Value)
    let r ← (patternOf argument : Except Error Regex)
    acceptIf (r.matches (charsOf v)) ctx f none

/-- The common patterns under their names. -/
def commonPatterns : List (String × String) :=
  [("ip", "^((25[0-5]|2[0-4]\\d|[01]\\d\x7b2\x7d|[1-9]?\\d)\\.)\x7b3\x7d(25[0-5]|2[0-4]\\d|[01]\\d\x7b2\x7d|[1-9]?\\d)$"),
    ("email", "^\\w+(\\.\\w+)*@\\w+(\\.\\w\x7b2,\x7d)+$"),
    ("ascii", "^[\\x00-\\xFF]+$"),
    ("postal-code", "^\\d\x7b6\x7d$"),
    ("letter", "^[a-zA-Z]+$"),
    ("letter-lowercase", "^[a-z]+$"),
    ("letter-uppercase", "^[A-Z]+$"),
    ("alpha-numeric", "^[a-zA-Z0-9]+$"),
    ("chinese", "^[\\u4e00-\\u9fa5\\uf900-\\ufa2d]+$"),
    ("colour", "^#[a-fA-F0-9]\x7b6\x7d$"),
    ("username", "^[\\w$.-]*$"),
    ("int", "^[+-]?\\d+$"),
    ("int-negative", "^-\\d+$"),
    ("int-positive", "^\\+?\\d+$"),
    ("decimal", "^[+-]?\\d*\\.\\d+$"),
    ("decimal-negative", "^-\\d*\\.\\d+$"),
    ("decimal-positive", "^\\+?\\d*\\.\\d+$")]

/-- A blank text passes; any other one must match the common pattern that the fragment names. -/
def commonPattern : Handler where
  handlerClass := builtinClass "CommonPatternHandler"
  names := commonPatterns.map Prod.fst
  types? := some [.string]
  check v f ctx :=
    if (charsOf v).all Text.isBlank then accept
    else
      let source := (commonPatterns.lookup f.name).getD ""
      acceptIf (Regex.matchesSource source (charsOf v)) ctx f none

/-- The levels of passwords in the order of their names. -/
def passwordLevels : List (String × String) :=
  [("medium", "^(?=.*[A-Za-z])(?=.*\\d).\x7b8,\x7d$"),
    ("strong", "^(?=.*[a-z])(?=.*[A-Z])(?=.*\\d)(?=.*[^A-Za-z\\d]).\x7b10,\x7d$"),
    ("weak", "^.\x7b6,\x7d$")]

/-- The level that an argument names; one that counts as false names the medium level. -/
def levelOf (v : Value) : Except Fault String := do
  if ← v.truth then return String.ofList (Text.lower (charsOf v)) else return "medium"

/-- A text that is not empty must be a password of the level. -/
def password : Handler where
  handlerClass := builtinClass "PasswordHandler"
  names := ["password"]
  types? := some [.string]
  arity := .between 0 1
  check v f ctx := do
    if (charsOf v).isEmpty then accept
    else
      let argument ← (f.argument 0 (some .string) : Except Error Value)
      let level ← (levelOf argument : Except Fault String)
      match passwordLevels.lookup level with
      | none => .fail (.setup (.unknownLevel level (passwordLevels.map Prod.fst)))
      | some source => acceptIf (Regex.matchesSource source (charsOf v)) ctx f level

/-- Whether a wish for a text is met; an argument that counts as false wishes for nothing. -/
def meetsText (wish : Value) (actual? : Option (List Char)) : Bool :=
  match wish.text? with
  | none => true
  | some "" => true
  | some s => actual? == some s.toList

/-- Whether a wish for a port is met; -1 wishes for nothing. -/
def meetsPort (wish : Value) (port? : Option Nat) : Bool :=
  match wish.integer? with
  | none => true
  | some n => n == -1 || port?.map Int.ofNat == some n

/-- The parts of a URI that names an authority, with its port; nothing for any other text. -/
def uriAndPort? (s : List Char) : Option (Uri × Option Nat) :=
  -- A port that cannot be read makes the text no URI, also where no port is asked for.
  match (do let u ← Uri.split s; return (u, ← u.port?) : Except Uri.Problem (Uri × Option Nat)) with
  | .error _ => none
  | .ok (u, port?) => if u.scheme.isEmpty || u.authority.isEmpty then none else some (u, port?)

/-- A text that is not empty must be a URI with the scheme, the host and the port of the arguments. -/
def url : Handler where
  handlerClass := builtinClass "UrlHandler"
  names := ["url"]
  types? := some [.string]
  arity := .between 0 3
  check v f ctx := do
    if (charsOf v).isEmpty then accept
    else match uriAndPort? (charsOf v) with
      | none => acceptIf false ctx f none
      | some (u, port?) =>
        if !meetsText (← (f.argument 0 (some .string) : Except Error Value)) (some u.scheme) then
          acceptIf false ctx f none
        else if !meetsText (← (f.argument 1 (some .string) : Except Error Value)) u.host? then
          acceptIf false ctx f none
        else
          let wish ← (f.argument 2 (some .int) : Except Error Value)
          acceptIf (meetsPort wish port?) ctx f none

end FieldRules.Handler
