import FieldRules.Expr.Syntax
import FieldRules.Expr.Token

/-!
# Reading expressions

Reads the tokens of an expression into its syntax tree. From loose to tight bind the condition, `or`,
`and`, `not`, comparisons, sums, `~`, products, powers, signs, and what stands behind a value: a part, a
call, a filter, a test. Operators of one row group to the left, powers too. A sign binds tighter than a
power.

Each reader gets the reader `expr` for the expressions inside brackets. Those take a token before they
read on, so the number of tokens is fuel enough for all of them.
-/

namespace FieldRules.Expr

/-- A reader of tokens. -/
abbrev Parser := StateT Lexemes (Except Problem)

namespace Parser

/-- The token to read next, nothing at the end. -/
def current : Parser (Option Token) := do
  return (← get).items.head?.map Lexeme.token

/-- The line of the token to read next. -/
def currentLine : Parser Nat := do
  return ((← get).items.head?.map Lexeme.line).getD 1

/-- Refuses tokens that are followed by a fault and nothing else. -/
def checkEnd (l : Lexemes) : Parser Unit :=
  match l.items, l.problem? with
  | [], some p => throw p
  | _, _ => pure ()

/-- Takes a token. -/
def advance : Parser Unit := do
  let l ← get
  let rest := { l with items := l.items.drop 1 }
  checkEnd rest
  set rest

/-- The token after the next one. -/
def following : Parser (Option Token) := do
  let l ← get
  let rest := { l with items := l.items.drop 1 }
  checkEnd rest
  return rest.items.head?.map Lexeme.token

/-- How a token or the end is called in a report. -/
def describe : Option Token → String
  | some t => t.describe
  | none => "end of template"

/-- Whether the next token is the given sign. -/
def atSign (s : String) : Parser Bool := do
  return (← current).any (·.isSign s)

/-- Whether the next token is the given name. -/
def atName (s : String) : Parser Bool := do
  return (← current).any (·.isName s)

/-- Takes the next token if it is the given sign. -/
def skipSign (s : String) : Parser Bool := do
  if ← atSign s then
    advance
    return true
  return false

/-- Takes the next token if it is the given name. -/
def skipName (s : String) : Parser Bool := do
  if ← atName s then
    advance
    return true
  return false

/-- Refuses the next token where something else was expected. -/
def refuse {α : Type} (what : String) : Parser α := do
  match ← current with
  | none => throw (.expectedBeforeEnd what)
  | t => throw (.expected what (describe t))

/-- Takes the given sign. -/
def expectSign (s : String) : Parser Unit := do
  if !(← skipSign s) then refuse s

/-- Takes a name. -/
def expectName : Parser String := do
  match ← current with
  | some (.name s) =>
    advance
    return s
  | _ => refuse "name"

/-- The number of tokens left, and one, which bounds every loop over them. -/
def fuelLeft : Parser Nat := do
  return (← get).items.length + 1

/-! ## Lists in brackets -/

/-- Reads items separated by commas up to a closing sign, which is not taken. A comma may come last. -/
def itemsUntil {α : Type} (closing : String) (item : Parser α) : Nat → List α → Parser (List α)
  | 0, acc => return acc.reverse
  | fuel + 1, acc => do
    if ← atSign closing then return acc.reverse
    if !acc.isEmpty then
      expectSign ","
      if ← atSign closing then return acc.reverse
    itemsUntil closing item fuel ((← item) :: acc)

/-- Reads what stands between brackets after the opening one. -/
def bracketed {α : Type} (closing : String) (item : Parser α) : Parser (List α) := do
  let items ← itemsUntil closing item (← fuelLeft) []
  expectSign closing
  return items

/-- Reads an entry of a dictionary. -/
def entry (expr : Parser Expr) : Parser (Expr × Expr) := do
  let key ← expr
  expectSign ":"
  return (key, ← expr)

/-- Whether a list in parentheses ends here. -/
def atTupleEnd : Parser Bool := do
  match ← current with
  | some .close => return true
  | some t => return t.isSign ")"
  | none => return false

/-- Reads the rest of what stands in parentheses; `comma` says whether one has been seen. -/
def tupleItems (expr : Parser Expr) : Nat → Bool → List Expr → Parser (Bool × List Expr)
  | 0, comma, acc => return (comma, acc.reverse)
  | fuel + 1, comma, acc => do
    if !acc.isEmpty then expectSign ","
    if ← atTupleEnd then return (comma, acc.reverse)
    let e ← expr
    if ← atSign "," then tupleItems expr fuel true (e :: acc)
    else return (comma, (e :: acc).reverse)

/-- Reads what stands in parentheses: one expression, or a tuple if there is a comma or nothing. -/
def parenthesized (expr : Parser Expr) : Parser Expr := do
  let (comma, items) ← tupleItems expr (← fuelLeft) false []
  expectSign ")"
  match comma, items with
  | false, [e] => return e
  | _, _ => return .tuple items

/-! ## Arguments -/

/-- The arguments read so far. -/
structure Arguments where
  positional : List Expr := []
  named : List (String × Expr) := []
  spread? : Option Expr := none
  spreadNamed? : Option Expr := none

/-- The arguments in their order. -/
def Arguments.toList (a : Arguments) : List Arg :=
  a.positional.map .positional ++ a.spread?.toList.map .spread
    ++ (a.named.map fun (k, e) => .named k e) ++ a.spreadNamed?.toList.map .spreadNamed

/-- Reads one argument. Arguments by place come first; after all entries of a value comes none. -/
def argument (expr : Parser Expr) (a : Arguments) : Parser Arguments := do
  if ← skipSign "*" then
    if a.spread?.isSome || a.spreadNamed?.isSome then throw .badCall
    return { a with spread? := some (← expr) }
  if ← skipSign "**" then
    if a.spreadNamed?.isSome then throw .badCall
    return { a with spreadNamed? := some (← expr) }
  match ← current with
  | some (.name key) =>
    if (← following).any (·.isSign "=") then
      if a.spreadNamed?.isSome then throw .badCall
      advance
      advance
      return { a with named := a.named ++ [(key, ← expr)] }
  | _ => pure ()
  -- A name with no equals sign behind it is an argument by place, or its first token.
  if a.spread?.isSome || a.spreadNamed?.isSome || !a.named.isEmpty then throw .badCall
  return { a with positional := a.positional ++ [← expr] }

/-- Reads arguments up to the closing parenthesis. -/
def argumentsFrom (expr : Parser Expr) : Nat → Bool → Arguments → Parser Arguments
  | 0, _, a => return a
  | fuel + 1, first, a => do
    if ← atSign ")" then return a
    if !first then
      expectSign ","
      if ← atSign ")" then return a
    argumentsFrom expr fuel false (← argument expr a)

/-- Reads arguments in parentheses. -/
def arguments (expr : Parser Expr) : Parser (List Arg) := do
  expectSign "("
  let a ← argumentsFrom expr (← fuelLeft) true {}
  expectSign ")"
  return a.toList

/-! ## Values and what stands behind them -/

/-- Reads texts that stand side by side, which are one text. -/
def texts : Nat → String → Parser String
  | 0, acc => return acc
  | fuel + 1, acc => do
    match ← current with
    | some (.text s) =>
      advance
      texts fuel (acc ++ s)
    | _ => return acc

/-- What a name stands for: a constant or itself. -/
def nameExpr (s : String) : Expr :=
  if s == "true" || s == "True" then .const (.bool true)
  else if s == "false" || s == "False" then .const (.bool false)
  else if s == "none" || s == "None" then .const .none
  else .identifier s

/-- Reads a value. -/
def primary (expr : Parser Expr) : Parser Expr := do
  let token ← current
  match token with
  | some (.name s) =>
    advance
    return nameExpr s
  | some (.text s) =>
    advance
    return .const (.string (← texts (← fuelLeft) s))
  | some (.integer n) =>
    advance
    return .const (.int n)
  | some (.float x) =>
    advance
    return .const (.float x)
  | some (.sign "(") =>
    advance
    parenthesized expr
  | some (.sign "[") =>
    advance
    return .list (← bracketed "]" expr)
  | some (.sign "\x7b") =>
    advance
    return .dict (← bracketed "\x7d" (entry expr))
  | _ => throw (.unexpected (describe token))

/-- Reads a bound of a slice unless a sign says that there is none. -/
def sliceBound (expr : Parser Expr) : Parser (Option Expr) := do
  if (← atSign "]") || (← atSign ",") || (← atSign ":") then return none
  return some (← expr)

/-- Reads the rest of a slice after its first colon. -/
def sliceAfter (expr : Parser Expr) (start : Option Expr) : Parser Expr := do
  let stop ← sliceBound expr
  if ← skipSign ":" then
    if (← atSign "]") || (← atSign ",") then return .slice start stop none
    return .slice start stop (some (← expr))
  return .slice start stop none

/-- Reads an index: an expression or a slice. -/
def index (expr : Parser Expr) : Parser Expr := do
  if ← skipSign ":" then sliceAfter expr none
  else
    let e ← expr
    if ← skipSign ":" then sliceAfter expr (some e) else return e

/-- Reads indices up to the closing bracket. -/
def indices (expr : Parser Expr) : Nat → List Expr → Parser (List Expr)
  | 0, acc => return acc.reverse
  | fuel + 1, acc => do
    if ← atSign "]" then return acc.reverse
    if !acc.isEmpty then expectSign ","
    indices expr fuel ((← index expr) :: acc)

/-- Reads a part of a value after its point. -/
def partAfterPoint (e : Expr) : Parser Expr := do
  let token ← current
  advance
  match token with
  | some (.name s) => return .attribute e s
  | some (.integer n) => return .item e (.const (.int n))
  | _ => throw .noNameOrNumber

/-- Reads a part of a value after its bracket. -/
def partAfterBracket (expr : Parser Expr) (e : Expr) : Parser Expr := do
  let items ← indices expr (← fuelLeft) []
  expectSign "]"
  match items with
  | [i] => return .item e i
  | _ => return .item e (.tuple items)

/-- Reads parts and calls behind a value. -/
def postfixes (expr : Parser Expr) : Nat → Expr → Parser Expr
  | 0, e => return e
  | fuel + 1, e => do
    if ← skipSign "." then postfixes expr fuel (← partAfterPoint e)
    else if ← skipSign "[" then postfixes expr fuel (← partAfterBracket expr e)
    else if ← atSign "(" then postfixes expr fuel (.call e (← arguments expr))
    else return e

/-- Reads the name of a filter or a test, whose parts are joined by points. -/
def dottedName : Nat → String → Parser String
  | 0, acc => return acc
  | fuel + 1, acc => do
    if ← skipSign "." then dottedName fuel (acc ++ "." ++ (← expectName)) else return acc

/-- Reads a name with its further parts. -/
def operationName : Parser String := do
  let first ← expectName
  dottedName (← fuelLeft) first

/-- Reads a filter after its bar. -/
def filterAfter (expr : Parser Expr) (e : Expr) : Parser Expr := do
  let name ← operationName
  if ← atSign "(" then return .filter e name (← arguments expr)
  return .filter e name []

/-- Whether the next token starts the one argument that a test may have without parentheses. -/
def atTestArgument : Parser Bool := do
  match ← current with
  | some (.name s) => return !(s == "else" || s == "or" || s == "and")
  | some (.text _) => return true
  | some (.integer _) => return true
  | some (.float _) => return true
  | some (.sign s) => return s == "(" || s == "[" || s == "\x7b"
  | _ => return false

/-- Reads a test after its `is`. -/
def testAfter (expr : Parser Expr) (e : Expr) : Parser Expr := do
  let negated ← skipName "not"
  let name ← operationName
  let args ← if ← atSign "(" then arguments expr
    else if ← atTestArgument then do
      if ← atName "is" then throw .chainedTests
      -- Without parentheses the argument has no operators and no filters.
      let arg ← primary expr
      pure [.positional (← postfixes expr (← fuelLeft) arg)]
    else pure []
  let test := Expr.test e name args
  return if negated then .unary .not test else test

/-- Reads filters, tests and calls behind a value. -/
def filters (expr : Parser Expr) : Nat → Expr → Parser Expr
  | 0, e => return e
  | fuel + 1, e => do
    if ← skipSign "|" then filters expr fuel (← filterAfter expr e)
    else if ← skipName "is" then filters expr fuel (← testAfter expr e)
    else if ← atSign "(" then filters expr fuel (.call e (← arguments expr))
    else return e

/-! ## Operators -/

/-- Reads a value with its signs and what stands behind it. -/
def signed (expr : Parser Expr) : Nat → Parser Expr
  | 0 => primary expr
  | fuel + 1 => do
    if ← skipSign "-" then
      -- The parts behind the value belong to it and not to the signed one.
      let e ← signed expr fuel
      postfixes expr (← fuelLeft) (.unary .negate e)
    else if ← skipSign "+" then
      let e ← signed expr fuel
      postfixes expr (← fuelLeft) (.unary .affirm e)
    else
      let e ← primary expr
      postfixes expr (← fuelLeft) e

/-- Reads a value with its signs, parts, calls, filters and tests. -/
def unary (expr : Parser Expr) : Parser Expr := do
  let e ← signed expr (← fuelLeft)
  filters expr (← fuelLeft) e

/-- Reads operands joined by operators of one row, grouped to the left. -/
def chain (operand : Parser Expr) (operator? : Token → Option (Expr → Expr → Expr)) :
    Nat → Expr → Parser Expr
  | 0, left => return left
  | fuel + 1, left => do
    match (← current).bind operator? with
    | some join =>
      advance
      let right ← operand
      chain operand operator? fuel (join left right)
    | none => return left

/-- Reads a row of operands joined by operators. -/
def row (operand : Parser Expr) (operator? : Token → Option (Expr → Expr → Expr)) : Parser Expr := do
  let first ← operand
  chain operand operator? (← fuelLeft) first

/-- The operator of a sign among some. -/
def signOperator (signs : List (String × Operator)) : Token → Option (Expr → Expr → Expr)
  | .sign s => (signs.lookup s).map .binary
  | _ => none

/-- Reads powers. -/
def powers (expr : Parser Expr) : Parser Expr :=
  row (unary expr) (signOperator [("**", .power)])

/-- Reads products. -/
def products (expr : Parser Expr) : Parser Expr :=
  row (powers expr)
    (signOperator [("*", .multiply), ("/", .divide), ("//", .floorDivide), ("%", .modulo)])

/-- Reads the further parts of a joined text. -/
def concatParts (expr : Parser Expr) : Nat → List Expr → Parser (List Expr)
  | 0, acc => return acc.reverse
  | fuel + 1, acc => do
    if ← skipSign "~" then concatParts expr fuel ((← products expr) :: acc)
    else return acc.reverse

/-- Reads texts joined by tildes. -/
def concats (expr : Parser Expr) : Parser Expr := do
  let first ← products expr
  match ← concatParts expr (← fuelLeft) [first] with
  | [e] => return e
  | parts => return .concat parts

/-- Reads sums. -/
def sums (expr : Parser Expr) : Parser Expr :=
  row (concats expr) (signOperator [("+", .add), ("-", .subtract)])

/-- The comparison that starts at the next token, if one does. Its tokens are taken. -/
def relation? : Parser (Option Relation) := do
  let simple : List (String × Relation) :=
    [("==", .equal), ("!=", .notEqual), ("<", .order .less), ("<=", .order .lessOrEqual),
      (">", .order .greater), (">=", .order .greaterOrEqual)]
  match ← current with
  | some (.sign s) =>
    match simple.lookup s with
    | some r =>
      advance
      return some r
    | none => return none
  | some (.name "in") =>
    advance
    return some .isIn
  | some (.name "not") =>
    if (← following).any (·.isName "in") then
      advance
      advance
      return some .notIn
    return none
  | _ => return none

/-- Reads the further operands of a comparison. -/
def comparedWith (expr : Parser Expr) : Nat → List (Relation × Expr) →
    Parser (List (Relation × Expr))
  | 0, acc => return acc.reverse
  | fuel + 1, acc => do
    match ← relation? with
    | some r => comparedWith expr fuel ((r, ← sums expr) :: acc)
    | none => return acc.reverse

/-- Reads comparisons, which may be chained. -/
def comparisons (expr : Parser Expr) : Parser Expr := do
  let first ← sums expr
  match ← comparedWith expr (← fuelLeft) [] with
  | [] => return first
  | rest => return .compare first rest

/-- Reads negations. -/
def negations (expr : Parser Expr) : Nat → Parser Expr
  | 0 => comparisons expr
  | fuel + 1 => do
    if ← skipName "not" then return .unary .not (← negations expr fuel)
    comparisons expr

/-- Reads conjunctions. -/
def conjunctions (expr : Parser Expr) : Parser Expr :=
  row (do negations expr (← fuelLeft)) fun t => if t.isName "and" then some .both else none

/-- Reads disjunctions. -/
def disjunctions (expr : Parser Expr) : Parser Expr :=
  row (conjunctions expr) fun t => if t.isName "or" then some .either else none

/-- Reads conditions behind an expression. -/
def conditions (expr : Parser Expr) : Nat → Nat → Expr → Parser Expr
  | 0, _, yes => return yes
  | fuel + 1, line, yes => do
    if ← skipName "if" then
      let test ← disjunctions expr
      let no ← if ← skipName "else" then do pure (some (← expr)) else pure none
      let next ← currentLine
      conditions expr fuel next (.cond line test yes no)
    else return yes

/-- Reads an expression that may be inside others, with fuel for the others. -/
def expression : Nat → Parser Expr
  | 0 => do throw (.unexpected (describe (← current)))
  | fuel + 1 => do
    let line ← currentLine
    let first ← disjunctions (expression fuel)
    conditions (expression fuel) (← fuelLeft) line first

/-- Reads a whole text as one expression. -/
def wholeExpression : Parser Expr := do
  checkEnd (← get)
  let e ← expression (← fuelLeft)
  if (← current).isSome then throw .moreAfterEnd
  return e

end Parser

/-- Reads the text of an expression. -/
def parse (s : List Char) : Except Problem Expr := do
  let (e, _) ← Parser.wholeExpression.run (tokens s)
  return e

end FieldRules.Expr
