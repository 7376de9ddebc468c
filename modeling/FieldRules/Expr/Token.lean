import FieldRules.Expr.Problem
import FieldRules.Number.Text
import FieldRules.Text.Identifier
import FieldRules.Text.Split

/-!
# Tokens of expressions

Cuts the text of an expression into names, texts, numbers and signs. Brackets have to match. The cut
goes on as far as it can, and a fault comes after the tokens before it, for whoever reads so far.
Outside of all brackets, a double closing brace ends the expression.
-/

namespace FieldRules.Expr

/-- A token of an expression. -/
inductive Token where
  | name (s : String)
  | text (s : String)
  | integer (n : Int)
  | float (x : Float)
  | sign (s : String)
  | close
  deriving Repr, Inhabited

/-- How a token is called in a report. -/
def Token.describe : Token → String
  | name s => s
  | text _ => "string"
  | integer _ => "integer"
  | float _ => "float"
  | sign s => s
  | close => "end of print statement"

/-- Whether the token is the given sign. -/
def Token.isSign (t : Token) (s : String) : Bool :=
  match t with
  | sign x => x == s
  | _ => false

/-- Whether the token is the given name. -/
def Token.isName (t : Token) (s : String) : Bool :=
  match t with
  | name x => x == s
  | _ => false

/-- A token with the line it stands on. -/
structure Lexeme where
  token : Token
  line : Nat
  deriving Repr, Inhabited

/-- The tokens of a text, and the fault behind the last of them if there is one. -/
structure Lexemes where
  items : List Lexeme
  problem? : Option Problem
  deriving Repr

/-! ## Numbers -/

/-- Digits of a class from the start of a text, single underscores between them left out. -/
def takeDigitRun (digit : Char → Bool) (after : Bool) : List Char → List Char × List Char
  | [] => ([], [])
  | c :: rest =>
    if c == '_' then
      -- An underscore needs a digit on either side; `after` tells of the one before it.
      if after && rest.head?.any digit then takeDigitRun digit false rest else ([], c :: rest)
    else if digit c then
      let (ds, r) := takeDigitRun digit true rest
      (c :: ds, r)
    else ([], c :: rest)

/-- Digits from the start of a text, none if it starts with something else. -/
def takeRun (digit : Char → Bool) (s : List Char) : List Char × List Char :=
  takeDigitRun digit false s

/-- Digits after the letter of a base, where an underscore may come first. -/
def takeBaseRun (digit : Char → Bool) (s : List Char) : List Char × List Char :=
  takeDigitRun digit true s

/-- The digits of an exponent, with its sign. -/
def takeExponent? : List Char → Option (List Char × List Char)
  | c :: rest =>
    if c == 'e' || c == 'E' then
      let (sign, body) := match rest with
        | '+' :: r => ([], r)
        | '-' :: r => (['-'], r)
        | r => ([], r)
      match takeRun Text.isDecimal body with
      | ([], _) => none
      | (digits, r) => some ('e' :: sign ++ digits, r)
    else none
  | [] => none

/-- A fraction after its point. -/
def takeFraction? : List Char → Option (List Char × List Char)
  | '.' :: rest =>
    match takeRun Text.isDecimal rest with
    | ([], _) => none
    | (digits, r) => some ('.' :: digits, r)
  | _ => none

/-- A floating-point number at the start of a text: digits with a fraction, an exponent, or both. -/
def takeFloat? (s : List Char) : Option (List Char × List Char) :=
  match takeRun Text.isDecimal s with
  | ([], _) => none
  | (whole, rest) =>
    match takeFraction? rest, takeExponent? rest with
    | some (part, r), _ =>
      match takeExponent? r with
      | some (e, r) => some (whole ++ part ++ e, r)
      | none => some (whole ++ part, r)
    | none, some (e, r) => some (whole ++ e, r)
    | none, none => none

/-- The value of digits in a base. -/
def valueIn (base : Nat) (digits : List Char) : Nat :=
  digits.foldl (fun n c =>
    n * base + ((Text.hexDigit? c).getD ((Text.decimalValue? c).getD 0))) 0

/-- A hexadecimal digit, or a decimal one of any script. -/
def isHexDigit (c : Char) : Bool :=
  (Text.hexDigit? c).isSome || Text.isDecimal c

/-- An integer with the letter of a base, given what follows its zero. -/
def takeBased? : List Char → Option (Nat × List Char)
  | letter :: rest =>
    let read (base : Nat) (digit : Char → Bool) : Option (Nat × List Char) :=
      match takeBaseRun digit rest with
      | ([], _) => none
      | (digits, r) => some (valueIn base digits, r)
    if letter == 'b' || letter == 'B' then read 2 fun c => c == '0' || c == '1'
    else if letter == 'o' || letter == 'O' then read 8 fun c => '0' ≤ c && c ≤ '7'
    else if letter == 'x' || letter == 'X' then read 16 isHexDigit
    else none
  | [] => none

/-- An integer at the start of a text. A zero is followed by zeros alone. -/
def takeInteger? : List Char → Option (Except Problem Int × List Char)
  | c :: rest =>
    if c == '0' then
      match takeBased? rest with
      | some (n, r) => some (.ok n, r)
      | none => some (.ok 0, (takeBaseRun (· == '0') rest).2)
    else if '1' ≤ c && c ≤ '9' then
      let (digits, r) := takeRun Text.isDecimal (c :: rest)
      if Number.maxDigits < digits.length then
        some (.error (.literal (.integerTooLongToRead digits.length)), r)
      else some (.ok (valueIn 10 digits), r)
    else none
  | [] => none

/-! ## Names, texts and signs -/

/-- A character that a name may hold. -/
def isNameChar (c : Char) : Bool :=
  Text.isWord c || Text.isIdentifierPart c

/-- The text up to a closing quote, with its escapes, and what follows the quote. -/
def takeQuoted (quote : Char) : List Char → Option (List Char × List Char)
  | [] => none
  | '\\' :: c :: rest => (takeQuoted quote rest).map fun (s, r) => ('\\' :: c :: s, r)
  | c :: rest =>
    if c == quote then some ([], rest)
    else if c == '\\' then none
    else (takeQuoted quote rest).map fun (s, r) => (c :: s, r)

/-- The signs of two characters. -/
def longSigns : List String := ["//", "**", "==", "!=", ">=", "<="]

/-- The signs of one character. -/
def shortSigns : List Char := "+-/*%~[](){}><=.:|,;".toList

/-- A sign at the start of a text. -/
def takeSign? : List Char → Option (String × List Char)
  | c :: d :: rest =>
    if longSigns.contains (String.ofList [c, d]) then some (String.ofList [c, d], rest)
    else if shortSigns.contains c then some (String.singleton c, d :: rest)
    else none
  | [c] => if shortSigns.contains c then some (String.singleton c, []) else none
  | [] => none

/-- The brackets that are open after a sign, the innermost first. -/
def trackBracket (open_ : List Char) (s : String) : Except Problem (List Char) :=
  let closing (c : Char) : Except Problem (List Char) :=
    match open_ with
    | [] => throw (.unexpectedBracket c)
    | e :: outer => if e == c then pure outer else throw (.otherBracket c e)
  if s == "\x7b" then pure ('\x7d' :: open_)
  else if s == "(" then pure (')' :: open_)
  else if s == "[" then pure (']' :: open_)
  else if s == "\x7d" then closing '\x7d'
  else if s == ")" then closing ')'
  else if s == "]" then closing ']'
  else pure open_

/-- The text between quotes as a token. -/
def textToken (s : List Char) : Except Problem Token :=
  match Text.unescape s with
  | .ok t => pure (.text (String.ofList t))
  | .error p => throw (.badEscape p)

/-- A name as a token. -/
def nameToken (s : List Char) : Except Problem Token :=
  if Text.isIdentifier s then pure (.name (String.ofList s)) else throw .badIdentifier

/-- A floating-point literal as a token. -/
def floatToken (s : List Char) : Except Problem Token :=
  match Number.readFloat? s with
  | some x => pure (.float x)
  | none => throw .badIdentifier

/-- One step of the cut: nothing for blanks, else a token or a fault, and what follows. -/
structure Step where
  token? : Option (Except Problem Token)
  rest : List Char

/-- Whether the text ends the expression here. -/
def atClose (s : List Char) : Bool :=
  "\x7d\x7d".toList.isPrefixOf s || "-\x7d\x7d".toList.isPrefixOf s

/-- Takes one token or the blanks at the start of a text. `afterPoint` says whether a point comes
before it, in which case there is no floating-point number. -/
def step? (afterPoint : Bool) (s : List Char) : Option Step :=
  match s with
  | [] => none
  | c :: rest =>
    if Text.isBlank c then some ⟨none, rest.dropWhile Text.isBlank⟩
    else
      -- As an integer a floating-point number would end at its point.
      match if afterPoint then none else takeFloat? s with
      | some (digits, r) => some ⟨some (floatToken digits), r⟩
      | none =>
        match takeInteger? s with
        | some (n, r) => some ⟨some (n.map .integer), r⟩
        | none =>
          if isNameChar c then
            some ⟨some (nameToken (s.takeWhile isNameChar)), s.dropWhile isNameChar⟩
          else
            match if c == '\'' || c == '"' then takeQuoted c rest else none with
            | some (t, r) => some ⟨some (textToken t), r⟩
            | none => (takeSign? s).map fun (sign, r) => ⟨some (.ok (.sign sign)), r⟩

/-- Cuts a text from a place on. Every step takes a character, so the length of the text bounds the
number of steps. -/
def cut : Nat → Nat → Nat → List Char → Bool → List Char → Lexemes
  | 0, _, _, _, _, _ => ⟨[], none⟩
  | fuel + 1, position, line, open_, afterPoint, s =>
    -- Inside of brackets two closing braces end two dictionaries.
    if open_.isEmpty && atClose s then ⟨[⟨.close, line⟩], none⟩
    else
      match s, step? afterPoint s with
      | [], _ => ⟨[], none⟩
      | c :: _, none =>
        ⟨[], some (.unexpectedChar (String.ofList (Text.quote [c])) position)⟩
      | _ :: _, some next =>
        let taken := s.take (s.length - next.rest.length)
        let position := position + taken.length
        let line' := line + taken.count '\n'
        match next.token? with
        | none => cut fuel position line' open_ false next.rest
        | some (.error p) => ⟨[], some p⟩
        | some (.ok token) =>
          let brackets := match token with
            | .sign x => trackBracket open_ x
            | _ => .ok open_
          match brackets with
          | .error p => ⟨[], some p⟩
          | .ok open_ =>
            let more := cut fuel position line' open_ (token.isSign ".") next.rest
            { more with items := ⟨token, line⟩ :: more.items }

/-- The text with line feeds as its line ends, and without the last of them at its end. -/
def normalizeLines (s : List Char) : List Char :=
  let unified := Text.unifyLines s
  if unified.getLast? == some '\n' then unified.dropLast else unified

/-- The tokens of a text. -/
def tokens (s : List Char) : Lexemes :=
  let s := normalizeLines s
  cut (s.length + 1) 0 1 [] false s

end FieldRules.Expr
