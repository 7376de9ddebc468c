import FieldRules.Document.Scalar
import FieldRules.Error
import FieldRules.Value.Equal

/-!
# Reading documents

A document is one value: a mapping or a row of values written in lines of one indentation, or in braces
and brackets, or a scalar, which may stand in quotes. A number sign behind a blank starts a comment.
What is no document fails for its tokens, or for the order in which they stand.
-/

namespace FieldRules.Document

/-- The rest of a text with the place where it starts. -/
structure Cursor where
  rest : List Char
  line : Nat := 0
  column : Nat := 0

/-- A computation that reads on. -/
abbrev Read := StateT Cursor (Except DocumentError)

/-- What follows. -/
def following : Read (List Char) := do return (← get).rest

/-- The column of what follows. -/
def column : Read Nat := do return (← get).column

/-- Takes a character. -/
def skip : Read Unit :=
  modify fun c =>
    match c.rest with
    | [] => c
    | '\n' :: rest => ⟨rest, c.line + 1, 0⟩
    | _ :: rest => ⟨rest, c.line, c.column + 1⟩

/-- Takes so many characters. -/
def skipMany : Nat → Read Unit
  | 0 => pure ()
  | n + 1 => do
    skip
    skipMany n

/-- Takes the blanks that follow on the line. -/
def skipSpaces : Read Unit := do
  skipMany ((← following).takeWhile (· == ' ')).length

/-- How many characters there are up to the end of the line. -/
def toLineEnd (s : List Char) : Nat :=
  (s.takeWhile (· != '\n')).length

/-- Takes blanks, comments and ends of lines. `open_` says whether a comment may start here. -/
def skipBlank : Nat → Bool → Read Unit
  | 0, _ => pure ()
  | fuel + 1, open_ => do
    match ← following with
    | ' ' :: _ => skip; skipBlank fuel true
    | '\n' :: _ => skip; skipBlank fuel true
    | '#' :: rest =>
      -- A number sign right behind a token is no comment.
      if open_ then
        skipMany (toLineEnd rest + 1)
        skipBlank fuel true
    | _ => pure ()

/-- Takes blanks, comments and ends of lines. -/
def skipToToken : Read Unit := do
  skipBlank ((← following).length + 1) ((← column) == 0)

/-- Whether a text starts with a blank or is at its end. -/
def startsBlank : List Char → Bool
  | [] => true
  | c :: _ => c == ' ' || c == '\t' || c == '\n'

/-- Whether a dash that stands for an item follows. -/
def atDash (s : List Char) : Bool :=
  match s with
  | '-' :: rest => startsBlank rest
  | _ => false

/-- Characters that mean something inside of brackets. -/
def isFlowMark (c : Char) : Bool :=
  c == ',' || c == '[' || c == ']' || c == '\x7b' || c == '\x7d'

/-- Whether a colon that stands for a value follows. -/
def atColon (flow : Bool) (s : List Char) : Bool :=
  match s with
  | ':' :: rest => flow || startsBlank rest
  | _ => false

/-- Whether a plain scalar may start. -/
def startsPlain (flow : Bool) (s : List Char) : Bool :=
  match s with
  | [] => false
  | c :: rest =>
    if c == '-' || !flow && (c == '?' || c == ':') then !startsBlank rest
    else !startsBlank s && !isFlowMark c
      && !(['?', ':', '#', '&', '*', '!', '|', '>', '\'', '"', '%', '@', '\x60'].contains c)

/-! ## Quoted scalars -/

/-- The characters that short escapes stand for. -/
def shortEscapes : List (Char × Nat) :=
  [('0', 0), ('a', 7), ('b', 8), ('t', 9), ('\t', 9), ('n', 10), ('v', 11), ('f', 12), ('r', 13),
    ('e', 27), (' ', 32), ('"', 34), ('/', 47), ('\\', 92), ('N', 0x85), ('_', 0xA0), ('L', 0x2028),
    ('P', 0x2029)]

/-- How many digits an escape by number has. -/
def escapeDigits : Char → Option Nat
  | 'x' => some 2
  | 'u' => some 4
  | 'U' => some 8
  | _ => none

/-- Takes an escape behind its backslash. -/
def readEscape : Read (List Char) := do
  match ← following with
  | [] => throw .tokens
  | c :: rest =>
    match shortEscapes.lookup c, escapeDigits c with
    | some code, _ =>
      skip
      return [Char.ofNat code]
    | none, some n =>
      let digits := rest.take n
      if digits.length == n && digits.all fun d => (Text.hexDigit? d).isSome then
        skipMany (n + 1)
        return [Char.ofNat (numberIn 16 digits)]
      else throw .tokens
    | none, none => throw .tokens

/-- The breaks of lines at the start of a text, with blanks around them, and how many there are. -/
def lineBreaks (s : List Char) : Nat × Nat :=
  let blanks := s.takeWhile fun c => c == ' ' || c == '\t' || c == '\n'
  (blanks.count '\n', blanks.length)

/-- What breaks of lines stand for inside of a scalar: one for a blank, more for one line fewer. -/
def foldedBreaks (count : Nat) : List Char :=
  if count == 1 then [' '] else List.replicate (count - 1) '\n'

/-- Reads a quoted scalar up to its quote. What has been read is given from its end. -/
def readQuoted (quote : Char) : Nat → List Char → Read (List Char)
  | 0, _ => throw .tokens
  | fuel + 1, acc => do
    match ← following with
    | [] => throw .tokens
    | c :: rest =>
      if c == quote then
        if quote == '\'' && rest.head? == some '\'' then
          skipMany 2
          readQuoted quote fuel ('\'' :: acc)
        else
          skip
          return acc.reverse
      else if c == '\\' && quote == '"' then
        skip
        match rest with
        -- A backslash at its end joins a line with the next one, and no blank comes between.
        | '\n' :: _ =>
          skipMany (lineBreaks rest).2
          readQuoted quote fuel acc
        | _ =>
          let escaped ← readEscape
          readQuoted quote fuel (escaped.reverse ++ acc)
      else if startsBlank (c :: rest) && 0 < (lineBreaks (c :: rest)).1 then
        let (count, length) := lineBreaks (c :: rest)
        skipMany length
        readQuoted quote fuel ((foldedBreaks count).reverse ++ acc)
      else
        skip
        readQuoted quote fuel (c :: acc)

/-! ## Plain scalars -/

/-- Whether a plain scalar ends before what follows. -/
def endsPlain (flow : Bool) (s : List Char) : Bool :=
  match s with
  | [] => true
  | c :: rest =>
    startsBlank s
      || c == ':' && (startsBlank rest || flow && (rest.head?.map isFlowMark).getD false)
      || flow && (isFlowMark c || c == '?')

/-- The word of a plain scalar at the start of a text. -/
def plainWord (flow : Bool) : List Char → List Char
  | [] => []
  | c :: rest => if endsPlain flow (c :: rest) then [] else c :: plainWord flow rest

/-- Reads a plain scalar. It goes on in lines that are indented as far as `least`, if it is not inside of
brackets. -/
def readPlain (flow : Bool) (least : Nat) : Nat → List Char → Read (List Char)
  | 0, acc => pure acc
  | fuel + 1, acc => do
    let word := plainWord flow (← following)
    skipMany word.length
    let acc := acc ++ word
    let start ← get
    let (count, length) := lineBreaks start.rest
    skipMany length
    let here ← get
    let goesOn := !word.isEmpty && 0 < length && !(plainWord flow here.rest).isEmpty
      && here.rest.head? != some '#' && (flow || count == 0 || least ≤ here.column)
    if goesOn then
      let between := if count == 0 then start.rest.take length else foldedBreaks count
      readPlain flow least fuel (acc ++ between)
    else
      -- The blanks behind the scalar are none of it, and a comment may start after them.
      set start
      return acc

/-! ## Values -/

/-- Puts an entry into a mapping. -/
def putEntry (k v : Value) (entries : List (Value × Value)) : List (Value × Value) :=
  Value.insertEntry k v entries

/-- Reads a scalar. -/
def readScalar (flow : Bool) (least : Nat) : Read Value := do
  let s ← following
  match s with
  | '"' :: _ =>
    skip
    return .string (String.ofList (← readQuoted '"' (s.length + 1) []))
  | '\'' :: _ =>
    skip
    return .string (String.ofList (← readQuoted '\'' (s.length + 1) []))
  | _ =>
    if startsPlain flow s then
      return scalarValue (← readPlain flow least (s.length + 1) [])
    else if s.isEmpty || (s.head?.map isFlowMark).getD false then throw .grammar
    else throw .tokens

mutual

/-- Reads a value inside of brackets. -/
def readFlow : Nat → Read Value
  | 0 => throw .grammar
  | fuel + 1 => do
    match ← following with
    | '[' :: _ =>
      skip
      skipToToken
      readFlowItems fuel []
    | '\x7b' :: _ =>
      skip
      skipToToken
      readFlowEntries fuel []
    | _ => readScalar true 0

/-- Reads the items of a row up to its bracket. -/
def readFlowItems : Nat → List Value → Read Value
  | 0, _ => throw .grammar
  | fuel + 1, acc => do
    match ← following with
    | ']' :: _ =>
      skip
      return .list acc
    | _ =>
      let v ← readFlow fuel
      skipToToken
      let item ← if atColon true (← following) then do
          let w ← readFlowValue fuel
          pure (Value.dict [(v, w)])
        else pure v
      match ← following with
      | ',' :: _ =>
        skip
        skipToToken
        readFlowItems fuel (acc ++ [item])
      | ']' :: _ => readFlowItems fuel (acc ++ [item])
      | _ => throw .grammar

/-- Reads a value behind its colon inside of brackets; there may be none. -/
def readFlowValue : Nat → Read Value
  | 0 => throw .grammar
  | fuel + 1 => do
    skip
    skipToToken
    match ← following with
    | ',' :: _ | '\x7d' :: _ | ']' :: _ => return .none
    | _ =>
      let v ← readFlow fuel
      skipToToken
      return v

/-- Reads the entries of a mapping up to its brace. -/
def readFlowEntries : Nat → List (Value × Value) → Read Value
  | 0, _ => throw .grammar
  | fuel + 1, acc => do
    match ← following with
    | '\x7d' :: _ =>
      skip
      return .dict acc
    | _ =>
      let k ← readFlow fuel
      skipToToken
      let v ← if atColon true (← following) then readFlowValue fuel else pure .none
      match ← following with
      | ',' :: _ =>
        skip
        skipToToken
        readFlowEntries fuel (putEntry k v acc)
      | '\x7d' :: _ => readFlowEntries fuel (putEntry k v acc)
      | _ => throw .grammar

end

/-- Whether what follows starts a value in brackets. -/
def startsFlow (s : List Char) : Bool :=
  s.head? == some '[' || s.head? == some '\x7b'

/-- Reads a value that is no mapping or row in lines. -/
def readInline (least : Nat) : Read Value := do
  let s ← following
  if startsFlow s then readFlow (2 * s.length + 2) else readScalar false least

/-- Whether nothing but a comment follows on the line. -/
def atLineEnd (s : List Char) : Bool :=
  match s with
  | [] => true
  | '\n' :: _ => true
  | ' ' :: _ =>
    match s.dropWhile (· == ' ') with
    | [] => true
    | c :: _ => c == '\n' || c == '#'
  | _ => false

mutual

/-- Reads a value in lines that are indented as far as `least`. -/
def readBlock : Nat → Nat → Read Value
  | 0, _ => throw .grammar
  | fuel + 1, least => do
    let start ← get
    if atDash start.rest then readItems fuel start.column []
    else
      -- Only what follows tells a key from a value, and a key may not go over its line.
      let v ← readInline least
      let here ← get
      skipSpaces
      if atColon false (← following) then
        if here.line == start.line then
          readEntryValue fuel start.column v []
        else throw .tokens
      else
        set here
        return v

/-- Reads the value of an entry at its colon, and then the entries that follow. -/
def readEntryValue : Nat → Nat → Value → List (Value × Value) → Read Value
  | 0, _, _, _ => throw .grammar
  | fuel + 1, col, key, acc => do
    skip
    let v ← if atLineEnd (← following) then readBelow fuel col true
      else do
        skipSpaces
        if atDash (← following) then throw .tokens
        let v ← readInline (col + 1)
        let here ← get
        skipSpaces
        if atColon false (← following) then throw .tokens
        set here
        pure v
    readEntries fuel col (putEntry key v acc)

/-- Reads the entries that follow in a column. -/
def readEntries : Nat → Nat → List (Value × Value) → Read Value
  | 0, _, _ => throw .grammar
  | fuel + 1, col, acc => do
    skipToToken
    let here ← get
    if here.rest.isEmpty || here.column < col then return .dict acc
    else if col < here.column || atDash here.rest then throw .grammar
    else
      let key ← readInline (col + 1)
      let behind ← get
      skipSpaces
      if atColon false (← following) && behind.line == here.line then
        readEntryValue fuel col key acc
      else throw .tokens

/-- Reads the value that stands in the lines below; there may be none. Rows of an entry may stand in its
own column. -/
def readBelow : Nat → Nat → Bool → Read Value
  | 0, _, _ => throw .grammar
  | fuel + 1, col, rows => do
    skipToToken
    let here ← get
    if here.rest.isEmpty then return .none
    else if col < here.column then readBlock fuel (col + 1)
    else if rows && col == here.column && atDash here.rest then readItems fuel col []
    else return .none

/-- Reads the items that follow in a column. -/
def readItems : Nat → Nat → List Value → Read Value
  | 0, _, _ => throw .grammar
  | fuel + 1, col, acc => do
    skipToToken
    let here ← get
    if here.rest.isEmpty || here.column < col then return .list acc
    else if col < here.column then throw .grammar
    else if atDash here.rest then
      skip
      let v ← if atLineEnd (← following) then readBelow fuel col false
        else do
          skipSpaces
          readBlock fuel (col + 1)
      readItems fuel col (acc ++ [v])
    else return .list acc

end

/-- Reads a document. -/
def readDocument : Read Value := do
  skipToToken
  let s ← following
  if s.isEmpty then return .none
  let v ← readBlock (4 * s.length + 4) 0
  skipToToken
  if (← following).isEmpty then return v else throw .grammar

/-- The value of a document. -/
def ofText (text : String) : Except DocumentError Value :=
  (readDocument.run { rest := Text.unifyLines text.toList }).map Prod.fst

end FieldRules.Document
