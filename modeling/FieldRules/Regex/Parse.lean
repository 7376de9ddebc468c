import FieldRules.Number.Text
import FieldRules.Regex.Problem
import FieldRules.Regex.Syntax
import FieldRules.Text.CharName
import FieldRules.Text.Identifier

/-!
# Reading patterns

Reads the text of a pattern into its syntax tree. The text is taken as a row of tokens: a character, or
a backslash with the character after it. A backslash with nothing after it is refused as soon as the
token before it is taken. Every step takes a token or goes into a part of what is left, so the number of
tokens bounds the work; the bound is the fuel of the reader.
-/

namespace FieldRules.Regex

/-- What the reader knows: the text left, the number of characters taken, and the groups so far. The
widths are those of groups that are closed. -/
structure Reader where
  rest : List Char
  position : Nat
  flags : Flags := {}
  widths : List (Option (Nat × Option Nat)) := []
  names : List (String × Nat) := []
  lookGroups : Option Nat := none
  tested : List (Nat × Nat) := []
  variableLook : Bool := false

/-- A step of the reader. -/
abbrev Read := StateT Reader (Except Problem)

/-- Refuses the pattern at a place that many characters before the next token. -/
def fail {α : Type} (cause : Cause) (back : Nat := 0) : Read α := do
  throw ⟨cause, some ((← get).position - back)⟩

/-- The next token, nothing at the end. -/
def nextToken : List Char → List Char
  | '\\' :: c :: _ => ['\\', c]
  | c :: _ => [c]
  | [] => []

/-- The next token without taking it. -/
def peek : Read (List Char) := do
  return nextToken (← get).rest

/-- Moves to the text `rest`, where a lone backslash at the end is refused. -/
def moveTo (rest : List Char) (position : Nat) : Read Unit := do
  if rest == ['\\'] then throw ⟨.escapeAtEnd, some position⟩
  modify fun r => { r with rest, position }

/-- Takes the next token, which is empty at the end. -/
def take : Read (List Char) := do
  let r ← get
  let token := nextToken r.rest
  moveTo (r.rest.drop token.length) (r.position + token.length)
  return token

/-- Takes the next token if it is the given character. -/
def takeIf (c : Char) : Read Bool := do
  if (← peek) == [c] then
    let _ ← take
    return true
  return false

/-- Takes at most `n` characters of a class. -/
def takeWhileUpTo (p : Char → Bool) : Nat → Read (List Char)
  | 0 => return []
  | n + 1 => do
    match ← peek with
    | [c] =>
      if p c then
        let _ ← take
        return c :: (← takeWhileUpTo p n)
      return []
    | _ => return []

/-- Takes a name up to the terminator, which is taken too. -/
def takeName (terminator : Char) (what : String) : Nat → List Char → Read String
  | 0, _ => fail (.missingName what)
  | fuel + 1, acc => do
    let token ← take
    if token.isEmpty then
      if acc.isEmpty then fail (.missingName what)
      else fail (.unterminatedName (String.singleton terminator)) acc.length
    else if token == [terminator] then
      if acc.isEmpty then fail (.missingName what) 1
      else return String.ofList acc
    else takeName terminator what fuel (acc ++ token)

/-- Takes a name of any length. -/
def takeNameTo (terminator : Char) (what : String) : Read String := do
  takeName terminator what ((← get).rest.length + 1) []

/-! ## Escapes -/

/-- An octal digit. -/
def isOctal (c : Char) : Bool :=
  '0' ≤ c && c ≤ '7'

/-- A hexadecimal digit. -/
def isHex (c : Char) : Bool :=
  Text.isAsciiDigit c || ('a' ≤ c && c ≤ 'f') || ('A' ≤ c && c ≤ 'F')

/-- The value of one hexadecimal digit. -/
def hexValue (c : Char) : Nat :=
  if Text.isAsciiDigit c then c.toNat - 48
  else if 'a' ≤ c && c ≤ 'f' then c.toNat - 87
  else c.toNat - 55

/-- The value of digits in a base. -/
def valueOf (base : Nat) (digits : List Char) : Nat :=
  digits.foldl (fun n c => n * base + hexValue c) 0

/-- What an escape stands for. -/
inductive Escape where
  | code (n : Nat)
  | category (c : Category) (negated : Bool)
  | anchor (a : Anchor)
  | backreference (group : Nat)

/-- The characters with a short escape. -/
def shortEscapes : List (Char × Nat) :=
  [('a', 7), ('b', 8), ('f', 12), ('n', 10), ('r', 13), ('t', 9), ('v', 11), ('\\', 92)]

/-- The classes of characters with an escape. -/
def categoryEscapes : List (Char × Escape) :=
  [('d', .category .digit false), ('D', .category .digit true), ('s', .category .space false),
    ('S', .category .space true), ('w', .category .word false), ('W', .category .word true)]

/-- The places in the text with an escape. -/
def anchorEscapes : List (Char × Escape) :=
  [('A', .anchor .textStart), ('b', .anchor .boundary), ('B', .anchor .notBoundary),
    ('Z', .anchor .textEnd)]

/-- Reads the hexadecimal digits of an escape with a fixed number of them. -/
def readHex (letter : Char) (count : Nat) : Read Nat := do
  let digits ← takeWhileUpTo isHex count
  let escape := '\\' :: letter :: digits
  if digits.length != count then fail (.incompleteEscape (String.ofList escape)) escape.length
  let n := valueOf 16 digits
  if 0x10ffff < n then fail (.badEscape (String.ofList escape)) escape.length
  return n

/-- Reads the name of a character in braces. -/
def readCharName : Read Nat := do
  if !(← takeIf '\x7b') then fail .missingBrace
  let name ← takeNameTo '\x7d' "character name"
  match Text.charNamed? name with
  | some c => return c.toNat
  | none => fail (.unknownCharacter (Text.quoteString name)) (name.length + 4)

/-- The escapes that mean the same inside and outside a set, for what follows a backslash. -/
def readCommonEscape (c : Char) : Read (Option Nat) := do
  if c == 'x' then return some (← readHex c 2)
  else if c == 'u' then return some (← readHex c 4)
  else if c == 'U' then return some (← readHex c 8)
  else if c == 'N' then return some (← readCharName)
  else return none

/-- Reads the rest of an escape for a character that has no meaning of its own. -/
def readPlainEscape (c : Char) : Read Nat := do
  if Text.isAsciiLetter c then fail (.badEscape (String.ofList ['\\', c])) 2
  return c.toNat

/-- Refuses an octal number above one byte. -/
def checkOctal (digits : List Char) : Read Nat := do
  let n := valueOf 8 digits
  let escape := '\\' :: digits
  if 0o377 < n then fail (.octalTooLarge (String.ofList escape)) escape.length
  return n

/-- Reads an escape inside a set. -/
def readSetEscape (c : Char) : Read Escape := do
  if let some n := shortEscapes.lookup c then return .code n
  if let some e := categoryEscapes.lookup c then return e
  if let some n ← readCommonEscape c then return .code n
  if isOctal c then
    let more ← takeWhileUpTo isOctal 2
    return .code (← checkOctal (c :: more))
  if Text.isAsciiDigit c then fail (.badEscape (String.ofList ['\\', c])) 2
  return .code (← readPlainEscape c)

/-- The width of a group that is closed. -/
def Reader.closedWidth? (r : Reader) (group : Nat) : Option (Nat × Option Nat) :=
  if group == 0 then none else (r.widths[group - 1]?).join

/-- Refuses a reference from inside a look behind to a group that it holds itself. -/
def checkLookGroup (group : Nat) : Read Unit := do
  let r ← get
  match r.lookGroups with
  | none => return ()
  | some first =>
    if (r.closedWidth? group).isNone then fail .openGroup
    if first ≤ group then fail .groupInsideLook

/-- A reference to a group by its digits. -/
def readReference (digits : List Char) : Read Escape := do
  let group := valueOf 10 digits
  let r ← get
  if group ≤ r.widths.length then
    if (r.closedWidth? group).isNone then fail .openGroup (digits.length + 1)
    checkLookGroup group
    return .backreference group
  fail (.invalidGroup group) digits.length

/-- Reads an escape that starts with a digit that is not zero: three octal digits are a character, any
other one or two digits refer to a group. -/
def readNumberEscape (c : Char) : Read Escape := do
  match ← peek with
  | [d] =>
    if !Text.isAsciiDigit d then return (← readReference [c])
    let _ ← take
    match ← peek with
    | [e] =>
      if isOctal c && isOctal d && isOctal e then
        let _ ← take
        return .code (← checkOctal [c, d, e])
      readReference [c, d]
    | _ => readReference [c, d]
  | _ => readReference [c]

/-- Reads an escape outside a set. -/
def readEscape (c : Char) : Read Escape := do
  if let some e := categoryEscapes.lookup c then return e
  if let some e := anchorEscapes.lookup c then return e
  if let some n := shortEscapes.lookup c then return .code n
  if let some n ← readCommonEscape c then return .code n
  if c == '0' then
    let more ← takeWhileUpTo isOctal 2
    return .code (valueOf 8 more)
  if Text.isAsciiDigit c then return (← readNumberEscape c)
  return .code (← readPlainEscape c)

/-- The node of an escape. -/
def Escape.node : Escape → Node
  | code n => .literal n
  | category c negated => .set false [.category c negated]
  | anchor a => .anchor a
  | backreference g => .backreference g

/-! ## Sets -/

/-- Reads one member of a set from its first token. -/
def readSetToken : List Char → Read Escape
  | ['\\', c] => readSetEscape c
  | [c] => return .code c.toNat
  | _ => return .code 0

/-- The member of a set that an escape stands for. -/
def Escape.setItem : Escape → SetItem
  | code n => .code n
  | category c negated => .category c negated
  | anchor _ | backreference _ => .code 0

/-- Reads the members of a set up to its end; `start` is the place of its bracket. -/
def readSetItems (start : Nat) : Nat → List SetItem → Read (List SetItem)
  | 0, _ => do throw ⟨.unterminatedSet, some start⟩
  | fuel + 1, acc => do
    let first ← take
    if first.isEmpty then throw ⟨.unterminatedSet, some start⟩
    -- A bracket at the very start closes nothing: it is a member.
    if first == [']'] && !acc.isEmpty then return acc.reverse
    let low ← readSetToken first
    if !(← takeIf '-') then return ← readSetItems start fuel (low.setItem :: acc)
    let second ← take
    if second.isEmpty then throw ⟨.unterminatedSet, some start⟩
    -- Before the closing bracket a dash stands for itself.
    if second == [']'] then return (.code '-'.toNat :: low.setItem :: acc).reverse
    let high ← readSetToken second
    let refuse : Read (List SetItem) :=
      fail (.badSpan (String.ofList first) (String.ofList second)) (first.length + 1 + second.length)
    match low, high with
    | .code a, .code b =>
      if b < a then refuse else readSetItems start fuel (.span a b :: acc)
    | _, _ => refuse

/-- Reads a set after its bracket. -/
def readSet : Read Node := do
  let start := (← get).position - 1
  let negated ← takeIf '^'
  let items ← readSetItems start ((← get).rest.length + 1) []
  match negated, items with
  | false, [.code n] => return .literal n
  | _, _ => return .set negated items

/-! ## Repetitions -/

/-- The greatest count that a repetition may name, plus one. -/
def countLimit : Nat := 4294967295

/-- Reads the counts of a repetition in braces. Nothing if the brace stands for itself. -/
def readCounts : Read (Option (Nat × Option Nat)) := do
  let here ← get
  if (← peek) == ['\x7d'] then return none
  let low ← takeWhileUpTo Text.isAsciiDigit here.rest.length
  let high ← if ← takeIf ',' then takeWhileUpTo Text.isAsciiDigit here.rest.length else pure low
  if !(← takeIf '\x7d') then
    -- What has been taken for counts is read again as text.
    moveTo here.rest here.position
    return none
  let least := valueOf 10 low
  if countLimit ≤ least then throw ⟨.countTooLarge, none⟩
  if high.isEmpty then return some (least, none)
  let most := valueOf 10 high
  if countLimit ≤ most then throw ⟨.countTooLarge, none⟩
  if most < least then throw ⟨.countsReversed, some here.position⟩
  return some (least, some most)

/-- The counts of a repetition by its first character. -/
def readQuantifier (c : Char) : Read (Option (Nat × Option Nat)) := do
  if c == '?' then return some (0, some 1)
  else if c == '*' then return some (0, none)
  else if c == '+' then return some (1, none)
  else readCounts

/-- Puts a repetition around the last item; `start` is the place of its first character. -/
def repeatLast (start least : Nat) (most : Option Nat) (items : List Node) : Read (List Node) := do
  match items with
  | [] => throw ⟨.nothingToRepeat, some start⟩
  -- A place in the text or a repetition is repeated with a group around it only.
  | .anchor _ :: _ => throw ⟨.nothingToRepeat, some start⟩
  | .loop .. :: _ => throw ⟨.repeatedTwice, some start⟩
  | item :: before =>
    let greed ← if ← takeIf '?' then pure .lazy
      else if ← takeIf '+' then pure .possessive
      else pure .greedy
    return .loop greed least most item :: before

/-! ## Flags -/

/-- The flag of a letter. -/
def flagOf? : List Char → Option Flags
  | ['i'] => some { ignoreCase := true }
  | ['m'] => some { multiLine := true }
  | ['s'] => some { dotAll := true }
  | ['x'] => some { verbose := true }
  | ['a'] => some { ascii := true }
  | ['u'] => some { wide := true }
  | ['t'] => some { template := true }
  | _ => none

/-- The cause for a token that is no flag. -/
def flagCause (token : List Char) (otherwise : Cause) : Cause :=
  match token with
  | [c] => if Text.isAlpha c then .unknownFlag else otherwise
  | _ => otherwise

/-- Reads the flags that a group turns off, from the first of them on. -/
def readFlagsOff : Nat → List Char → Flags → Read Flags
  | 0, _, off => return off
  | fuel + 1, token, off => do
    if token == ['L'] then fail .alphabetOff
    match flagOf? token with
    | none => return off
    | some flag =>
      if flag.ascii || flag.wide then fail .alphabetOff
      let off := off.union flag
      let next ← take
      if next.isEmpty then fail .missingColon
      if next == [':'] then return off
      if (flagOf? next).isNone && next != ['L'] then
        fail (flagCause next .missingColon) next.length
      readFlagsOff fuel next off

/-- Reads the flags that a group turns on, from the first of them on, and the token that ends them. -/
def readFlagsOn : Nat → List Char → Flags → Read (Flags × List Char)
  | 0, token, on => return (on, token)
  | fuel + 1, token, on => do
    if token == ['L'] then fail .localeFlag
    match flagOf? token with
    | none => return (on, token)
    | some flag =>
      let on := on.union flag
      if (flag.ascii || flag.wide) && on.ascii && on.wide then fail .twoAlphabets
      let next ← take
      if next.isEmpty then fail .missingAfterFlags
      if next == [')'] || next == ['-'] || next == [':'] then return (on, next)
      if (flagOf? next).isNone && next != ['L'] then
        fail (flagCause next .missingAfterFlags) next.length
      readFlagsOn fuel next on

/-- Reads the flags of a group. Nothing if they were flags of the whole pattern. -/
def readFlags (first : List Char) : Read (Option (Flags × Flags)) := do
  let fuel := (← get).rest.length + 1
  let (on, ending) ← if first == ['-'] then pure ({}, first) else readFlagsOn fuel first {}
  if ending == [')'] then
    modify fun r => { r with flags := r.flags.union on }
    return none
  if on.template then fail .globalFlagOn 1
  let off ← if ending == ['-'] then do
      let token ← take
      if token.isEmpty then fail .missingFlag
      if (flagOf? token).isNone && token != ['L'] then
        fail (flagCause token .missingFlag) token.length
      readFlagsOff fuel token {}
    else pure {}
  if off.template then fail .globalFlagOff 1
  if on.meets off then fail .flagOnAndOff 1
  return some (on, off)

/-! ## Groups -/

/-- Refuses a group name that is no identifier. -/
def checkGroupName (name : String) : Read Unit := do
  if !Text.isIdentifier name.toList then
    fail (.badGroupName (Text.quoteString name)) (name.length + 1)

/-- Opens a group and gives its number. -/
def openGroup (name? : Option String) : Read Nat := do
  let r ← get
  let group := r.widths.length + 1
  if let some name := name? then
    if let some earlier := r.names.lookup name then
      fail (.groupRedefined (Text.quoteString name) group earlier) (name.length + 1)
  let names := match name? with
    | some name => (name, group) :: r.names
    | none => r.names
  -- The width comes when the group is closed. Until then references to the group are refused.
  set { r with widths := r.widths ++ [none], names }
  return group

/-- The widths of the groups that are closed. -/
def Reader.groupWidth (r : Reader) (group : Nat) : Nat × Option Nat :=
  (r.closedWidth? group).getD (0, some 0)

/-- Closes a group. -/
def closeGroup (group : Nat) (body : Node) : Read Unit :=
  modify fun r => { r with widths := r.widths.set (group - 1) (some (body.width r.groupWidth)) }

/-- Reads the reference by name after its equals sign. -/
def readNamedReference : Read Node := do
  let name ← takeNameTo ')' "group name"
  checkGroupName name
  let r ← get
  match r.names.lookup name with
  | none => fail (.unknownGroupName (Text.quoteString name)) (name.length + 1)
  | some group =>
    if (r.closedWidth? group).isNone then fail .openGroup (name.length + 1)
    checkLookGroup group
    return .backreference group

/-- Reads the group that a conditional asks for. -/
def readCondition : Read Nat := do
  let name ← takeNameTo ')' "group name"
  let r ← get
  let group ← if Text.isIdentifier name.toList then
      match r.names.lookup name with
      | none => fail (.unknownGroupName (Text.quoteString name)) (name.length + 1)
      | some group => pure group
    else
      match Number.readInt name.toList with
      | .value n =>
        if n < 0 then fail (.badGroupName (Text.quoteString name)) (name.length + 1)
        else if n == 0 then fail .badGroupNumber (name.length + 1)
        else if 1073741823 ≤ n then fail (.invalidGroup n.toNat) (name.length + 1)
        else
          if (r.tested.lookup n.toNat).isNone then
            modify fun r => { r with tested := r.tested ++ [(n.toNat, r.position - name.length - 1)] }
          pure n.toNat
      | _ => fail (.badGroupName (Text.quoteString name)) (name.length + 1)
  checkLookGroup group
  return group

/-- Takes a comment up to its end; `start` is the place of its parenthesis. -/
def skipComment (start : Nat) : Nat → Read Unit
  | 0 => throw ⟨.unterminatedComment, some start⟩
  | fuel + 1 => do
    let token ← take
    if token.isEmpty then throw ⟨.unterminatedComment, some start⟩
    if token != [')'] then skipComment start fuel

/-- Takes a comment of a verbose pattern up to the end of its line. -/
def skipLine : Nat → Read Unit
  | 0 => return ()
  | fuel + 1 => do
    let token ← take
    if !token.isEmpty && token != ['\n'] then skipLine fuel

/-- Refuses a group that is not closed. -/
def closeParenthesis (start : Nat) : Read Unit := do
  if !(← takeIf ')') then throw ⟨.unterminatedGroup, some start⟩

/-- How a group starts: what kind of group it is, or a node that is whole already. -/
inductive Opening where
  | whole (node? : Option Node)
  | capture (name? : Option String)
  | body (on off : Flags)
  | look (negative : Bool)
  | lookBehind
  | conditional
  | atomic

/-- Reads the start of a group after the mark of an extension of its own. -/
def readExtension : Read Opening := do
  if ← takeIf '<' then
    let name ← takeNameTo '>' "group name"
    checkGroupName name
    return .capture (some name)
  if ← takeIf '=' then return .whole (some (← readNamedReference))
  let other ← take
  if other.isEmpty then fail .unexpectedEnd
  fail (.unknownExtension ("P" ++ String.ofList other)) (other.length + 2)

/-- Reads the start of a group after its question mark and the token behind it. -/
def readMarked (start : Nat) (first : Bool) (token : List Char) : Read Opening := do
  match token with
  | [] => fail .unexpectedEnd
  | ['P'] => readExtension
  | [':'] => return .body {} {}
  | ['#'] =>
    skipComment start ((← get).rest.length + 1)
    return .whole none
  | ['='] => return .look false
  | ['!'] => return .look true
  | ['<'] => return .lookBehind
  | ['('] => return .conditional
  | ['>'] => return .atomic
  | token =>
    if (flagOf? token).isSome || token == ['L'] || token == ['-'] then
      match ← readFlags token with
      | none =>
        if !first then throw ⟨.flagsNotAtStart, some start⟩
        return .whole none
      | some (on, off) => return .body on off
    else fail (.unknownExtension (String.ofList token)) (token.length + 1)

/-- Reads the start of a group after its parenthesis. -/
def readOpening (start : Nat) (first : Bool) : Read Opening := do
  if ← takeIf '?' then readMarked start first (← take) else return .capture none

/-- A blank that a verbose pattern does not count. -/
def isPatternBlank (c : Char) : Bool :=
  c == ' ' || (9 ≤ c.toNat && c.toNat ≤ 13)

/-- What comes next in a sequence. -/
inductive Item where
  | finish
  | skipped
  | node (n : Node)
  | quantifier (least : Nat) (most? : Option Nat)
  | group

/-- Reads what a character starts, but for a group. -/
def readCharacter (verbose : Bool) (c : Char) : Read Item := do
  if verbose && isPatternBlank c then return .skipped
  else if verbose && c == '#' then
    skipLine ((← get).rest.length + 1)
    return .skipped
  else if c == '[' then return .node (← readSet)
  else if c == '*' || c == '+' || c == '?' || c == '\x7b' then
    match ← readQuantifier c with
    | none => return .node (.literal c.toNat)
    | some (least, most) => return .quantifier least most
  else if c == '.' then return .node .any
  else if c == '^' then return .node (.anchor .lineStart)
  else if c == '$' then return .node (.anchor .lineEnd)
  else return .node (.literal c.toNat)

/-- Reads what comes next in a sequence, which ends before a bar or a closing parenthesis. Of a group
only the parenthesis is read. -/
def readItem (verbose : Bool) : Read Item := do
  let token ← peek
  if token.isEmpty || token == ['|'] || token == [')'] then return .finish
  let _ ← take
  match token with
  | ['\\', c] => return .node (← readEscape c).node
  | [c] => if c == '(' then return .group else readCharacter verbose c
  | _ => return .finish

mutual

/-- Reads alternatives up to a closing parenthesis or the end. -/
def readChoice (fuel : Nat) (nested verbose : Bool) (acc : List Node) : Read Node := do
  match fuel with
  | 0 => return .empty
  | fuel + 1 =>
    let item ← readSequence fuel nested verbose (!nested && acc.isEmpty) []
    if ← takeIf '|' then
      let verbose ← if nested then pure verbose else pure (← get).flags.verbose
      readChoice fuel nested verbose (item :: acc)
    else
      return .choice (item :: acc).reverse

/-- Reads items up to a bar, a closing parenthesis or the end. -/
def readSequence (fuel : Nat) (nested verbose first : Bool) (acc : List Node) : Read Node := do
  match fuel with
  | 0 => return .sequence acc.reverse
  | fuel + 1 =>
    let start := (← get).position
    match ← readItem verbose with
    | .finish => return .sequence acc.reverse
    | .skipped => readSequence fuel nested verbose first acc
    | .node node => readSequence fuel nested verbose first (node :: acc)
    | .quantifier least most =>
      readSequence fuel nested verbose first (← repeatLast start least most acc)
    | .group =>
      match ← readGroup fuel start verbose (first && acc.isEmpty) with
      | some node => readSequence fuel nested verbose first (node :: acc)
      | none =>
        -- Flags of the whole pattern stand before all else, so they hold from here on.
        let verbose ← if nested then pure verbose else pure (verbose || (← get).flags.verbose)
        readSequence fuel nested verbose first acc

/-- Reads a group after its parenthesis, which stands at `start`. Nothing if it matches nothing. -/
def readGroup (fuel start : Nat) (verbose first : Bool) : Read (Option Node) := do
  match fuel with
  | 0 => return none
  | fuel + 1 =>
    match ← readOpening start first with
    | .whole node? => return node?
    | .capture name? => return some (← readCapture fuel start verbose name?)
    | .body on off => return some (← readBody fuel start verbose on off)
    | .look negative =>
      let body ← readChoice fuel true verbose []
      closeParenthesis start
      return some (.look none negative body)
    | .lookBehind => return some (← readLookBehind fuel start verbose)
    | .conditional => return some (← readConditional fuel start verbose)
    | .atomic =>
      let body ← readChoice fuel true verbose []
      closeParenthesis start
      return some (.atomic body)

/-- Reads the body of a group that captures. -/
def readCapture (fuel start : Nat) (verbose : Bool) (name? : Option String) : Read Node := do
  match fuel with
  | 0 => return .empty
  | fuel + 1 =>
    let group ← openGroup name?
    let body ← readChoice fuel true verbose []
    closeParenthesis start
    closeGroup group body
    return .group (some group) {} {} body

/-- Reads the body of a group that changes flags. -/
def readBody (fuel start : Nat) (verbose : Bool) (on off : Flags) : Read Node := do
  match fuel with
  | 0 => return .empty
  | fuel + 1 =>
    let body ← readChoice fuel true ((verbose || on.verbose) && !off.verbose) []
    closeParenthesis start
    return .group none on off body

/-- Reads a look behind after its angle bracket. -/
def readLookBehind (fuel start : Nat) (verbose : Bool) : Read Node := do
  match fuel with
  | 0 => return .empty
  | fuel + 1 =>
    let sign ← take
    if sign.isEmpty then fail .unexpectedEnd
    if sign != ['='] && sign != ['!'] then
      fail (.unknownExtension ("<" ++ String.ofList sign)) (sign.length + 2)
    let outer := (← get).lookGroups
    -- Inside of each other the outermost look behind decides which groups are its own.
    if outer.isNone then modify fun r => { r with lookGroups := some (r.widths.length + 1) }
    let body ← readChoice fuel true verbose []
    modify fun r => { r with lookGroups := outer }
    closeParenthesis start
    let (low, high) := body.width (← get).groupWidth
    -- Faults in the text that follows come first, so this one waits for the end.
    if high != some low then modify fun r => { r with variableLook := true }
    return .look (some low) (sign == ['!']) body

/-- Reads a conditional after its second parenthesis. -/
def readConditional (fuel start : Nat) (verbose : Bool) : Read Node := do
  match fuel with
  | 0 => return .empty
  | fuel + 1 =>
    let group ← readCondition
    let yes ← readSequence fuel true verbose false []
    let no ← if ← takeIf '|' then do
        let no ← readSequence fuel true verbose false []
        if (← peek) == ['|'] then fail .tooManyBranches
        pure no
      else pure .empty
    closeParenthesis start
    return .conditional group yes no

end

/-- Reads a whole pattern. -/
def readPattern (fuel : Nat) : Read Node := do
  let r ← get
  moveTo r.rest r.position
  let node ← readChoice fuel false false []
  let r ← get
  if r.flags.ascii && r.flags.wide then throw ⟨.incompatibleAlphabets, none⟩
  if !r.rest.isEmpty then fail .unbalanced
  -- The group that a conditional asks for may be opened behind it.
  for (group, position) in r.tested do
    if r.widths.length < group then throw ⟨.invalidGroup group, some position⟩
  if r.variableLook then throw ⟨.variableLook, none⟩
  return node

end FieldRules.Regex

namespace FieldRules

/-- Reads the text of a pattern. -/
def Regex.compile (source : String) : Except Regex.Problem Regex := do
  let text := source.toList
  let (node, reader) ← (Regex.readPattern (6 * text.length + 16)).run { rest := text, position := 0 }
  return { source, flags := reader.flags, node }

end FieldRules
