import FieldRules.Regex.Parse
import FieldRules.Rule.Arguments
import FieldRules.Rule.Fragment
import FieldRules.Text.Alnum

/-!
# Reading rules

A rule text is a row of fragments, each ended by a semicolon. A fragment has up to four parts: a name,
arguments in parentheses, groups in angle brackets, and a message in double angle brackets. The first
character of a part says which one it is; characters that start none are skipped. A strict reader asks
for the parts in this order and for group names without blanks.
-/

namespace FieldRules.Rule

/-- The parts of a fragment. -/
inductive Part where
  | name | arguments | groups | message
  deriving DecidableEq, Repr

/-- The place of a part in a fragment. -/
def Part.rank : Part → Nat
  | name => 1
  | arguments => 2
  | groups => 3
  | message => 4

/-- How a part looks, the name apart. -/
def Part.sample : Part → String
  | name => ""
  | arguments => "(...)"
  | groups => "<...>"
  | message => "<<...>>"

/-- A fragment that is being read, with the parts that have been seen. -/
structure Draft where
  name? : Option String := none
  arguments : List Value := []
  groups : List String := []
  message : Option String := none
  seen : List Part := []

/-- The character that ends a fragment. -/
def delimiter : Char := ';'

/-- A character of a name. -/
def isNameChar (c : Char) : Bool :=
  Text.isAlnum c || c == '_' || c == '-' || c == '$'

/-- The text up to what is left of it. -/
def before (text rest : List Char) : String :=
  String.ofList (text.take (text.length - rest.length))

/-- The text without the delimiters at its end. -/
def undelimited (text : List Char) : String :=
  String.ofList (text.reverse.dropWhile (· == delimiter)).reverse

/-! ## Names -/

/-- Whether a name may end where the given text follows. -/
def endsName : List Char → Bool
  | [] => false
  | c :: _ => c == '<' || c == '(' || c == delimiter

/-- Reads a name: blanks may stand between it and what ends it, nothing else. -/
def readName (text rest : List Char) : Except Error (String × List Char) :=
  let name := rest.takeWhile isNameChar
  match rest.dropWhile isNameChar with
  | [] => pure (String.ofList (Text.trim name), [])
  | c :: after =>
    if endsName (c :: after) || Text.isBlank c && endsName (after.dropWhile Text.isBlank) then
      pure (String.ofList (Text.trim name), c :: after)
    else throw (.rule (.badNameChar (before text after) c (String.ofList text)))

/-! ## Arguments -/

/-- Where the reader of arguments is: between texts, in a text, or in a pattern. The text of a pattern
is kept from its end. -/
inductive Mode where
  | plain
  | quoted (quote : Char) (escaped : Bool)
  | pattern (source : List Char)
  deriving DecidableEq, Repr

/-- The name that stands for the pattern with the given number. -/
def patternName (n : Nat) : String :=
  s!"regex_{n}"

/-- Reads a pattern; `shown` is the rule text up to its end. -/
def readPattern (text : List Char) (shown : String) (source : List Char) : Except Error Regex :=
  let source := String.ofList source
  match Regex.compile source with
  | .ok r => pure r
  | .error p =>
    -- These two come as errors of another kind, which the reader lets through.
    if p.cause == .countTooLarge || p.cause == .incompatibleAlphabets then throw (.pattern source p)
    else throw (.rule (.pattern shown source p (String.ofList text)))

/-- What has been read of arguments: the expression from its end, and the patterns in it. -/
structure Gathered where
  buffer : List Char := []
  patterns : List Regex := []

/-- Adds a character to the expression. -/
def Gathered.push (g : Gathered) (c : Char) : Gathered :=
  { g with buffer := c :: g.buffer }

/-- Adds a pattern, for which its name stands in the expression. -/
def Gathered.addPattern (g : Gathered) (r : Regex) : Gathered :=
  { buffer := (patternName g.patterns.length).toList.reverse ++ g.buffer,
    patterns := g.patterns ++ [r] }

/-- Reads arguments up to the closing parenthesis: the expression, with names in the place of patterns
and without blanks, and the patterns. -/
def gather (text : List Char) : Mode → Gathered → List Char → Except Error (Gathered × List Char)
  | _, _, [] => throw (.rule (.argumentsOpen (undelimited text) (String.ofList text)))
  | .pattern source, g, '\\' :: '/' :: rest => gather text (.pattern ('/' :: source)) g rest
  | .pattern source, g, c :: rest =>
    if c == '/' then do
      let r ← readPattern text (before text rest) source.reverse
      gather text .plain (g.addPattern r) rest
    else gather text (.pattern (c :: source)) g rest
  | .quoted quote escaped, g, c :: rest =>
    if escaped then gather text (.quoted quote false) (g.push c) rest
    else if c == '\\' then gather text (.quoted quote true) (g.push c) rest
    else if c == quote then gather text .plain (g.push c) rest
    else if c == '\'' || c == '"' then
      throw (.rule (.bareQuote (before text rest) c quote (String.ofList text)))
    else gather text (.quoted quote false) (g.push c) rest
  | .plain, g, c :: rest =>
    if c == ')' then pure (g, rest)
    else if c == '/' then gather text (.pattern []) g rest
    else if c == '\'' || c == '"' then gather text (.quoted c false) (g.push c) rest
    else if Text.isBlank c then gather text .plain g rest
    else gather text .plain (g.push c) rest

/-- The values that the names of patterns stand for. -/
def patternVariables (patterns : List Regex) : List (String × Value) :=
  patterns.zipIdx.map fun (r, i) => (patternName i, .pattern r)

section Arguments
variable {m : Type → Type} [Monad m] [MonadLiftT (Except Error) m]

/-- Reads arguments after their parenthesis. `compile` reads the list of them as an expression. -/
def readArgumentsBy (compile : String → m Expr) (text rest : List Char) :
    m (List Value × List Char) := do
  let (g, rest) ← liftM (gather text .plain {} rest)
  let values ← resolveArgumentsBy compile (String.ofList g.buffer.reverse)
    (patternVariables g.patterns)
  return (values, rest)

end Arguments

/-- Reads arguments after their parenthesis. -/
def readArguments (text rest : List Char) : Except Error (List Value × List Char) :=
  readArgumentsBy compileArguments text rest

theorem readArguments_eq_bind (text rest : List Char) :
    readArguments text rest = do
      let (g, rest) ← gather text .plain {} rest
      let values ← resolveArguments (String.ofList g.buffer.reverse) (patternVariables g.patterns)
      return (values, rest) := rfl

/-- The values of arguments are those of the expression that is gathered from them. -/
theorem readArguments_of_gather {text s rest : List Char} {g : Gathered}
    (h : gather text .plain {} s = .ok (g, rest)) :
    readArguments text s = (fun vs => (vs, rest)) <$>
      resolveArguments (String.ofList g.buffer.reverse) (patternVariables g.patterns) := by
  rw [readArguments_eq_bind, h]
  dsimp only [Bind.bind, Except.bind]
  cases resolveArguments (String.ofList g.buffer.reverse) (patternVariables g.patterns) <;> rfl

/-! ## Groups and messages -/

/-- Reads group names up to the closing bracket. The name that is being read is given from its end;
`gap` says whether blanks have been seen in it. -/
def readGroups (strict : Bool) (text : List Char) (groups : List String) (current : List Char)
    (gap : Bool) : List Char → Except Error (List String × List Char)
  | [] => throw (.rule (.groupsOpen (undelimited text) (String.ofList text)))
  | c :: rest =>
    let finished := groups ++ [String.ofList (Text.trim current.reverse)]
    if c == '>' then pure (finished, rest)
    else if c == ',' then readGroups strict text finished [] false rest
    else if Text.isBlank c then
      if current.isEmpty then readGroups strict text groups current gap rest
      else readGroups strict text groups (c :: current) true rest
    else if gap && strict then
      throw (.rule (.blankInGroup (before text (c :: rest)) (String.ofList text)))
    else readGroups strict text groups (c :: current) gap rest

/-- Reads a message up to its double bracket. -/
def readMessage (text rest : List Char) : Except Error (String × List Char) :=
  match Text.cutAt? ">>".toList rest with
  | some (message, after) => pure (String.ofList message, after)
  | none => throw (.rule (.messageOpen (undelimited text) (String.ofList text)))

/-! ## Fragments -/

/-- The part that starts with the given text. -/
def partAt? : List Char → Option Part
  | '<' :: '<' :: _ => some .message
  | '<' :: _ => some .groups
  | '(' :: _ => some .arguments
  | c :: _ => if isNameChar c then some .name else none
  | [] => none

section Parts
variable {m : Type → Type} [Monad m] [MonadLiftT (Except Error) m]

/-- Reads a part into a draft. -/
def readPartBy (compile : String → m Expr) (strict : Bool) (text : List Char) (part : Part)
    (rest : List Char) (d : Draft) : m (Draft × List Char) := do
  -- A part that has been read before is read again: the later one counts, and both have been seen.
  let d := { d with seen := d.seen ++ [part] }
  match part with
  | .name =>
    let (name, rest) ← liftM (readName text rest)
    return ({ d with name? := some name }, rest)
  | .arguments =>
    let (arguments, rest) ← readArgumentsBy compile text (rest.drop 1)
    return ({ d with arguments }, rest)
  | .groups =>
    let (groups, rest) ← liftM (readGroups strict text [] [] false (rest.drop 1))
    return ({ d with groups }, rest)
  | .message =>
    let (message, rest) ← liftM (readMessage text (rest.drop 2))
    return ({ d with message := some message }, rest)

end Parts

/-- Reads a part into a draft. -/
def readPart (strict : Bool) (text : List Char) (part : Part) (rest : List Char) (d : Draft) :
    Except Error (Draft × List Char) :=
  readPartBy compileArguments strict text part rest d

theorem readPart_eq_bind (strict : Bool) (text : List Char) (part : Part) (rest : List Char)
    (d : Draft) :
    readPart strict text part rest d =
      let d := { d with seen := d.seen ++ [part] }
      match part with
      | .name => do
        let (name, rest) ← readName text rest
        return ({ d with name? := some name }, rest)
      | .arguments => do
        let (arguments, rest) ← readArguments text (rest.drop 1)
        return ({ d with arguments }, rest)
      | .groups => do
        let (groups, rest) ← readGroups strict text [] [] false (rest.drop 1)
        return ({ d with groups }, rest)
      | .message => do
        let (message, rest) ← readMessage text (rest.drop 2)
        return ({ d with message := some message }, rest) := by
  cases part <;> rfl

/-- The parts in their order. -/
def inOrder (parts : List Part) : List Part :=
  parts.mergeSort fun a b => a.rank ≤ b.rank

/-- Ends a fragment. -/
def finish (strict : Bool) (text : List Char) (d : Draft) : Except Error Fragment :=
  match d.name? with
  | none => throw (.rule (.nameless (String.ofList text)))
  | some name =>
    let ordered := inOrder d.seen
    if name.isEmpty then throw (.rule (.nameless (String.ofList text)))
    else if strict && d.seen != ordered then
      let expected := name ++ "".intercalate (ordered.map Part.sample)
      throw (.rule (.disordered name expected (String.ofList text)))
    else pure (.make name d.arguments d.groups d.message)

section Fragments
variable {m : Type → Type} [Monad m] [MonadLiftT (Except Error) m]

/-- Reads fragments from the rest of a text. Every step takes a character, so the length of the text is
fuel enough. -/
def readFragmentsBy (compile : String → m Expr) (strict : Bool) (text : List Char) :
    Nat → Option Draft → List Char → m (List Fragment)
  | 0, _, _ => pure []
  | _, _, [] => pure []
  | fuel + 1, draft?, c :: rest =>
    if c == delimiter then do
      match draft? with
      | some d =>
        let f ← liftM (finish strict text d)
        return f :: (← readFragmentsBy compile strict text fuel none rest)
      -- A delimiter behind a delimiter ends nothing.
      | none => readFragmentsBy compile strict text fuel none rest
    else
      match partAt? (c :: rest) with
      | none => readFragmentsBy compile strict text fuel draft? rest
      | some part => do
        let (d, rest) ← readPartBy compile strict text part (c :: rest) (draft?.getD {})
        readFragmentsBy compile strict text fuel (some d) rest

end Fragments

/-- Reads fragments from the rest of a text. -/
def readFragments (strict : Bool) (text : List Char) (fuel : Nat) (draft? : Option Draft)
    (rest : List Char) : Except Error (List Fragment) :=
  readFragmentsBy compileArguments strict text fuel draft? rest

section Equations
variable {strict : Bool} {text : List Char} {fuel : Nat}

/-- At a delimiter the fragment ends. -/
theorem readFragments_delimiter (draft? : Option Draft) (rest : List Char) :
    readFragments strict text (fuel + 1) draft? (delimiter :: rest) = match draft? with
      | some d => do return (← finish strict text d) :: (← readFragments strict text fuel none rest)
      | none => readFragments strict text fuel none rest := by
  rw [readFragments, readFragmentsBy.eq_def]
  exact if_pos (beq_self_eq_true delimiter)

/-- At any other character the part that starts with it is read, if there is one. -/
theorem readFragments_cons {c : Char} (hc : c ≠ delimiter) (draft? : Option Draft) (s : List Char) :
    readFragments strict text (fuel + 1) draft? (c :: s) = match partAt? (c :: s) with
      | none => readFragments strict text fuel draft? s
      | some part => readPart strict text part (c :: s) (draft?.getD {}) >>= fun read =>
        readFragments strict text fuel (some read.1) read.2 := by
  have hother : ¬(c == delimiter) = true := by simpa using hc
  rw [readFragments, readFragmentsBy.eq_def]
  exact if_neg hother

end Equations

/-- A rule text without blanks around it and with a delimiter at its end. -/
def clean (text? : Option String) : Except Error String :=
  match text? with
  | none => throw (.rule .missing)
  | some text =>
    let trimmed := Text.trim text.toList
    if trimmed.isEmpty then throw (.rule (.blank text))
    else if trimmed.getLast? == some delimiter then pure (String.ofList trimmed)
    else pure (String.ofList (trimmed ++ [delimiter]))

/-- Reads a rule text. `compile` reads the argument lists in it as expressions. -/
def parseBy {m : Type → Type} [Monad m] [MonadLiftT (Except Error) m] (compile : String → m Expr)
    (strict : Bool) (text? : Option String) : m (List Fragment) := do
  let text := (← liftM (clean text?)).toList
  readFragmentsBy compile strict text (text.length + 1) none text

/-- Reads a rule text, and every argument list in it anew. -/
def parse (strict : Bool) (text? : Option String) : Except Error (List Fragment) :=
  parseBy compileArguments strict text?

theorem parse_eq_bind (strict : Bool) (text? : Option String) :
    parse strict text? = clean text? >>= fun text =>
      readFragments strict text.toList (text.toList.length + 1) none text.toList := rfl

end FieldRules.Rule
