import FieldRules.Rule.Arguments
import FieldRules.Proofs.Text.Classes
import FieldRules.Proofs.Text.Escape
import FieldRules.Proofs.Text.Lines

/-!
# Tokens of argument lists

What an argument list is cut into whose items are texts, numbers and words, written with commas between them
and in brackets (`tokens_bracketed`). `Lexes` is a cut of the rest of a text that comes to its end without a
fault; each kind of item adds its tokens in front of those of the rest.
-/

namespace FieldRules.Expr

open Rule.Literal (escapeChar printInteger)
open Text (isAsciiDigit isAsciiLetter isAsciiDigit_of_mem)

/-! ## Items -/

/-- An item of an argument list. -/
inductive Atom where
  | text (s : String)
  | number (n : Int)
  | word (w : String)

namespace Atom

/-- An item as it is written. -/
def print : Atom → List Char
  | text s => '\'' :: s.toList.flatMap escapeChar ++ ['\'']
  | number n => printInteger n
  | word w => w.toList

/-- The tokens of an item. -/
def tokens : Atom → List Token
  | text s => [.text s]
  | number n => if n < 0 then [.sign "-", .integer n.natAbs] else [.integer n.natAbs]
  | word w => [.name w]

/-- Numbers have a bound on their digits, and words are ASCII words that start with a letter. -/
def Lexable : Atom → Prop
  | text _ => True
  | number n => n.natAbs < 10 ^ Number.maxDigits
  | word w => ∃ c rest, w.toList = c :: rest ∧ isAsciiLetter c = true ∧
      ∀ x ∈ rest, isAsciiLetter x = true ∨ isAsciiDigit x = true ∨ x = '_'

end Atom

/-- Items as they are written, with commas between them. -/
def printItems (atoms : List Atom) : List Char :=
  [','].intercalate (atoms.map Atom.print)

/-- The tokens of items with commas between them. -/
def itemTokens (atoms : List Atom) : List Token :=
  [Token.sign ","].intercalate (atoms.map Atom.tokens)

/-! ## Cuts -/

/-- The text inside the open brackets is cut into the tokens, from wherever it starts. -/
def Lexes (open_ s : List Char) (toks : List Token) : Prop :=
  ∀ fuel, s.length < fuel → ∀ position line, ∃ items,
    cut fuel position line open_ false s = ⟨items, none⟩ ∧ items.map Lexeme.token = toks

/-- The brackets that are open after a token. -/
def bracketsAfter (open_ : List Char) : Token → Except Problem (List Char)
  | .sign x => trackBracket open_ x
  | _ => .ok open_

theorem Lexes.nil (open_ : List Char) : Lexes open_ [] [] := by
  intro fuel hfuel position line
  obtain _ | fuel := fuel
  · omega
  · have hclose : atClose [] = false := rfl
    refine ⟨[], ?_, rfl⟩
    unfold cut
    rw [hclose, Bool.and_false, if_neg Bool.false_ne_true]

/-- A token that is taken from the start of a text comes before those of the rest. -/
theorem Lexes.cons {open_ open_' s rest : List Char} {token : Token} {toks : List Token}
    (hstep : step? false s = some ⟨some (.ok token), rest⟩) (hlength : rest.length < s.length)
    (hclose : (open_.isEmpty && atClose s) = false) (hpoint : token.isSign "." = false)
    (hbrackets : bracketsAfter open_ token = .ok open_') (hrest : Lexes open_' rest toks) :
    Lexes open_ s (token :: toks) := by
  intro fuel hfuel position line
  obtain _ | fuel := fuel
  · omega
  · obtain ⟨items, hcut, hitems⟩ := hrest fuel (by omega)
      (position + (s.take (s.length - rest.length)).length)
      (line + (s.take (s.length - rest.length)).count '\n')
    refine ⟨⟨token, line⟩ :: items, ?_, by rw [List.map_cons, hitems]⟩
    obtain _ | ⟨c, s⟩ := s
    · exact absurd hlength (Nat.not_lt_zero _)
    · unfold cut
      rw [hclose, if_neg Bool.false_ne_true, hstep]
      -- only a sign can open or close a bracket
      cases token with
      | sign x =>
        have hsign : trackBracket open_ x = .ok open_' := hbrackets
        dsimp only
        rw [hsign]
        dsimp only
        rw [hpoint, hcut]
      | _ =>
        have hsame : open_ = open_' := Except.ok.inj hbrackets
        dsimp only
        rw [hpoint, hsame, hcut]

/-! ## Digits -/

theorem toDigits_eq_cons (n : Nat) :
    ∃ c ds, Nat.toDigits 10 n = c :: ds ∧ isAsciiDigit c = true := by
  cases hds : Nat.toDigits 10 n with
  | nil => exact absurd hds Nat.toDigits_ne_nil
  | cons c ds => exact ⟨c, ds, rfl, isAsciiDigit_of_mem (hds ▸ List.mem_cons_self ..)⟩

/-- No number but zero starts with a zero. -/
theorem head_toDigits {n : Nat} (h : 0 < n) : (Nat.toDigits 10 n).head? ≠ some '0' := by
  -- the first digit of a number is that of a tenth of it, down to numbers of one digit
  induction n using Nat.strongRecOn with
  | ind n ih =>
    by_cases hlt : n < 10
    · have hdigit : ∀ m : Fin 10, 0 < m.val → m.val.digitChar ≠ '0' := by decide
      rw [Nat.toDigits_of_lt_base hlt, List.head?_cons]
      intro heq
      exact hdigit ⟨n, hlt⟩ h (Option.some.inj heq)
    · have hdiv : 0 < n / 10 := by omega
      rw [Nat.toDigits_of_base_le (by decide) (by omega), List.head?_append]
      intro heq
      cases hhead : (Nat.toDigits 10 (n / 10)).head? with
      | none =>
        rw [List.head?_eq_none_iff] at hhead
        exact Nat.toDigits_ne_nil hhead
      | some c =>
        rw [hhead, Option.some_or] at heq
        exact ih (n / 10) (by omega) hdiv (hhead.trans heq)

theorem hexDigit?_of_digit {c : Char} (h : isAsciiDigit c = true) :
    Text.hexDigit? c = some (c.toNat - 48) := by
  have hdigit : ('0' ≤ c && c ≤ '9') = true := h
  rw [Text.hexDigit?, if_pos hdigit]

theorem valueIn_toDigits (n : Nat) : valueIn 10 (Nat.toDigits 10 n) = n := by
  have hall : ∀ ds : List Char, (∀ c ∈ ds, isAsciiDigit c = true) → ∀ m,
      ds.foldl (fun n c => n * 10 + ((Text.hexDigit? c).getD ((Text.decimalValue? c).getD 0))) m
        = Nat.ofDigitChars 10 ds m := by
    intro ds
    induction ds with
    | nil => intro _ m; rfl
    | cons c ds ih =>
      intro hds m
      rw [List.forall_mem_cons] at hds
      rw [List.foldl_cons, Nat.ofDigitChars_cons, ih hds.2, hexDigit?_of_digit hds.1, Nat.mul_comm 10 m]
      rfl
  exact (hall _ (fun c hc => isAsciiDigit_of_mem hc) 0).trans Nat.ofDigitChars_ten_toDigits

/-- A run of digits is taken up to what is no digit. -/
theorem takeDigitRun_append (digit : Char → Bool) (after : Bool) {ds rest : List Char}
    (hds : ∀ c ∈ ds, c ≠ '_' ∧ digit c = true) (hrest : ∀ c ∈ rest.head?, c ≠ '_' ∧ digit c = false) :
    takeDigitRun digit after (ds ++ rest) = (ds, rest) := by
  induction ds generalizing after with
  | nil =>
    cases rest with
    | nil => rfl
    | cons c rest =>
      obtain ⟨hscore, hdigit⟩ := hrest c rfl
      rw [List.nil_append, takeDigitRun, if_neg (by simpa using hscore), if_neg (by simp [hdigit])]
  | cons c ds ih =>
    rw [List.forall_mem_cons] at hds
    obtain ⟨⟨hscore, hdigit⟩, hds⟩ := hds
    rw [List.cons_append, takeDigitRun, if_neg (by simpa using hscore), if_pos hdigit, ih true hds]

/-! ## Steps -/

/-- What may follow an item: a comma or the closing bracket. -/
def Stops (rest : List Char) : Prop :=
  ∃ c r, rest = c :: r ∧ (c = ',' ∨ c = ']')

theorem Stops.head {rest : List Char} (h : Stops rest) {c : Char} (hc : c ∈ rest.head?) :
    c = ',' ∨ c = ']' := by
  obtain ⟨d, r, rfl, hd⟩ := h
  cases Option.some.inj hc
  exact hd

/-- The characters of which an argument list has signs. -/
theorem step?_sign {c : Char} (h : c = '[' ∨ c = ']' ∨ c = ',' ∨ c = '-') (rest : List Char) :
    step? false (c :: rest) = some ⟨some (.ok (.sign (String.singleton c))), rest⟩ := by
  -- none of these characters starts a sign of two
  have hlong : ∀ d, longSigns.contains (String.ofList [c, d]) = false := by
    intro d
    rw [← Bool.not_eq_true, List.contains_iff_mem]
    intro hmem
    simp only [longSigns, List.mem_cons, List.not_mem_nil, or_false, String.ext_iff,
      String.toList_ofList] at hmem
    rcases h with rfl | rfl | rfl | rfl <;> simp at hmem
  have hsign : takeSign? (c :: rest) = some (String.singleton c, rest) := by
    have hshort : shortSigns.contains c = true := by
      rcases h with rfl | rfl | rfl | rfl <;> decide
    cases rest with
    | nil => rw [takeSign?, if_pos hshort]
    | cons d rest => rw [takeSign?, hlong d, if_neg Bool.false_ne_true, if_pos hshort]
  have hfloat : takeFloat? (c :: rest) = none := by
    rcases h with rfl | rfl | rfl | rfl <;> rfl
  have hinteger : takeInteger? (c :: rest) = none := by
    rcases h with rfl | rfl | rfl | rfl <;> rfl
  have hblank : Text.isBlank c = false := by
    rcases h with rfl | rfl | rfl | rfl <;> rfl
  have hname : isNameChar c = false := by
    rcases h with rfl | rfl | rfl | rfl <;> rfl
  have hquote : (c == '\'' || c == '"') = false := by
    rcases h with rfl | rfl | rfl | rfl <;> rfl
  rw [step?, hblank, hfloat, hinteger, hname, hquote, hsign]
  rfl

/-- An escape is taken as a whole, whatever follows its backslash. -/
theorem takeQuoted_escape (quote c : Char) (rest : List Char) :
    takeQuoted quote ('\\' :: c :: rest) = (takeQuoted quote rest).map fun p => ('\\' :: c :: p.1, p.2) :=
  rfl

theorem takeQuoted_plain {quote c : Char} (hquote : c ≠ quote) (hslash : c ≠ '\\') (rest : List Char) :
    takeQuoted quote (c :: rest) = (takeQuoted quote rest).map fun p => (c :: p.1, p.2) := by
  rw [takeQuoted]
  · rw [if_neg (by simpa using hquote), if_neg (by simpa using hslash)]
  · rintro d rest' rfl
    exact absurd rfl hslash

/-- A text with escapes ends at the quote behind it. -/
theorem takeQuoted_flatMap (s rest : List Char) :
    takeQuoted '\'' (s.flatMap escapeChar ++ '\'' :: rest) = some (s.flatMap escapeChar, rest) := by
  induction s with
  | nil => rfl
  | cons c s ih =>
    rw [List.flatMap_cons, List.append_assoc]
    rcases Rule.Literal.escapeChar_cases c with ⟨d, heq, -⟩ | ⟨heq, -, hslash, hquote, -⟩
    · rw [heq, List.cons_append, List.cons_append, List.nil_append, takeQuoted_escape, ih]
      rfl
    · rw [heq, List.cons_append, List.nil_append, takeQuoted_plain hquote hslash, ih]
      rfl

theorem step?_text (s : String) (rest : List Char) :
    step? false ('\'' :: (s.toList.flatMap escapeChar ++ '\'' :: rest))
      = some ⟨some (.ok (.text s)), rest⟩ := by
  have hfloat : ∀ body, takeFloat? ('\'' :: body) = none := fun _ => rfl
  have hinteger : ∀ body, takeInteger? ('\'' :: body) = none := fun _ => rfl
  have hblank : Text.isBlank '\'' = false := rfl
  have hname : isNameChar '\'' = false := rfl
  have hquote : ('\'' == '\'' || '\'' == '"') = true := rfl
  have htoken : textToken (s.toList.flatMap escapeChar) = .ok (.text s) := by
    rw [textToken, Text.unescape_escape]
    dsimp only
    rw [String.ofList_toList]
    rfl
  rw [step?, hblank, hfloat, hinteger, hname, hquote, if_neg Bool.false_ne_true,
    if_neg Bool.false_ne_true, if_pos rfl, takeQuoted_flatMap]
  dsimp only
  rw [if_neg Bool.false_ne_true, htoken]

theorem takeRun_number (n : Nat) {rest : List Char} (hrest : Stops rest) :
    takeRun Text.isDecimal (Nat.toDigits 10 n ++ rest) = (Nat.toDigits 10 n, rest) := by
  refine takeDigitRun_append _ _ (fun c hc => ?_) (fun c hc => ?_)
  · have hdigit := isAsciiDigit_of_mem hc
    have hcode := Text.isAsciiDigit_iff.1 hdigit
    rw [Text.isDecimal_of_ascii (by omega)]
    refine ⟨?_, hdigit⟩
    rintro rfl
    cases hdigit
  · rcases hrest.head hc with rfl | rfl <;> decide

/-- There is no point and no exponent behind the number. -/
theorem takeFloat?_number (n : Nat) {rest : List Char} (hrest : Stops rest) :
    takeFloat? (Nat.toDigits 10 n ++ rest) = none := by
  have hfraction : takeFraction? rest = none := by
    obtain ⟨c, r, rfl, rfl | rfl⟩ := hrest <;> rfl
  have hexponent : takeExponent? rest = none := by
    obtain ⟨c, r, rfl, rfl | rfl⟩ := hrest <;> rfl
  obtain ⟨c, ds, hds, -⟩ := toDigits_eq_cons n
  rw [takeFloat?, takeRun_number n hrest, hds]
  dsimp only
  rw [hfraction, hexponent]

/-- The digits with which an integer starts that is not zero. -/
theorem startsInteger_iff {c : Char} :
    ('1' ≤ c && c ≤ '9') = true ↔ 49 ≤ c.toNat ∧ c.toNat ≤ 57 := by
  rw [Bool.and_eq_true, decide_eq_true_eq, decide_eq_true_eq, Char.le_def, Char.le_def,
    UInt32.le_iff_toNat_le, UInt32.le_iff_toNat_le]
  exact Iff.rfl

theorem takeInteger?_number {n : Nat} (hn : n < 10 ^ Number.maxDigits) {rest : List Char}
    (hrest : Stops rest) : takeInteger? (Nat.toDigits 10 n ++ rest) = some (.ok n, rest) := by
  obtain rfl | hpos := Nat.eq_zero_or_pos n
  · rw [Nat.toDigits_zero]
    obtain ⟨c, r, rfl, rfl | rfl⟩ := hrest <;> rfl
  · have hrun := takeRun_number n hrest
    have hvalue := valueIn_toDigits n
    have hhead := head_toDigits hpos
    have hlength : (Nat.toDigits 10 n).length ≤ Number.maxDigits :=
      (Nat.length_toDigits_le_iff (by decide) (by decide)).2 hn
    obtain ⟨c, ds, hds, hdigit⟩ := toDigits_eq_cons n
    rw [hds] at hrun hvalue hhead hlength ⊢
    -- a zero in front would be taken for the whole number
    have hzero : c ≠ '0' := fun h => hhead (by rw [h, List.head?_cons])
    have hrange : ('1' ≤ c && c ≤ '9') = true := by
      have hcode := Text.isAsciiDigit_iff.1 hdigit
      have hne : c.toNat ≠ 48 := fun h => hzero (Char.toNat_inj.1 h)
      rw [startsInteger_iff]
      omega
    rw [List.cons_append, takeInteger?, if_neg (by simpa using hzero), if_pos hrange,
      ← List.cons_append, hrun]
    dsimp only
    rw [if_neg (Nat.not_lt.2 hlength), hvalue]

/-- A number is taken up to what follows the item. -/
theorem step?_number {n : Nat} (hn : n < 10 ^ Number.maxDigits) {rest : List Char} (hrest : Stops rest) :
    step? false (Nat.toDigits 10 n ++ rest) = some ⟨some (.ok (.integer n)), rest⟩ := by
  have hfloat := takeFloat?_number n hrest
  have hinteger := takeInteger?_number hn hrest
  obtain ⟨c, ds, hds, hdigit⟩ := toDigits_eq_cons n
  have hcode := Text.isAsciiDigit_iff.1 hdigit
  have hblank : Text.isBlank c = false := Text.isBlank_eq_false (by omega) (by omega)
  rw [hds, List.cons_append] at hfloat hinteger ⊢
  rw [step?, hblank, if_neg Bool.false_ne_true, if_neg Bool.false_ne_true, hfloat]
  dsimp only
  rw [hinteger]
  rfl

/-! ## Words -/

/-- Letters, digits and underscores of ASCII stand in names. -/
theorem isNameChar_of_ascii {c : Char} (h : isAsciiLetter c = true ∨ isAsciiDigit c = true ∨ c = '_') :
    isNameChar c = true ∧ Text.isIdentifierPart c = true := by
  have hcode : c.toNat < 128 := by
    rcases h with h | h | rfl
    · have := Text.isAsciiLetter_iff.1 h
      omega
    · have := Text.isAsciiDigit_iff.1 h
      omega
    · decide
  have hpart : Text.isIdentifierPart c = true := by
    rw [Text.isIdentifierPart_of_ascii hcode]
    rcases h with h | h | rfl
    · rw [h, Bool.true_or, Bool.true_or]
    · rw [h, Bool.or_true, Bool.true_or]
    · rfl
  refine ⟨?_, hpart⟩
  rw [isNameChar, hpart, Bool.or_true]

/-- No number starts with a letter. -/
theorem takeFloat?_letter {c : Char} (h : isAsciiLetter c = true) (s : List Char) :
    takeFloat? (c :: s) = none := by
  have hcode := Text.isAsciiLetter_iff.1 h
  have hdecimal : Text.isDecimal c = false := by
    rw [Text.isDecimal_of_ascii (by omega), ← Bool.not_eq_true, Text.isAsciiDigit_iff]
    omega
  have hscore : c ≠ '_' := by
    rintro rfl
    cases h
  rw [takeFloat?, takeRun, takeDigitRun, if_neg (by simpa using hscore), if_neg (by simp [hdecimal])]

theorem takeInteger?_letter {c : Char} (h : isAsciiLetter c = true) (s : List Char) :
    takeInteger? (c :: s) = none := by
  have hzero : c ≠ '0' := by
    rintro rfl
    cases h
  have hrange : ('1' ≤ c && c ≤ '9') = false := by
    have hcode := Text.isAsciiLetter_iff.1 h
    rw [← Bool.not_eq_true, startsInteger_iff]
    omega
  rw [takeInteger?, if_neg (by simpa using hzero), hrange, if_neg Bool.false_ne_true]

/-- A word is a name as a whole. -/
theorem nameToken_word {w : String} (hw : (Atom.word w).Lexable) :
    nameToken w.toList = .ok (.name w) ∧ ∀ x ∈ w.toList, isNameChar x = true := by
  obtain ⟨c, cs, hlist, hletter, hcs⟩ := hw
  have hcode := Text.isAsciiLetter_iff.1 hletter
  have hstart : Text.isIdentifierStart c = true := by
    rw [Text.isIdentifierStart, if_pos (by omega), hletter, Bool.true_or]
  have hparts : cs.all Text.isIdentifierPart = true :=
    List.all_eq_true.2 fun x hx => (isNameChar_of_ascii (hcs x hx)).2
  rw [hlist, List.forall_mem_cons]
  refine ⟨?_, (isNameChar_of_ascii (.inl hletter)).1, fun x hx => (isNameChar_of_ascii (hcs x hx)).1⟩
  rw [nameToken, Text.isIdentifier, hstart, hparts, Bool.and_true, if_pos rfl, ← hlist,
    String.ofList_toList]
  rfl

/-- A word is taken up to what follows the item. -/
theorem step?_word {w : String} (hw : (Atom.word w).Lexable) {rest : List Char} (hrest : Stops rest) :
    step? false (w.toList ++ rest) = some ⟨some (.ok (.name w)), rest⟩ := by
  obtain ⟨htoken, hall⟩ := nameToken_word hw
  have hstop : rest.takeWhile isNameChar = [] ∧ rest.dropWhile isNameChar = rest := by
    obtain ⟨d, r, rfl, rfl | rfl⟩ := hrest <;> exact ⟨rfl, rfl⟩
  obtain ⟨c, cs, hlist, hletter, -⟩ := hw
  have hcode := Text.isAsciiLetter_iff.1 hletter
  have hblank : Text.isBlank c = false := Text.isBlank_eq_false (by omega) (by omega)
  rw [hlist] at htoken hall ⊢
  rw [List.cons_append, step?, hblank, if_neg Bool.false_ne_true, if_neg Bool.false_ne_true,
    takeFloat?_letter hletter]
  dsimp only
  rw [takeInteger?_letter hletter]
  dsimp only
  rw [if_pos (hall c (List.mem_cons_self ..)), ← List.cons_append, List.takeWhile_append_of_pos hall,
    List.dropWhile_append_of_pos hall, hstop.1, hstop.2, List.append_nil, htoken]

/-! ## Lists -/

theorem lexes_number {n : Nat} (hn : n < 10 ^ Number.maxDigits) {rest : List Char} (hrest : Stops rest)
    {toks : List Token} (h : Lexes [']'] rest toks) :
    Lexes [']'] (Nat.toDigits 10 n ++ rest) (.integer n :: toks) := by
  have hpos : 0 < (Nat.toDigits 10 n).length := Nat.length_toDigits_pos
  refine Lexes.cons (step?_number hn hrest) ?_ rfl rfl rfl h
  rw [List.length_append]
  omega

/-- An item comes before what follows it. -/
theorem lexes_atom {a : Atom} (ha : a.Lexable) {rest : List Char} (hrest : Stops rest)
    {toks : List Token} (h : Lexes [']'] rest toks) :
    Lexes [']'] (a.print ++ rest) (a.tokens ++ toks) := by
  cases a with
  | text s =>
    have hprint : (Atom.text s).print ++ rest
        = '\'' :: (s.toList.flatMap escapeChar ++ '\'' :: rest) := by
      rw [Atom.print, List.append_assoc]
      rfl
    rw [hprint]
    refine Lexes.cons (step?_text s rest) ?_ rfl rfl rfl h
    rw [List.length_cons, List.length_append, List.length_cons]
    omega
  | number n =>
    have hdigits : Lexes [']'] (Nat.toDigits 10 n.natAbs ++ rest) (.integer n.natAbs :: toks) :=
      lexes_number ha hrest h
    rw [Atom.print, Atom.tokens, printInteger]
    split
    -- the sign of a negative number is a token of its own
    · exact Lexes.cons (step?_sign (.inr (.inr (.inr rfl))) _) (Nat.lt_succ_self _) rfl rfl rfl hdigits
    · exact hdigits
  | word w =>
    have hpos : 0 < w.toList.length := by
      obtain ⟨c, cs, hlist, -⟩ := ha
      rw [hlist]
      exact Nat.zero_lt_succ _
    refine Lexes.cons (step?_word ha hrest) ?_ rfl rfl rfl h
    rw [Atom.print, List.length_append]
    omega

theorem lexes_end : Lexes [']'] [']'] [.sign "]"] :=
  Lexes.cons (step?_sign (.inr (.inl rfl)) []) (Nat.zero_lt_succ _) rfl rfl rfl (Lexes.nil [])

theorem lexes_items {atoms : List Atom} (h : ∀ a ∈ atoms, a.Lexable) :
    Lexes [']'] (printItems atoms ++ [']']) (itemTokens atoms ++ [.sign "]"]) := by
  have hend : Stops [']'] := ⟨']', [], rfl, .inr rfl⟩
  unfold printItems itemTokens
  induction atoms with
  | nil => exact lexes_end
  | cons a atoms ih =>
    rw [List.forall_mem_cons] at h
    cases atoms with
    | nil =>
      rw [List.map_singleton, List.map_singleton, List.intercalate_singleton,
        List.intercalate_singleton]
      exact lexes_atom h.1 hend lexes_end
    | cons b atoms =>
      have hrest := ih h.2
      rw [List.map_cons, List.map_cons] at hrest
      rw [List.map_cons, List.map_cons, List.map_cons, List.map_cons, List.intercalate_cons_cons,
        List.intercalate_cons_cons, List.append_assoc, List.append_assoc, List.append_assoc,
        List.append_assoc]
      refine lexes_atom h.1 ⟨',', _, rfl, .inl rfl⟩ ?_
      exact Lexes.cons (step?_sign (.inr (.inr (.inl rfl))) _) (Nat.lt_succ_self _) rfl rfl rfl hrest

/-! ## Line ends -/

/-- An item is written without line ends. -/
theorem Atom.not_mem_print {a : Atom} (ha : a.Lexable) : '\r' ∉ a.print := by
  have hdigits : ∀ n, '\r' ∉ Nat.toDigits 10 n := by
    intro n h
    cases isAsciiDigit_of_mem h
  cases a with
  | text s =>
    have hbody : '\r' ∉ s.toList.flatMap escapeChar := by
      rw [List.mem_flatMap]
      rintro ⟨c, -, hmem⟩
      rcases Rule.Literal.escapeChar_cases c with ⟨d, heq, hne⟩ | ⟨heq, hne, -⟩
      · rw [heq, List.mem_cons, List.mem_singleton] at hmem
        exact hmem.elim (by decide) (Ne.symm hne)
      · rw [heq, List.mem_singleton] at hmem
        exact hne hmem.symm
    rw [Atom.print, List.mem_append, List.mem_cons, List.mem_singleton, not_or, not_or]
    exact ⟨⟨by decide, hbody⟩, by decide⟩
  | number n =>
    rw [Atom.print, printInteger]
    split
    · rw [List.mem_cons, not_or]
      exact ⟨by decide, hdigits _⟩
    · exact hdigits _
  | word w =>
    obtain ⟨c, cs, hlist, hletter, hcs⟩ := ha
    rw [Atom.print, hlist, List.mem_cons, not_or]
    refine ⟨?_, fun hmem => ?_⟩
    · rintro rfl
      cases hletter
    · rcases hcs _ hmem with h | h | h <;> cases h

theorem not_mem_printItems {atoms : List Atom} (h : ∀ a ∈ atoms, a.Lexable) :
    '\r' ∉ printItems atoms := by
  unfold printItems
  induction atoms with
  | nil => exact List.not_mem_nil
  | cons a atoms ih =>
    rw [List.forall_mem_cons] at h
    cases atoms with
    | nil =>
      rw [List.map_singleton, List.intercalate_singleton]
      exact Atom.not_mem_print h.1
    | cons b atoms =>
      rw [List.map_cons, List.map_cons, List.intercalate_cons_cons, List.mem_append, List.mem_append,
        List.mem_singleton, not_or, not_or]
      exact ⟨⟨Atom.not_mem_print h.1, by decide⟩, ih h.2⟩

/-- An argument list is cut into its items. -/
theorem tokens_bracketed {atoms : List Atom} (h : ∀ a ∈ atoms, a.Lexable) :
    ∃ items, tokens (bracketed (printItems atoms)) = ⟨items, none⟩ ∧
      items.map Lexeme.token = .sign "[" :: (itemTokens atoms ++ [.sign "]"]) := by
  have hreturn : '\r' ∉ bracketed (printItems atoms) := by
    rw [bracketed, List.mem_append, List.mem_cons, List.mem_singleton, not_or, not_or]
    exact ⟨⟨by decide, not_mem_printItems h⟩, by decide⟩
  have hlines : normalizeLines (bracketed (printItems atoms)) = bracketed (printItems atoms) := by
    rw [normalizeLines, Text.unifyLines_eq_self hreturn, bracketed, List.getLast?_concat, if_neg (by decide)]
  have hlexes : Lexes [] (bracketed (printItems atoms))
      (.sign "[" :: (itemTokens atoms ++ [.sign "]"])) :=
    Lexes.cons (step?_sign (.inl rfl) _) (Nat.lt_succ_self _) rfl rfl rfl (lexes_items h)
  rw [tokens, hlines]
  exact hlexes _ (Nat.lt_succ_self _) 0 1

end FieldRules.Expr
