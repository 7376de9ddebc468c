import FieldRules.Proofs.Handler.Verdict
import FieldRules.Proofs.Regex.Line
import FieldRules.Proofs.Text.Classes

/-!
# Common patterns

What the common patterns for numerals and for classes of characters accept, in terms of the text alone: a numeral is a
sign, which may be missing, and a body of digits (`IsSigned`), and a text of a class has a character, all of them
within certain spans of code points (`IsSpelled`).

* `signed_partition`: the signed patterns share out the texts of the pattern without a sign, and no text is both an
  integer and a decimal number;
* `classes_nested`: the texts of the classes of characters include one another.
-/

namespace FieldRules

open Regex Text

namespace Handler

/-! ## The verdict -/

/-- The common patterns have their names. -/
def HasCommonPatterns (r : Registry) : Prop :=
  ∀ name ∈ commonPattern.names, r.find? name = some commonPattern

/-- The source of the common pattern of that name. -/
def sourceOf (name : String) : String :=
  (commonPatterns.lookup name).getD ""

/-- Whether a text matches the common pattern of that name. -/
def isCommon (name : String) (s : List Char) : Bool :=
  matchesSource (sourceOf name) s

/-- The verdict on a text by the common pattern of that name. -/
def patternVerdict? (r : Registry) (l : Leniency) (ctx : Context) (f : Fragment) (s name : String) : Option Bool :=
  (Dispatch.run r l (.string s) { f with name, arguments := [] } ctx).verdict?

theorem hasCommonPatterns_builtin : HasCommonPatterns .builtin :=
  List.map_inj_left.1 (rfl : commonPattern.names.map Registry.builtin.find?
    = commonPattern.names.map fun _ => some commonPattern)

/-- A text that is not blank passes a common pattern if it matches that. -/
theorem patternVerdict?_eq {r : Registry} (hr : HasCommonPatterns r) {s : String} (hs : s.toList.all isBlank = false)
    (l : Leniency) (ctx : Context) (f : Fragment) (name : String) (hname : name ∈ commonPattern.names) :
    patternVerdict? r l ctx f s name = some (isCommon name s.toList) := by
  refine (Dispatch.verdict?_run (hr name hname) rfl rfl l (.string s) ctx).trans ((if_pos rfl).trans ?_)
  have hchars : charsOf (.string s) = s.toList := rfl
  unfold commonPattern
  dsimp only
  rw [hchars, hs, if_neg Bool.false_ne_true]
  exact verdict?_acceptIf _ ctx _ none

/-! ## Numerals -/

/-- One of certain signs, and behind it the body of a numeral. -/
def IsSigned (signs : List (List Char)) (IsBody : List Char → Prop) (s : List Char) : Prop :=
  ∃ sign body, s = sign ++ body ∧ sign ∈ signs ∧ IsBody body

/-- Decimal digits of any script, at least one. -/
def IsWhole (s : List Char) : Prop :=
  s ≠ [] ∧ ∀ c ∈ s, isDecimal c = true

/-- Decimal digits behind a point, in front of which there may be digits as well. -/
def IsFraction (s : List Char) : Prop :=
  ∃ whole digits, s = whole ++ '.' :: digits ∧ (∀ c ∈ whole, isDecimal c = true) ∧ IsWhole digits

section Numerals
variable {signs signs' : List (List Char)} {IsBody : List Char → Prop} {s : List Char}

theorem isSigned_append :
    IsSigned (signs ++ signs') IsBody s ↔ IsSigned signs IsBody s ∨ IsSigned signs' IsBody s := by
  constructor
  · rintro ⟨sign, body, rfl, hsign, hbody⟩
    exact (List.mem_append.1 hsign).imp (⟨sign, body, rfl, ·, hbody⟩) (⟨sign, body, rfl, ·, hbody⟩)
  · rintro (⟨sign, body, rfl, hsign, hbody⟩ | ⟨sign, body, rfl, hsign, hbody⟩)
    · exact ⟨sign, body, rfl, List.mem_append_left _ hsign, hbody⟩
    · exact ⟨sign, body, rfl, List.mem_append_right _ hsign, hbody⟩

/-- A numeral with a minus sign has no other sign, and is none without a sign, as no body starts with the sign. -/
theorem not_isSigned_of_minus (hbody : ∀ body, ¬IsBody ('-' :: body)) (h : IsSigned [['-']] IsBody s) :
    ¬IsSigned [[], ['+']] IsBody s := by
  obtain ⟨_, body, rfl, hminus, -⟩ := h
  obtain rfl := List.mem_singleton.1 hminus
  rintro ⟨sign, body', heq, hsign, hbody'⟩
  rcases List.mem_cons.1 hsign with rfl | hsign
  · obtain rfl : '-' :: body = body' := heq
    exact hbody body hbody'
  · obtain rfl := List.mem_singleton.1 hsign
    cases heq

theorem not_isWhole_minus (body : List Char) : ¬IsWhole ('-' :: body) := fun h =>
  absurd (h.2 '-' (List.mem_cons_self ..)) (by decide)

theorem not_isFraction_minus (body : List Char) : ¬IsFraction ('-' :: body) := by
  rintro ⟨whole, digits, heq, hwhole, -⟩
  cases whole with
  | nil => cases heq
  | cons c whole =>
    obtain rfl : '-' = c := (List.cons.inj heq).1
    exact absurd (hwhole '-' (List.mem_cons_self ..)) (by decide)

/-- The point tells decimal numbers from integers. -/
theorem not_isSigned_fraction (hsigns : ∀ sign ∈ signs, '.' ∉ sign) (h : IsSigned signs IsWhole s) :
    ¬IsSigned signs' IsFraction s := by
  obtain ⟨sign, body, rfl, hsign, hbody⟩ := h
  rintro ⟨sign', _, heq, -, whole, digits, rfl, -, -⟩
  -- In an integer the point would stand in the sign or among the digits.
  have hpoint : '.' ∈ sign ++ body := by
    rw [heq]
    simp
  rcases List.mem_append.1 hpoint with hpoint | hpoint
  · exact hsigns sign hsign hpoint
  · exact absurd (hbody.2 '.' hpoint) (by decide)

end Numerals

/-! ## Nodes -/

/-- Decimal digits, at least so many. -/
def digitsNode (least : Nat) : Node :=
  .loop .greedy least none (.set false [.category .digit false])

theorem digit_holds (c : Char) :
    ([SetItem.category .digit false].any (SetItem.holds {} c) != false) = isDecimal c := by
  simp [SetItem.holds, Category.holds]

theorem fit_digitsNode {least : Nat} {before s after : List Char} :
    (digitsNode least).fit {} before s after ↔ least ≤ s.length ∧ ∀ c ∈ s, isDecimal c = true := by
  refine Fit.repetition_one.trans (and_congr_right fun _ => forall₂_congr fun c _ => ?_)
  rw [digit_holds]

theorem isCode_iff {c d : Char} : isCode {} c.toNat d = true ↔ d = c :=
  beq_iff_eq.trans Char.toNat_inj

theorem fit_literal {c : Char} {before s after : List Char} :
    (Node.literal c.toNat).fit {} before s after ↔ s = [c] := by
  constructor
  · rintro ⟨d, hd, rfl⟩
    rw [isCode_iff.1 hd]
  · rintro rfl
    exact ⟨c, isCode_iff.2 rfl, rfl⟩

/-- A plus or a minus sign, or none. -/
def signNode : Node :=
  .loop .greedy 0 (some 1) (.set false [.code '+'.toNat, .code '-'.toNat])

/-- A plus sign or none. -/
def plusNode : Node :=
  .loop .greedy 0 (some 1) (.literal '+'.toNat)

theorem fit_plusNode {before s after : List Char} : plusNode.fit {} before s after ↔ s ∈ [[], ['+']] := by
  refine Fit.repetition_optional.trans ?_
  rw [List.mem_cons, List.mem_singleton]
  exact or_congr_right fit_literal

theorem fit_minus {before s after : List Char} :
    (Node.literal '-'.toNat).fit {} before s after ↔ s ∈ [['-']] :=
  fit_literal.trans List.mem_singleton.symm

theorem fit_signNode {before s after : List Char} :
    signNode.fit {} before s after ↔ s ∈ [[], ['+']] ++ [['-']] := by
  have hone : (Node.set false [.code '+'.toNat, .code '-'.toNat]).fit {} before s after ↔ s = ['+'] ∨ s = ['-'] := by
    constructor
    · rintro ⟨c, hc, rfl⟩
      have hcode : isCode {} '+'.toNat c = true ∨ isCode {} '-'.toNat c = true := by
        simpa [SetItem.holds] using hc
      exact hcode.imp (fun h => by rw [isCode_iff.1 h]) fun h => by rw [isCode_iff.1 h]
    · rintro (rfl | rfl)
      · exact ⟨'+', rfl, rfl⟩
      · exact ⟨'-', rfl, rfl⟩
  refine Fit.repetition_optional.trans ((or_congr_right hone).trans ?_)
  simp

/-- The nodes of the body of an integer. -/
def wholeNodes : List Node := [digitsNode 1]

/-- The nodes of the body of a decimal number. -/
def fractionNodes : List Node := [digitsNode 0, .literal '.'.toNat, digitsNode 1]

theorem fit_wholeNodes {before s : List Char} : Fit.row (wholeNodes.map (·.fit {})) before s [] ↔ IsWhole s :=
  Fit.cat_empty.trans (fit_digitsNode.trans (and_congr_left fun _ => List.length_pos_iff))

theorem fit_fractionNodes {before s : List Char} :
    Fit.row (fractionNodes.map (·.fit {})) before s [] ↔ IsFraction s := by
  constructor
  · rintro ⟨whole, _, rfl, hwhole, _, digits, rfl, hpoint, hdigits⟩
    obtain rfl := fit_literal.1 hpoint
    exact ⟨whole, digits, rfl, (fit_digitsNode.1 hwhole).2, fit_wholeNodes.1 hdigits⟩
  · rintro ⟨whole, digits, rfl, hwhole, hdigits⟩
    exact ⟨whole, '.' :: digits, rfl, fit_digitsNode.2 ⟨Nat.zero_le _, hwhole⟩, ['.'], digits, rfl,
      fit_literal.2 rfl, fit_wholeNodes.2 hdigits⟩

/-- Characters within some spans of code points, at least one. -/
def spansNode (spans : List (Nat × Nat)) : Node :=
  .loop .greedy 1 none (.set false (spans.map fun x => .span x.1 x.2))

theorem span_holds (spans : List (Nat × Nat)) (c : Char) :
    ((spans.map fun x => SetItem.span x.1 x.2).any (SetItem.holds {} c) != false) = true ↔
      ∃ x ∈ spans, x.1 ≤ c.toNat ∧ c.toNat ≤ x.2 := by
  simp [SetItem.holds]

/-- The nodes that some common patterns have between the start and the end of a line. -/
def commonNodes : List (String × List Node) :=
  [("int", signNode :: wholeNodes), ("int-positive", plusNode :: wholeNodes),
    ("int-negative", .literal '-'.toNat :: wholeNodes), ("decimal", signNode :: fractionNodes),
    ("decimal-positive", plusNode :: fractionNodes), ("decimal-negative", .literal '-'.toNat :: fractionNodes),
    ("letter-lowercase", [spansNode [(97, 122)]]), ("letter-uppercase", [spansNode [(65, 90)]]),
    ("letter", [spansNode [(97, 122), (65, 90)]]), ("alpha-numeric", [spansNode [(97, 122), (65, 90), (48, 57)]]),
    ("ascii", [spansNode [(0, 255)]])]

theorem compile_commonNodes : ∀ x ∈ commonNodes,
    (Regex.compile (sourceOf x.1)).toOption = some ⟨sourceOf x.1, {}, .line x.2⟩ ∧ x.2.all Node.isPlain = true := by
  decide +kernel

theorem isCommon_iff {name : String} {nodes : List Node} (h : (name, nodes) ∈ commonNodes) (s : List Char) :
    isCommon name s = true ↔ Fit.row (nodes.map (·.fit {})) [] s [] := by
  obtain ⟨hcompile, hplain⟩ := compile_commonNodes (name, nodes) h
  exact matchesSource_line hcompile hplain s

/-! ## Signs -/

/-- A pattern of a node for the sign and the nodes of a body accepts the numerals with these signs and bodies. -/
theorem isCommon_numeral {name : String} {sign : Node} {body : List Node} {signs : List (List Char)}
    {IsBody : List Char → Prop} (hnodes : (name, sign :: body) ∈ commonNodes)
    (hsign : ∀ {before s after}, sign.fit {} before s after ↔ s ∈ signs)
    (hbody : ∀ {before s}, Fit.row (body.map (·.fit {})) before s [] ↔ IsBody s) (s : List Char) :
    isCommon name s = true ↔ IsSigned signs IsBody s :=
  (isCommon_iff hnodes s).trans
    (exists_congr fun _ => exists_congr fun _ => and_congr_right' (and_congr hsign hbody))

theorem isCommon_int : ∀ s, isCommon "int" s = true ↔ IsSigned ([[], ['+']] ++ [['-']]) IsWhole s :=
  isCommon_numeral (by decide) fit_signNode fit_wholeNodes

theorem isCommon_intPositive : ∀ s, isCommon "int-positive" s = true ↔ IsSigned [[], ['+']] IsWhole s :=
  isCommon_numeral (by decide) fit_plusNode fit_wholeNodes

theorem isCommon_intNegative : ∀ s, isCommon "int-negative" s = true ↔ IsSigned [['-']] IsWhole s :=
  isCommon_numeral (by decide) fit_minus fit_wholeNodes

theorem isCommon_decimal : ∀ s, isCommon "decimal" s = true ↔ IsSigned ([[], ['+']] ++ [['-']]) IsFraction s :=
  isCommon_numeral (by decide) fit_signNode fit_fractionNodes

theorem isCommon_decimalPositive : ∀ s, isCommon "decimal-positive" s = true ↔ IsSigned [[], ['+']] IsFraction s :=
  isCommon_numeral (by decide) fit_plusNode fit_fractionNodes

theorem isCommon_decimalNegative : ∀ s, isCommon "decimal-negative" s = true ↔ IsSigned [['-']] IsFraction s :=
  isCommon_numeral (by decide) fit_minus fit_fractionNodes

/-- **The signed patterns share out the texts of the pattern without a sign.** A text that is not blank is an integer if
it is a positive or a negative one, of which it is not both, and likewise for decimal numbers; it is not both an integer
and a decimal number, and every common pattern comes to a verdict on it. -/
theorem signed_partition {r : Registry} (hr : HasCommonPatterns r) {s : String} (hs : s.toList.all isBlank = false)
    (l : Leniency) (ctx : Context) (f : Fragment) :
    (patternVerdict? r l ctx f s "int" = some true ↔ patternVerdict? r l ctx f s "int-positive" = some true ∨
      patternVerdict? r l ctx f s "int-negative" = some true) ∧
    ¬(patternVerdict? r l ctx f s "int-positive" = some true ∧ patternVerdict? r l ctx f s "int-negative" = some true) ∧
    (patternVerdict? r l ctx f s "decimal" = some true ↔ patternVerdict? r l ctx f s "decimal-positive" = some true ∨
      patternVerdict? r l ctx f s "decimal-negative" = some true) ∧
    ¬(patternVerdict? r l ctx f s "decimal-positive" = some true ∧
      patternVerdict? r l ctx f s "decimal-negative" = some true) ∧
    ¬(patternVerdict? r l ctx f s "int" = some true ∧ patternVerdict? r l ctx f s "decimal" = some true) ∧
    ∀ name ∈ commonPattern.names, (patternVerdict? r l ctx f s name).isSome := by
  have hverdict := patternVerdict?_eq hr hs l ctx f
  rw [hverdict "int" (by decide), hverdict "int-positive" (by decide), hverdict "int-negative" (by decide),
    hverdict "decimal" (by decide), hverdict "decimal-positive" (by decide), hverdict "decimal-negative" (by decide)]
  simp only [Option.some.injEq, isCommon_int, isCommon_intPositive, isCommon_intNegative, isCommon_decimal,
    isCommon_decimalPositive, isCommon_decimalNegative]
  refine ⟨isSigned_append, fun h => not_isSigned_of_minus not_isWhole_minus h.2 h.1, isSigned_append,
    fun h => not_isSigned_of_minus not_isFraction_minus h.2 h.1,
    fun h => not_isSigned_fraction (by decide) h.1 h.2, fun name hname => ?_⟩
  rw [hverdict name hname]
  rfl

/-- A negative integer with digits of two scripts. -/
theorem signed_partition_minus :
    HasCommonPatterns .builtin ∧ "-1٢".toList.all isBlank = false ∧
      (patternVerdict? .builtin {} {} { name := "" } "-1٢" "int" = some true ↔
        patternVerdict? .builtin {} {} { name := "" } "-1٢" "int-positive" = some true ∨
          patternVerdict? .builtin {} {} { name := "" } "-1٢" "int-negative" = some true) ∧
      patternVerdict? .builtin {} {} { name := "" } "-1٢" "int-negative" = some true := by
  have hs : "-1٢".toList.all isBlank = false := by decide
  exact ⟨hasCommonPatterns_builtin, hs, (signed_partition hasCommonPatterns_builtin hs {} {} { name := "" }).1,
    by decide +kernel⟩

/-! ## Classes of characters -/

/-- A text with a character, all of them within some of the spans of code points. -/
def IsSpelled (spans : List (Nat × Nat)) (s : List Char) : Prop :=
  s ≠ [] ∧ ∀ c ∈ s, ∃ x ∈ spans, x.1 ≤ c.toNat ∧ c.toNat ≤ x.2

theorem IsSpelled.mono {spans spans' : List (Nat × Nat)} {s : List Char}
    (hspans : ∀ x ∈ spans, ∃ y ∈ spans', y.1 ≤ x.1 ∧ x.2 ≤ y.2) (h : IsSpelled spans s) : IsSpelled spans' s := by
  refine ⟨h.1, fun c hc => ?_⟩
  obtain ⟨x, hx, hlow, hhigh⟩ := h.2 c hc
  obtain ⟨y, hy, hlow', hhigh'⟩ := hspans x hx
  exact ⟨y, hy, Nat.le_trans hlow' hlow, Nat.le_trans hhigh hhigh'⟩

theorem isCommon_class {name : String} {spans : List (Nat × Nat)} (hnodes : (name, [spansNode spans]) ∈ commonNodes)
    (s : List Char) : isCommon name s = true ↔ IsSpelled spans s := by
  refine (isCommon_iff hnodes s).trans (Fit.cat_empty.trans (Fit.repetition_one.trans ?_))
  exact and_congr List.length_pos_iff (forall₂_congr fun c _ => span_holds spans c)

/-- **The classes of characters include one another.** A text that is not blank passes as letters if it passes as letters
of one case, as letters and digits if it passes as letters, and as ASCII if it passes as letters and digits. What passes
as ASCII are the texts with code points of one byte. -/
theorem classes_nested {r : Registry} (hr : HasCommonPatterns r) {s : String} (hs : s.toList.all isBlank = false)
    (l : Leniency) (ctx : Context) (f : Fragment) :
    (patternVerdict? r l ctx f s "letter-lowercase" = some true ∨
      patternVerdict? r l ctx f s "letter-uppercase" = some true → patternVerdict? r l ctx f s "letter" = some true) ∧
    (patternVerdict? r l ctx f s "letter" = some true → patternVerdict? r l ctx f s "alpha-numeric" = some true) ∧
    (patternVerdict? r l ctx f s "alpha-numeric" = some true → patternVerdict? r l ctx f s "ascii" = some true) ∧
    (patternVerdict? r l ctx f s "ascii" = some true ↔ ∀ c ∈ s.toList, c.toNat < 256) := by
  have hverdict := patternVerdict?_eq hr hs l ctx f
  rw [hverdict "letter-lowercase" (by decide), hverdict "letter-uppercase" (by decide), hverdict "letter" (by decide),
    hverdict "alpha-numeric" (by decide), hverdict "ascii" (by decide)]
  have hlower := @isCommon_class "letter-lowercase" [(97, 122)] (by decide) s.toList
  have hupper := @isCommon_class "letter-uppercase" [(65, 90)] (by decide) s.toList
  have hletter := @isCommon_class "letter" [(97, 122), (65, 90)] (by decide) s.toList
  have halnum := @isCommon_class "alpha-numeric" [(97, 122), (65, 90), (48, 57)] (by decide) s.toList
  have hascii := @isCommon_class "ascii" [(0, 255)] (by decide) s.toList
  simp only [Option.some.injEq, hlower, hupper, hletter, halnum, hascii]
  refine ⟨fun h => h.elim (.mono (by decide)) (.mono (by decide)), .mono (by decide), .mono (by decide), ?_⟩
  have hne : s.toList ≠ [] := by
    intro hnil
    rw [hnil] at hs
    cases hs
  constructor
  · intro h c hc
    obtain ⟨x, hx, -, hhigh⟩ := h.2 c hc
    obtain rfl := List.mem_singleton.1 hx
    exact Nat.lt_succ_of_le hhigh
  · exact fun h => ⟨hne, fun c hc => ⟨_, List.mem_singleton_self _, Nat.zero_le _, Nat.le_of_lt_succ (h c hc)⟩⟩

/-- A text of letters. -/
theorem classes_nested_word :
    HasCommonPatterns .builtin ∧ "word".toList.all isBlank = false ∧
      (patternVerdict? .builtin {} {} { name := "" } "word" "letter" = some true →
        patternVerdict? .builtin {} {} { name := "" } "word" "alpha-numeric" = some true) ∧
      patternVerdict? .builtin {} {} { name := "" } "word" "letter" = some true := by
  have hs : "word".toList.all isBlank = false := by decide
  exact ⟨hasCommonPatterns_builtin, hs, (classes_nested hasCommonPatterns_builtin hs {} {} { name := "" }).2.1,
    by decide +kernel⟩

/-- A letter beyond ASCII passes as ASCII. -/
theorem classes_beyond_ascii :
    "é".toList.all isBlank = false ∧ patternVerdict? .builtin {} {} { name := "" } "é" "ascii" = some true ∧
      ¬∀ c ∈ "é".toList, c.toNat < 128 := by
  refine ⟨by decide, by decide +kernel, fun h => ?_⟩
  exact absurd (h 'é' (List.mem_singleton_self 'é')) (by decide)

end Handler

end FieldRules
