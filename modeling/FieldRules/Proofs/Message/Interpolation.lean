import FieldRules.Message.Template
import FieldRules.Proofs.Rule.Failures
import FieldRules.Proofs.Text.Classes
import FieldRules.Proofs.Value.Writing
import FieldRules.Validation.Objects
import Mathlib.Data.List.TakeWhile

/-!
# Filling templates

What a message template is filled with, and when it cannot be filled. Each placeholder shows a text of its own
(`Shows`) or lets a failure out (`Escapes`). It shows nothing where it is blank, where it counts beyond the arguments,
where it is no expression, and for most failures of an expression. But a number of it has to be readable: characters
that are digits of no decimal number, and numbers of too many digits, are failures that nobody answers for; and three
families of failures of an expression are not answered for either. `fill_iff` puts the texts together.
-/

namespace FieldRules

/-! ## Numbers -/

namespace Number

variable {s : List Char}

/-- Without underscores, digits are taken up to a character that is none. -/
theorem takeDigitsFrom_eq (h : ∀ c ∈ s, c ≠ '_') (after : Bool) :
    takeDigitsFrom after s
      = ((s.takeWhile Text.isDecimal).filterMap Text.decimalValue?, s.dropWhile Text.isDecimal) := by
  induction s generalizing after with
  | nil => rfl
  | cons c s ih =>
    rw [List.forall_mem_cons] at h
    have hline : ¬(c == '_') = true := by simpa using h.1
    rw [takeDigitsFrom, if_neg hline, List.takeWhile_cons, List.dropWhile_cons, Text.isDecimal]
    cases hvalue : Text.decimalValue? c with
    | none => rfl
    | some d =>
      dsimp only
      rw [ih h.2, Option.isSome_some, if_pos rfl, if_pos rfl, List.filterMap_cons_some hvalue]

theorem ne_of_isDigit (hdigits : ∀ c ∈ s, Text.isDigit c = true) {d : Char} (hd : Text.isDigit d = false) :
    ∀ c ∈ s, c ≠ d := by
  rintro c hc rfl
  rw [hdigits c hc] at hd
  cases hd

/-- Digits have no sign. -/
theorem takeSign_digits (hdigits : ∀ c ∈ s, Text.isDigit c = true) : takeSign s = (false, s) := by
  unfold takeSign
  split
  · exact absurd rfl (ne_of_isDigit hdigits (d := '-') (by decide +kernel) _ (List.mem_cons_self ..))
  · exact absurd rfl (ne_of_isDigit hdigits (d := '+') (by decide +kernel) _ (List.mem_cons_self ..))
  · rfl

theorem length_filterMap_decimalValue? (hall : ∀ c ∈ s, Text.isDecimal c = true) :
    (s.filterMap Text.decimalValue?).length = s.length := by
  rw [List.length_filterMap_eq_countP]
  exact List.countP_eq_length.2 hall

/-- A number in digits of any script is read if all of them are decimal and there are not too many. -/
theorem readInt_digits (hne : s ≠ []) (htrim : Text.trim s = s) (hdigits : ∀ c ∈ s, Text.isDigit c = true) :
    readInt s = if s.all Text.isDecimal then
        if maxDigits < s.length then .tooLong s.length else .value (digitsValue (s.filterMap Text.decimalValue?))
      else .invalid := by
  have htake := takeDigitsFrom_eq (ne_of_isDigit hdigits (by decide +kernel)) false
  rw [readInt, htrim, takeSign_digits hdigits]
  dsimp only
  rw [takeDigits, htake]
  by_cases hall : s.all Text.isDecimal = true
  · rw [if_pos hall]
    rw [List.all_eq_true] at hall
    have hlength := length_filterMap_decimalValue? hall
    have hdrop : s.dropWhile Text.isDecimal = [] := List.dropWhile_eq_nil_iff.2 hall
    rw [List.takeWhile_eq_self_iff.2 hall, hdrop]
    cases hvalues : s.filterMap Text.decimalValue? with
    | nil =>
      rw [hvalues] at hlength
      exact absurd (List.length_eq_zero_iff.1 hlength.symm) hne
    | cons d ds =>
      rw [hvalues] at hlength
      dsimp only
      rw [hlength]
      rfl
  · -- reading stops in front of the first digit that is not decimal
    have hdrop : s.dropWhile Text.isDecimal ≠ [] :=
      fun h => hall (List.all_eq_true.2 (List.dropWhile_eq_nil_iff.1 h))
    obtain ⟨c, rest, hrest⟩ := List.exists_cons_of_ne_nil hdrop
    rw [hrest, if_neg hall]
    cases (s.takeWhile Text.isDecimal).filterMap Text.decimalValue? <;> rfl

end Number

/-! ## Placeholders -/

namespace Template

/-- What stands in a placeholder is the number of an argument: decimal digits of any script, and not too many. -/
structure Index (name : List Char) (n : Nat) : Prop where
  nonempty : name ≠ []
  decimal : ∀ c ∈ name, Text.isDecimal c = true
  readable : name.length ≤ Number.maxDigits
  value : Number.digitsValue (name.filterMap Text.decimalValue?) = n

/-- What stands in a placeholder is no number. -/
def IsExpression (name : List Char) : Prop :=
  ∃ c ∈ name, Text.isDigit c = false

/-- What stands in a placeholder is an expression that fails: a literal in it has no value, or its evaluation
fails. -/
inductive Fails (bindings : List (String × Value)) (name : List Char) : Fault → Prop
  | literal {f : Fault} : Expr.compile false name = .error (.literal f) → Fails bindings name f
  | evaluation {e : Expr} {f : Fault} : Expr.compile false name = .ok e →
      Expr.evaluate ⟨bindings, false⟩ e = .error f → Fails bindings name f

/-- The families of failures of expressions that are not answered for. -/
def unanswered : List Fault.Family :=
  [.unboundName, .noAttribute, .outOfMemory]

/-- The text that is written for a placeholder. -/
inductive Shows (bindings : List (String × Value)) (arguments : List Value) (name : List Char) : String → Prop
  | blank : name = [] → Shows bindings arguments name ""
  | argument {n : Nat} {v : Value} {s : String} : Index name n → arguments[n]? = some v → v.rendered = .ok s →
      Shows bindings arguments name s
  | beyond {n : Nat} : Index name n → arguments.length ≤ n → Shows bindings arguments name ""
  | value {e : Expr} {v : Value} {s : String} : IsExpression name → Expr.compile false name = .ok e →
      Expr.evaluate ⟨bindings, false⟩ e = .ok v → v.rendered = .ok s → Shows bindings arguments name s
  | unwritten {e : Expr} {v : Value} {f : Fault} : IsExpression name → Expr.compile false name = .ok e →
      Expr.evaluate ⟨bindings, false⟩ e = .ok v → v.rendered = .error f → Shows bindings arguments name ""
  | malformed {p : Expr.Problem} : IsExpression name → Expr.compile false name = .error p →
      (∀ f, p ≠ .literal f) → Shows bindings arguments name ""
  | failing {f : Fault} : IsExpression name → Fails bindings name f → f.family ∉ unanswered →
      Shows bindings arguments name ""

/-- A failure of a placeholder that nobody answers for. -/
inductive Escapes (bindings : List (String × Value)) (arguments : List Value) (name : List Char) : Error → Prop
  | numeral : name ≠ [] → (∀ c ∈ name, Text.isDigit c = true) → (∃ c ∈ name, Text.isDecimal c = false) →
      Escapes bindings arguments name (.fault (.integerText (String.ofList (Text.quote name))))
  | long : (∀ c ∈ name, Text.isDecimal c = true) → Number.maxDigits < name.length →
      Escapes bindings arguments name (.fault (.integerTooLongToRead name.length))
  | argument {n : Nat} {v : Value} {f : Fault} : Index name n → arguments[n]? = some v → v.rendered = .error f →
      Escapes bindings arguments name (.fault f)
  | expression {f : Fault} : IsExpression name → Fails bindings name f → f.family ∈ unanswered →
      Escapes bindings arguments name (.fault f)

section Placeholders
variable {bindings : List (String × Value)} {arguments : List Value} {inner name : List Char} {text : String}

theorem isForgiven_fault {f : Fault} : isForgiven (.fault f) = true ↔ f.family ∉ unanswered := by
  simp [isForgiven, unanswered, and_assoc]

theorem resolvePlaceholder_of_ok {e : Expr} {v : Value} (he : Expr.compile false text.toList = .ok e)
    (hv : Expr.evaluate ⟨bindings, false⟩ e = .ok v) :
    ∃ w, resolvePlaceholder text bindings = .ok w ∧ w.rendered = v.rendered := by
  unfold resolvePlaceholder
  rw [he]
  dsimp only
  rw [hv]
  cases v
  case undefined => exact ⟨.none, rfl, rfl⟩
  all_goals exact ⟨_, rfl, rfl⟩

theorem resolvePlaceholder_of_fails {f : Fault} (h : Fails bindings text.toList f) :
    resolvePlaceholder text bindings = .error (.fault f) := by
  unfold resolvePlaceholder
  cases h with
  | literal hcompile =>
    rw [hcompile]
    rfl
  | evaluation hcompile hevaluate =>
    rw [hcompile]
    dsimp only
    rw [hevaluate]
    rfl

theorem resolvePlaceholder_of_problem {p : Expr.Problem} (hp : Expr.compile false text.toList = .error p)
    (hother : ∀ f, p ≠ .literal f) :
    resolvePlaceholder text bindings = .error (.rule (.badPlaceholder text p)) := by
  unfold resolvePlaceholder
  rw [hp]
  cases p
  case literal f => exact absurd rfl (hother f)
  all_goals rfl

theorem expressionText_of_error {e : Error} (h : resolvePlaceholder text bindings = .error e) :
    expressionText text bindings = if isForgiven e then .ok "" else .error e := by
  unfold expressionText
  rw [h]
  rfl

/-- A value that cannot be written is written as nothing. -/
theorem expressionText_of_ok {v : Value} (h : resolvePlaceholder text bindings = .ok v) :
    expressionText text bindings = .ok (v.rendered.toOption.getD "") := by
  unfold expressionText
  have hbind : ((.ok v : Except Error Value) >>= fun w => liftFault w.rendered) = liftFault v.rendered := rfl
  rw [h, hbind]
  cases hrendered : v.rendered with
  | ok s => rfl
  | error f =>
    rw [Value.failsByLength_rendered v f hrendered]
    rfl

theorem placeholderText_of_nil (h : Text.trim inner = []) : placeholderText inner bindings arguments = .ok "" := by
  unfold placeholderText
  rw [h]
  rfl

theorem placeholderText_of_isExpression (h : IsExpression (Text.trim inner)) :
    placeholderText inner bindings arguments = expressionText (String.ofList (Text.trim inner)) bindings := by
  obtain ⟨c, hc, hdigit⟩ := h
  have hne : ¬(Text.trim inner).isEmpty = true := by
    rw [List.isEmpty_iff]
    rintro hnil
    rw [hnil] at hc
    cases hc
  have hsome : ¬(Text.trim inner).all Text.isDigit = true := by
    rw [List.all_eq_true]
    intro hall
    rw [hall c hc] at hdigit
    cases hdigit
  unfold placeholderText
  dsimp only
  rw [if_neg hne, if_neg hsome]

theorem placeholderText_of_digits (hne : Text.trim inner ≠ [])
    (hdigits : ∀ c ∈ Text.trim inner, Text.isDigit c = true) :
    placeholderText inner bindings arguments = do
      let place ← liftFault (Value.readInteger (Text.trim inner) (String.ofList (Text.quote (Text.trim inner))))
      match arguments[place.toNat]? with
      | some v => liftFault v.rendered
      | none => return "" := by
  have hsome : ¬(Text.trim inner).isEmpty = true := by simpa using hne
  unfold placeholderText
  exact (if_neg hsome).trans (if_pos (List.all_eq_true.2 hdigits))

theorem isDigit_of_isDecimal {c : Char} (h : Text.isDecimal c = true) : Text.isDigit c = true := by
  rw [Text.isDigit, h, Bool.true_or]

theorem readInteger_of_digits (hne : name ≠ []) (htrim : Text.trim name = name)
    (hdigits : ∀ c ∈ name, Text.isDigit c = true) (quoted : String) :
    Value.readInteger name quoted = if name.all Text.isDecimal then
        if Number.maxDigits < name.length then .error (.integerTooLongToRead name.length)
        else .ok (Number.digitsValue (name.filterMap Text.decimalValue?))
      else .error (.integerText quoted) := by
  rw [Value.readInteger, Number.readInt_digits hne htrim hdigits]
  by_cases hdecimal : name.all Text.isDecimal = true
  · rw [if_pos hdecimal, if_pos hdecimal]
    by_cases hlong : Number.maxDigits < name.length
    · rw [if_pos hlong, if_pos hlong]
      rfl
    · rw [if_neg hlong, if_neg hlong]
      rfl
  · rw [if_neg hdecimal, if_neg hdecimal]
    rfl

theorem placeholderText_of_index {n : Nat} (h : Index (Text.trim inner) n) :
    placeholderText inner bindings arguments = match arguments[n]? with
      | some v => liftFault v.rendered
      | none => .ok "" := by
  have hdigits : ∀ c ∈ Text.trim inner, Text.isDigit c = true := fun c hc => isDigit_of_isDecimal (h.decimal c hc)
  rw [placeholderText_of_digits h.nonempty hdigits, readInteger_of_digits h.nonempty (Text.trim_trim inner) hdigits,
    if_pos (List.all_eq_true.2 h.decimal), if_neg (Nat.not_lt.2 h.readable), h.value]
  rfl

theorem Shows.placeholderText_eq {s : String} (h : Shows bindings arguments (Text.trim inner) s) :
    placeholderText inner bindings arguments = .ok s := by
  have htext : (String.ofList (Text.trim inner)).toList = Text.trim inner := String.toList_ofList
  cases h with
  | blank hnil => exact placeholderText_of_nil hnil
  | argument hindex hv hs =>
    rw [placeholderText_of_index hindex, hv]
    dsimp only
    rw [hs]
    rfl
  | beyond hindex hlength =>
    rw [placeholderText_of_index hindex, List.getElem?_eq_none hlength]
  | value hexpr he hv hs =>
    rw [← htext] at he
    obtain ⟨w, hw, hrendered⟩ := resolvePlaceholder_of_ok he hv
    rw [placeholderText_of_isExpression hexpr, expressionText_of_ok hw, hrendered, hs]
    rfl
  | unwritten hexpr he hv hf =>
    rw [← htext] at he
    obtain ⟨w, hw, hrendered⟩ := resolvePlaceholder_of_ok he hv
    rw [placeholderText_of_isExpression hexpr, expressionText_of_ok hw, hrendered, hf]
    rfl
  | malformed hexpr hp hother =>
    rw [← htext] at hp
    rw [placeholderText_of_isExpression hexpr, expressionText_of_error (resolvePlaceholder_of_problem hp hother)]
    rfl
  | failing hexpr hf hanswered =>
    rw [← htext] at hf
    rw [placeholderText_of_isExpression hexpr, expressionText_of_error (resolvePlaceholder_of_fails hf),
      if_pos (isForgiven_fault.2 hanswered)]

theorem Escapes.placeholderText_eq {e : Error} (h : Escapes bindings arguments (Text.trim inner) e) :
    placeholderText inner bindings arguments = .error e := by
  have htext : (String.ofList (Text.trim inner)).toList = Text.trim inner := String.toList_ofList
  cases h with
  | numeral hne hdigits hother =>
    obtain ⟨c, hc, hdecimal⟩ := hother
    have hsome : ¬(Text.trim inner).all Text.isDecimal = true := by
      intro hall
      rw [List.all_eq_true.1 hall c hc] at hdecimal
      cases hdecimal
    rw [placeholderText_of_digits hne hdigits, readInteger_of_digits hne (Text.trim_trim inner) hdigits, if_neg hsome]
    rfl
  | long hdecimal hlong =>
    have hne : Text.trim inner ≠ [] := List.ne_nil_of_length_pos (Nat.lt_of_le_of_lt (Nat.zero_le _) hlong)
    have hdigits : ∀ c ∈ Text.trim inner, Text.isDigit c = true := fun c hc => isDigit_of_isDecimal (hdecimal c hc)
    rw [placeholderText_of_digits hne hdigits, readInteger_of_digits hne (Text.trim_trim inner) hdigits,
      if_pos (List.all_eq_true.2 hdecimal), if_pos hlong]
    rfl
  | argument hindex hv hf =>
    rw [placeholderText_of_index hindex, hv]
    dsimp only
    rw [hf]
    rfl
  | expression hexpr hf hfamily =>
    rw [← htext] at hf
    rw [placeholderText_of_isExpression hexpr, expressionText_of_error (resolvePlaceholder_of_fails hf), if_neg]
    exact fun hforgiven => isForgiven_fault.1 hforgiven hfamily

/-- An expression that fails shows nothing, unless its failure is not answered for. -/
theorem shows_or_escapes_of_fails {f : Fault} (hexpr : IsExpression name) (hf : Fails bindings name f) :
    (∃ s, Shows bindings arguments name s) ∨ ∃ e, Escapes bindings arguments name e := by
  by_cases hfamily : f.family ∈ unanswered
  · exact .inr ⟨_, .expression hexpr hf hfamily⟩
  · exact .inl ⟨_, .failing hexpr hf hfamily⟩

theorem shows_or_escapes_expression (hexpr : IsExpression name) :
    (∃ s, Shows bindings arguments name s) ∨ ∃ e, Escapes bindings arguments name e := by
  cases hcompile : Expr.compile false name with
  | error p =>
    by_cases hother : ∀ f, p ≠ .literal f
    · exact .inl ⟨_, .malformed hexpr hcompile hother⟩
    · push Not at hother
      obtain ⟨f, rfl⟩ := hother
      exact shows_or_escapes_of_fails hexpr (.literal hcompile)
  | ok e =>
    cases hevaluate : Expr.evaluate ⟨bindings, false⟩ e with
    | error f => exact shows_or_escapes_of_fails hexpr (.evaluation hcompile hevaluate)
    | ok v =>
      cases hrendered : v.rendered with
      | error f => exact .inl ⟨_, .unwritten hexpr hcompile hevaluate hrendered⟩
      | ok s => exact .inl ⟨_, .value hexpr hcompile hevaluate hrendered⟩

theorem shows_or_escapes_digits (hne : name ≠ []) (hdigits : ∀ c ∈ name, Text.isDigit c = true) :
    (∃ s, Shows bindings arguments name s) ∨ ∃ e, Escapes bindings arguments name e := by
  by_cases hdecimal : ∀ c ∈ name, Text.isDecimal c = true
  · by_cases hlong : Number.maxDigits < name.length
    · exact .inr ⟨_, .long hdecimal hlong⟩
    · -- Only here the arguments are looked at, and the failure of one of them is let out.
      have hindex : Index name _ := ⟨hne, hdecimal, Nat.not_lt.1 hlong, rfl⟩
      cases hv : arguments[Number.digitsValue (name.filterMap Text.decimalValue?)]? with
      | none => exact .inl ⟨_, .beyond hindex (List.getElem?_eq_none_iff.1 hv)⟩
      | some v =>
        cases hrendered : v.rendered with
        | error f => exact .inr ⟨_, .argument hindex hv hrendered⟩
        | ok s => exact .inl ⟨_, .argument hindex hv hrendered⟩
  · push Not at hdecimal
    obtain ⟨c, hc, hother⟩ := hdecimal
    exact .inr ⟨_, .numeral hne hdigits ⟨c, hc, by simpa using hother⟩⟩

/-- Every placeholder shows a text or lets a failure out. -/
theorem shows_or_escapes (bindings : List (String × Value)) (arguments : List Value) (name : List Char) :
    (∃ s, Shows bindings arguments name s) ∨ ∃ e, Escapes bindings arguments name e := by
  by_cases hne : name = []
  · exact .inl ⟨_, .blank hne⟩
  by_cases hexpr : IsExpression name
  · exact shows_or_escapes_expression hexpr
  · refine shows_or_escapes_digits hne fun c hc => ?_
    by_contra hdigit
    exact hexpr ⟨c, hc, by simpa using hdigit⟩

theorem placeholderText_eq_ok_iff {s : String} :
    placeholderText inner bindings arguments = .ok s ↔ Shows bindings arguments (Text.trim inner) s := by
  refine ⟨fun h => ?_, Shows.placeholderText_eq⟩
  rcases shows_or_escapes bindings arguments (Text.trim inner) with ⟨s', hs⟩ | ⟨e, he⟩
  · obtain rfl : s' = s := Except.ok.inj (hs.placeholderText_eq.symm.trans h)
    exact hs
  · rw [he.placeholderText_eq] at h
    cases h

theorem placeholderText_eq_error_iff {e : Error} :
    placeholderText inner bindings arguments = .error e ↔ Escapes bindings arguments (Text.trim inner) e := by
  refine ⟨fun h => ?_, Escapes.placeholderText_eq⟩
  rcases shows_or_escapes bindings arguments (Text.trim inner) with ⟨s, hs⟩ | ⟨e', he⟩
  · rw [hs.placeholderText_eq] at h
    cases h
  · obtain rfl : e' = e := Except.error.inj (he.placeholderText_eq.symm.trans h)
    exact he

end Placeholders

/-! ## Templates -/

/-- A part as it stands in its template. -/
def Piece.source : Piece → List Char
  | .plain c => [c]
  | .placeholder inner => '\x7b' :: inner ++ ['\x7d']

theorem eq_of_closeBrace? {depth : Nat} {s inner after : List Char}
    (h : closeBrace? depth s = some (inner, after)) : s = inner ++ '\x7d' :: after := by
  induction s generalizing depth inner after with
  | nil => cases h
  | cons c s ih =>
    unfold closeBrace? at h
    split at h
    · next hclose =>
      cases depth with
      | zero =>
        cases h
        rw [hclose, List.nil_append]
      | succ depth =>
        obtain ⟨⟨inner', after'⟩, hcut, heq⟩ := Option.map_eq_some_iff.1 h
        cases heq
        rw [ih hcut, List.cons_append]
    · obtain ⟨⟨inner', after'⟩, hcut, heq⟩ := Option.map_eq_some_iff.1 h
      cases heq
      rw [ih hcut, List.cons_append]

/-- The parts of a template make it up. -/
theorem flatMap_pieces (s : List Char) : (pieces s).flatMap Piece.source = s := by
  fun_induction pieces s with
  | case1 => rfl
  | case2 rest inner after hclose _ ih =>
    rw [List.flatMap_cons, ih, eq_of_closeBrace? hclose]
    simp [Piece.source]
  | case3 rest hclose => simp [List.flatMap_map, Piece.source]
  | case4 c rest hopen ih =>
    rw [List.flatMap_cons, ih]
    rfl

/-- The text that is written for a part: a character stands for itself. -/
inductive Writes (bindings : List (String × Value)) (arguments : List Value) : Piece → String → Prop
  | plain (c : Char) : Writes bindings arguments (.plain c) (String.singleton c)
  | placeholder {inner : List Char} {s : String} : Shows bindings arguments (Text.trim inner) s →
      Writes bindings arguments (.placeholder inner) s

section Templates
variable {bindings : List (String × Value)} {arguments : List Value}

theorem pieceText_eq_ok_iff {p : Piece} {s : String} :
    pieceText bindings arguments p = .ok s ↔ Writes bindings arguments p s := by
  cases p with
  | plain c =>
    constructor
    · intro h
      rw [← Except.ok.inj h]
      exact .plain c
    · rintro ⟨⟩
      rfl
  | placeholder inner =>
    rw [pieceText, placeholderText_eq_ok_iff]
    constructor
    · exact .placeholder
    · intro h
      cases h with
      | placeholder h => exact h

theorem pieceText_eq_error_iff {p : Piece} {e : Error} :
    pieceText bindings arguments p = .error e ↔
      ∃ inner, p = .placeholder inner ∧ Escapes bindings arguments (Text.trim inner) e := by
  cases p with
  | plain c => exact ⟨nofun, nofun⟩
  | placeholder inner =>
    rw [pieceText, placeholderText_eq_error_iff]
    constructor
    · exact fun h => ⟨inner, rfl, h⟩
    · rintro ⟨_, ⟨⟩, h⟩
      exact h

end Templates

/-- **Filling a template.** A template is filled with a text exactly if that is made of the texts that its parts
write. It cannot be filled exactly if one of its placeholders lets a failure out, and then fails as the first one
of these does. -/
theorem fill_iff (template : String) (bindings : List (String × Value)) (arguments : List Value) :
    (∀ text, fill template bindings arguments = .ok text ↔
      ∃ texts, List.Forall₂ (Writes bindings arguments) (pieces template.toList) texts ∧
        text = String.join texts) ∧
    ∀ e, fill template bindings arguments = .error e ↔
      ∃ before inner after, pieces template.toList = before ++ .placeholder inner :: after ∧
        (∀ p ∈ before, ∃ s, Writes bindings arguments p s) ∧
        Escapes bindings arguments (Text.trim inner) e := by
  constructor
  · intro text
    constructor
    · intro h
      obtain ⟨texts, htexts, rfl⟩ := exists_of_bind_pure h
      refine ⟨texts, ?_, rfl⟩
      exact (forall₂_of_mapM_eq_ok htexts).imp fun _ _ => pieceText_eq_ok_iff.1
    · rintro ⟨texts, htexts, rfl⟩
      have hmap := mapM_eq_ok_of_forall₂ (htexts.imp fun _ _ => pieceText_eq_ok_iff.2)
      rw [fill, hmap]
      rfl
  · -- Putting the texts together cannot fail, so a failure is that of the first part that has one.
    intro e
    have hfill : fill template bindings arguments = .error e ↔
        (pieces template.toList).mapM (pieceText bindings arguments) = .error e := by
      rw [fill]
      cases (pieces template.toList).mapM (pieceText bindings arguments) with
      | ok texts => exact ⟨nofun, nofun⟩
      | error e' =>
        constructor <;>
        · intro h
          exact congrArg Except.error (Except.error.inj h)
    rw [hfill, mapM_eq_error_iff]
    constructor
    · rintro ⟨before, p, after, hpieces, hbefore, hp⟩
      obtain ⟨inner, rfl, hescapes⟩ := pieceText_eq_error_iff.1 hp
      refine ⟨before, inner, after, hpieces, fun q hq => ?_, hescapes⟩
      obtain ⟨s, hs⟩ := hbefore q hq
      exact ⟨s, pieceText_eq_ok_iff.1 hs⟩
    · rintro ⟨before, inner, after, hpieces, hbefore, hescapes⟩
      refine ⟨before, .placeholder inner, after, hpieces, fun q hq => ?_, ?_⟩
      · obtain ⟨s, hs⟩ := hbefore q hq
        exact ⟨s, pieceText_eq_ok_iff.2 hs⟩
      · exact pieceText_eq_error_iff.2 ⟨inner, rfl, hescapes⟩

/-- A superscript is a digit, but no number is read from it: a template with that in a placeholder cannot be filled,
and a value that is rejected with it as a message makes the validation fail. -/
theorem fill_superscript :
    fill "\x7b²\x7d" [] [] = .error (.fault (.integerText "'²'")) ∧
    (({ sources := { strict := false } } : Validator).validateValue {} (some "required<<\x7b²\x7d>>")
      none .none {}).1 = .error (.fault (.integerText "'²'")) := by
  have hfill : Rule.failure? (fill "\x7b²\x7d" [] []) = some (.fault (.integerText "'²'")) := by decide +kernel
  have hvalidate : Rule.failure? (({ sources := { strict := false } } : Validator).validateValue {}
      (some "required<<\x7b²\x7d>>") none .none {}).1 = some (.fault (.integerText "'²'")) := by decide +kernel
  exact ⟨Rule.eq_error_of_failure? hfill, Rule.eq_error_of_failure? hvalidate⟩

end Template

end FieldRules
