import FieldRules.Expr.Parser
import FieldRules.Proofs.Entries

/-!
# Faults behind tokens

The cut of a text may end with a fault, which comes behind the tokens before it. No reader gets past it: a reader
that starts before the fault and gives a value leaves tokens, so that the fault is still ahead (`Halts`). Readers
that are put together halt if their parts do. The reader of a whole text leaves no tokens, so it gives nothing for a
text with a fault (`parse_error_of_problem`).
-/

namespace FieldRules.Expr

namespace Parser

variable {α β : Type}

/-! ## Readers -/

/-- A fault is ahead: it stands behind the tokens that are left, and there are some. -/
structure Pending (l : Lexemes) : Prop where
  fault : l.problem?.isSome = true
  tokens : l.items ≠ []

/-- A reader that starts with a fault ahead and gives a value leaves the fault ahead. -/
def Halts (p : Parser α) : Prop :=
  ∀ l a l', Pending l → p l = .ok (a, l') → Pending l'

theorem Halts.pure (a : α) : Halts (Pure.pure a) := by
  intro l b l' hl h
  cases h
  exact hl

theorem Halts.throw (p : Problem) : Halts (throw p : Parser α) :=
  fun _ _ _ _ h => nomatch h

theorem Halts.bind {p : Parser α} {f : α → Parser β} (hp : Halts p) (hf : ∀ a, Halts (f a)) :
    Halts (p >>= f) := by
  intro l b l'' hl h
  obtain ⟨⟨a, l'⟩, hpl, hfl⟩ := bind_eq_ok (show (p l >>= fun r => f r.1 r.2) = _ from h)
  exact hf a l' b l'' (hp l a l' hl hpl) hfl

theorem Halts.ite {c : Prop} [Decidable c] {p q : Parser α} (hp : Halts p) (hq : Halts q) :
    Halts (if c then p else q) := by
  split
  · exact hp
  · exact hq

/-- A reader that looks at what is left and does not take anything. -/
theorem Halts.get {f : Lexemes → Parser β} (hf : ∀ l, Halts (f l)) : Halts (get >>= f) :=
  fun l b l' hl h => hf l l b l' hl h

theorem halts_checkEnd (l : Lexemes) : Halts (checkEnd l) := by
  unfold checkEnd
  split
  · exact .throw _
  · exact .pure _

theorem halts_current : Halts current := .get fun _ => .pure _

theorem halts_currentLine : Halts currentLine := .get fun _ => .pure _

theorem halts_fuelLeft : Halts fuelLeft := .get fun _ => .pure _

theorem halts_following : Halts following := .get fun _ => (halts_checkEnd _).bind fun _ => .pure _

/-- The last token before a fault cannot be taken. -/
theorem halts_advance : Halts advance := by
  intro l a l' hl h
  obtain ⟨items, problem?⟩ := l
  obtain ⟨p, rfl⟩ := Option.isSome_iff_exists.1 hl.fault
  cases hrest : items.drop 1 with
  | nil =>
    exfalso
    obtain ⟨⟨⟨⟩, _⟩, hcheck, -⟩ := bind_eq_ok
      (show (checkEnd ⟨items.drop 1, some p⟩ ⟨items, some p⟩ >>= fun _ => _) = _ from h)
    rw [hrest] at hcheck
    cases hcheck
  | cons x rest =>
    have hrun : advance ⟨items, some p⟩ = .ok ((), ⟨items.drop 1, some p⟩) := by
      show (checkEnd ⟨items.drop 1, some p⟩ ⟨items, some p⟩ >>= fun _ => _) = _
      rw [hrest]
      rfl
    rw [hrun] at h
    cases h
    exact ⟨rfl, by rw [hrest]; exact List.cons_ne_nil x rest⟩

theorem halts_atSign (s : String) : Halts (atSign s) := halts_current.bind fun _ => .pure _

theorem halts_atName (s : String) : Halts (atName s) := halts_current.bind fun _ => .pure _

theorem halts_skipSign (s : String) : Halts (skipSign s) :=
  (halts_atSign s).bind fun _ => .ite (halts_advance.bind fun _ => .pure _) (.pure _)

theorem halts_skipName (s : String) : Halts (skipName s) :=
  (halts_atName s).bind fun _ => .ite (halts_advance.bind fun _ => .pure _) (.pure _)

theorem halts_refuse (what : String) : Halts (refuse what : Parser α) := by
  refine halts_current.bind fun t => ?_
  cases t with
  | none => exact .throw _
  | some t => exact .throw _

theorem halts_expectSign (s : String) : Halts (expectSign s) :=
  (halts_skipSign s).bind fun _ => .ite (halts_refuse s) (.pure _)

theorem halts_expectName : Halts expectName := by
  refine halts_current.bind fun t => ?_
  split
  · exact halts_advance.bind fun _ => .pure _
  · exact halts_refuse _

/-! ## Lists in brackets -/

theorem halts_itemsUntil {item : Parser α} (hitem : Halts item) (closing : String) (fuel : Nat) (acc : List α) :
    Halts (itemsUntil closing item fuel acc) := by
  induction fuel generalizing acc with
  | zero => exact .pure _
  | succ fuel ih =>
    have hnext : Halts (item >>= fun a => itemsUntil closing item fuel (a :: acc)) := hitem.bind fun _ => ih _
    refine (halts_atSign closing).bind fun _ => .ite (.pure _) (.ite ?_ hnext)
    exact (halts_expectSign ",").bind fun _ => (halts_atSign closing).bind fun _ => .ite (.pure _) hnext

theorem halts_bracketed {item : Parser α} (hitem : Halts item) (closing : String) :
    Halts (bracketed closing item) :=
  halts_fuelLeft.bind fun _ => (halts_itemsUntil hitem closing _ _).bind fun _ =>
    (halts_expectSign closing).bind fun _ => .pure _

section Readers
variable {expr : Parser Expr} (hexpr : Halts expr)
include hexpr

theorem halts_entry : Halts (entry expr) :=
  hexpr.bind fun _ => (halts_expectSign ":").bind fun _ => hexpr.bind fun _ => .pure _

omit hexpr in
theorem halts_atTupleEnd : Halts atTupleEnd := by
  refine halts_current.bind fun t => ?_
  split <;> exact .pure _

theorem halts_tupleItems (fuel : Nat) (comma : Bool) (acc : List Expr) :
    Halts (tupleItems expr fuel comma acc) := by
  induction fuel generalizing comma acc with
  | zero => exact .pure _
  | succ fuel ih =>
    have hnext : Halts (do
        if ← atTupleEnd then return (comma, acc.reverse)
        let e ← expr
        if ← atSign "," then tupleItems expr fuel true (e :: acc)
        else return (comma, (e :: acc).reverse)) := by
      refine halts_atTupleEnd.bind fun _ => .ite (.pure _) (hexpr.bind fun _ => ?_)
      exact (halts_atSign ",").bind fun _ => .ite (ih _ _) (.pure _)
    exact .ite ((halts_expectSign ",").bind fun _ => hnext) hnext

theorem halts_parenthesized : Halts (parenthesized expr) := by
  refine halts_fuelLeft.bind fun _ => (halts_tupleItems hexpr _ _ _).bind fun read => ?_
  refine (halts_expectSign ")").bind fun _ => ?_
  split <;> exact .pure _

/-! ## Arguments -/

theorem halts_argument (a : Arguments) : Halts (argument expr a) := by
  have hpositional : Halts (expr >>= fun e => pure { a with positional := a.positional ++ [e] }) :=
    hexpr.bind fun _ => .pure _
  refine (halts_skipSign "*").bind fun _ => .ite (.ite (.throw _) (hexpr.bind fun _ => .pure _)) ?_
  refine (halts_skipSign "**").bind fun _ => .ite (.ite (.throw _) (hexpr.bind fun _ => .pure _)) ?_
  refine halts_current.bind fun t => ?_
  dsimp only
  split
  · refine halts_following.bind fun following => ?_
    split
    · refine .ite (.throw _) ?_
      exact halts_advance.bind fun _ => halts_advance.bind fun _ => hexpr.bind fun _ => .pure _
    · exact .ite (.throw _) hpositional
  · exact .ite (.throw _) hpositional

theorem halts_argumentsFrom (fuel : Nat) (first : Bool) (a : Arguments) :
    Halts (argumentsFrom expr fuel first a) := by
  induction fuel generalizing first a with
  | zero => exact .pure _
  | succ fuel ih =>
    have hnext : Halts (argument expr a >>= fun a => argumentsFrom expr fuel false a) :=
      (halts_argument hexpr a).bind fun _ => ih _ _
    refine (halts_atSign ")").bind fun _ => .ite (.pure _) (.ite ?_ hnext)
    exact (halts_expectSign ",").bind fun _ => (halts_atSign ")").bind fun _ => .ite (.pure _) hnext

theorem halts_arguments : Halts (arguments expr) :=
  (halts_expectSign "(").bind fun _ => halts_fuelLeft.bind fun _ =>
    (halts_argumentsFrom hexpr _ _ _).bind fun _ => (halts_expectSign ")").bind fun _ => .pure _

/-! ## Values and what stands behind them -/

omit hexpr in
theorem halts_texts (fuel : Nat) (acc : String) : Halts (texts fuel acc) := by
  induction fuel generalizing acc with
  | zero => exact .pure _
  | succ fuel ih =>
    refine halts_current.bind fun t => ?_
    split
    · exact halts_advance.bind fun _ => ih _
    · exact .pure _

theorem halts_primary : Halts (primary expr) := by
  refine halts_current.bind fun t => ?_
  split
  · exact halts_advance.bind fun _ => .pure _
  · exact halts_advance.bind fun _ => halts_fuelLeft.bind fun _ => (halts_texts _ _).bind fun _ => .pure _
  · exact halts_advance.bind fun _ => .pure _
  · exact halts_advance.bind fun _ => .pure _
  · exact halts_advance.bind fun _ => halts_parenthesized hexpr
  · exact halts_advance.bind fun _ => (halts_bracketed hexpr _).bind fun _ => .pure _
  · exact halts_advance.bind fun _ => (halts_bracketed (halts_entry hexpr) _).bind fun _ => .pure _
  · exact .throw _

theorem halts_sliceBound : Halts (sliceBound expr) := by
  refine (halts_atSign "]").bind fun _ => (halts_atSign ",").bind fun _ => (halts_atSign ":").bind fun _ => ?_
  exact .ite (.pure _) (hexpr.bind fun _ => .pure _)

theorem halts_sliceAfter (start : Option Expr) : Halts (sliceAfter expr start) := by
  refine (halts_sliceBound hexpr).bind fun stop => (halts_skipSign ":").bind fun _ => .ite ?_ (.pure _)
  refine (halts_atSign "]").bind fun _ => (halts_atSign ",").bind fun _ => ?_
  exact .ite (.pure _) (hexpr.bind fun _ => .pure _)

theorem halts_index : Halts (index expr) := by
  refine (halts_skipSign ":").bind fun _ => .ite (halts_sliceAfter hexpr _) (hexpr.bind fun _ => ?_)
  exact (halts_skipSign ":").bind fun _ => .ite (halts_sliceAfter hexpr _) (.pure _)

theorem halts_indices (fuel : Nat) (acc : List Expr) : Halts (indices expr fuel acc) := by
  induction fuel generalizing acc with
  | zero => exact .pure _
  | succ fuel ih =>
    have hnext : Halts (index expr >>= fun e => indices expr fuel (e :: acc)) :=
      (halts_index hexpr).bind fun _ => ih _
    refine (halts_atSign "]").bind fun _ => .ite (.pure _) (.ite ?_ hnext)
    exact (halts_expectSign ",").bind fun _ => hnext

omit hexpr in
theorem halts_partAfterPoint (e : Expr) : Halts (partAfterPoint e) := by
  refine halts_current.bind fun t => halts_advance.bind fun _ => ?_
  split
  · exact .pure _
  · exact .pure _
  · exact .throw _

theorem halts_partAfterBracket (e : Expr) : Halts (partAfterBracket expr e) := by
  refine halts_fuelLeft.bind fun _ => (halts_indices hexpr _ _).bind fun items => ?_
  refine (halts_expectSign "]").bind fun _ => ?_
  split <;> exact .pure _

theorem halts_postfixes (fuel : Nat) (e : Expr) : Halts (postfixes expr fuel e) := by
  induction fuel generalizing e with
  | zero => exact .pure _
  | succ fuel ih =>
    refine (halts_skipSign ".").bind fun _ => .ite ((halts_partAfterPoint e).bind fun _ => ih _) ?_
    refine (halts_skipSign "[").bind fun _ => .ite ((halts_partAfterBracket hexpr e).bind fun _ => ih _) ?_
    exact (halts_atSign "(").bind fun _ => .ite ((halts_arguments hexpr).bind fun _ => ih _) (.pure _)

omit hexpr in
theorem halts_dottedName (fuel : Nat) (acc : String) : Halts (dottedName fuel acc) := by
  induction fuel generalizing acc with
  | zero => exact .pure _
  | succ fuel ih =>
    exact (halts_skipSign ".").bind fun _ => .ite (halts_expectName.bind fun _ => ih _) (.pure _)

omit hexpr in
theorem halts_operationName : Halts operationName :=
  halts_expectName.bind fun _ => halts_fuelLeft.bind fun _ => halts_dottedName _ _

theorem halts_filterAfter (e : Expr) : Halts (filterAfter expr e) := by
  refine halts_operationName.bind fun _ => (halts_atSign "(").bind fun _ => .ite ?_ (.pure _)
  exact (halts_arguments hexpr).bind fun _ => .pure _

omit hexpr in
theorem halts_atTestArgument : Halts atTestArgument := by
  refine halts_current.bind fun t => ?_
  split <;> exact .pure _

theorem halts_testAfter (e : Expr) : Halts (testAfter expr e) := by
  refine (halts_skipName "not").bind fun negated => halts_operationName.bind fun name => ?_
  refine (halts_atSign "(").bind fun _ => halts_atTestArgument.bind fun _ => ?_
  dsimp only
  split
  · exact (halts_arguments hexpr).bind fun _ => .pure _
  · split
    · refine (halts_atName "is").bind fun _ => .ite (.throw _) ?_
      exact (halts_primary hexpr).bind fun _ => halts_fuelLeft.bind fun _ =>
        (halts_postfixes hexpr _ _).bind fun _ => .pure _
    · exact .pure _

theorem halts_filters (fuel : Nat) (e : Expr) : Halts (filters expr fuel e) := by
  induction fuel generalizing e with
  | zero => exact .pure _
  | succ fuel ih =>
    refine (halts_skipSign "|").bind fun _ => .ite ((halts_filterAfter hexpr e).bind fun _ => ih _) ?_
    refine (halts_skipName "is").bind fun _ => .ite ((halts_testAfter hexpr e).bind fun _ => ih _) ?_
    exact (halts_atSign "(").bind fun _ => .ite ((halts_arguments hexpr).bind fun _ => ih _) (.pure _)

/-! ## Operators -/

theorem halts_signed (fuel : Nat) : Halts (signed expr fuel) := by
  induction fuel with
  | zero => exact halts_primary hexpr
  | succ fuel ih =>
    have hrest : ∀ e, Halts (fuelLeft >>= fun n => postfixes expr n e) :=
      fun e => halts_fuelLeft.bind fun _ => halts_postfixes hexpr _ e
    refine (halts_skipSign "-").bind fun _ => .ite (ih.bind fun _ => hrest _) ?_
    refine (halts_skipSign "+").bind fun _ => .ite (ih.bind fun _ => hrest _) ?_
    exact (halts_primary hexpr).bind fun _ => hrest _

theorem halts_unary : Halts (unary expr) :=
  halts_fuelLeft.bind fun _ => (halts_signed hexpr _).bind fun _ =>
    halts_fuelLeft.bind fun _ => halts_filters hexpr _ _

omit hexpr in
theorem halts_chain {operand : Parser Expr} (hoperand : Halts operand)
    (operator? : Token → Option (Expr → Expr → Expr)) (fuel : Nat) (left : Expr) :
    Halts (chain operand operator? fuel left) := by
  induction fuel generalizing left with
  | zero => exact .pure _
  | succ fuel ih =>
    refine halts_current.bind fun t => ?_
    split
    · exact halts_advance.bind fun _ => hoperand.bind fun _ => ih _
    · exact .pure _

omit hexpr in
theorem halts_row {operand : Parser Expr} (hoperand : Halts operand)
    (operator? : Token → Option (Expr → Expr → Expr)) : Halts (row operand operator?) :=
  hoperand.bind fun _ => halts_fuelLeft.bind fun _ => halts_chain hoperand operator? _ _

theorem halts_products : Halts (products expr) :=
  halts_row (halts_row (halts_unary hexpr) _) _

theorem halts_concatParts (fuel : Nat) (acc : List Expr) : Halts (concatParts expr fuel acc) := by
  induction fuel generalizing acc with
  | zero => exact .pure _
  | succ fuel ih =>
    exact (halts_skipSign "~").bind fun _ => .ite ((halts_products hexpr).bind fun _ => ih _) (.pure _)

theorem halts_concats : Halts (concats expr) := by
  refine (halts_products hexpr).bind fun first => halts_fuelLeft.bind fun _ => ?_
  refine (halts_concatParts hexpr _ _).bind fun parts => ?_
  split <;> exact .pure _

theorem halts_sums : Halts (sums expr) :=
  halts_row (halts_concats hexpr) _

omit hexpr in
theorem halts_relation? : Halts relation? := by
  refine halts_current.bind fun t => ?_
  split
  · split
    · exact halts_advance.bind fun _ => .pure _
    · exact .pure _
  · exact halts_advance.bind fun _ => .pure _
  · refine halts_following.bind fun _ => .ite ?_ (.pure _)
    exact halts_advance.bind fun _ => halts_advance.bind fun _ => .pure _
  · exact .pure _

theorem halts_comparedWith (fuel : Nat) (acc : List (Relation × Expr)) :
    Halts (comparedWith expr fuel acc) := by
  induction fuel generalizing acc with
  | zero => exact .pure _
  | succ fuel ih =>
    refine halts_relation?.bind fun r => ?_
    split
    · exact (halts_sums hexpr).bind fun _ => ih _
    · exact .pure _

theorem halts_comparisons : Halts (comparisons expr) := by
  refine (halts_sums hexpr).bind fun first => halts_fuelLeft.bind fun _ => ?_
  refine (halts_comparedWith hexpr _ _).bind fun rest => ?_
  split <;> exact .pure _

theorem halts_negations (fuel : Nat) : Halts (negations expr fuel) := by
  induction fuel with
  | zero => exact halts_comparisons hexpr
  | succ fuel ih =>
    exact (halts_skipName "not").bind fun _ => .ite (ih.bind fun _ => .pure _) (halts_comparisons hexpr)

theorem halts_disjunctions : Halts (disjunctions expr) :=
  halts_row (halts_row (halts_fuelLeft.bind fun _ => halts_negations hexpr _) _) _

theorem halts_conditions (fuel line : Nat) (yes : Expr) : Halts (conditions expr fuel line yes) := by
  induction fuel generalizing line yes with
  | zero => exact .pure _
  | succ fuel ih =>
    have hnext : ∀ e, Halts (currentLine >>= fun next => conditions expr fuel next e) :=
      fun e => halts_currentLine.bind fun _ => ih _ _
    refine (halts_skipName "if").bind fun _ => .ite ((halts_disjunctions hexpr).bind fun test => ?_) (.pure _)
    refine (halts_skipName "else").bind fun _ => ?_
    dsimp only
    split
    · exact hexpr.bind fun _ => hnext _
    · exact hnext _

end Readers

theorem halts_expression (fuel : Nat) : Halts (expression fuel) := by
  induction fuel with
  | zero => exact halts_current.bind fun _ => .throw _
  | succ fuel ih =>
    refine halts_currentLine.bind fun line => (halts_disjunctions ih).bind fun first => ?_
    exact halts_fuelLeft.bind fun _ => halts_conditions ih _ line first

/-- Before a fault, the reader of a whole text gives nothing. -/
theorem wholeExpression_ne_ok {l l' : Lexemes} {e : Expr} (hl : l.problem?.isSome = true) :
    wholeExpression l ≠ .ok (e, l') := by
  obtain ⟨items, problem?⟩ := l
  obtain ⟨p, rfl⟩ := Option.isSome_iff_exists.1 hl
  intro h
  obtain ⟨⟨⟨⟩, l₁⟩, hcheck, h⟩ := bind_eq_ok
    (show (checkEnd ⟨items, some p⟩ ⟨items, some p⟩ >>= fun r => _) = _ from h)
  cases items with
  | nil => cases hcheck
  | cons x items =>
    cases hcheck
    have hpending : Pending ⟨x :: items, some p⟩ := ⟨rfl, List.cons_ne_nil x items⟩
    have hread : Halts (fuelLeft >>= expression) := halts_fuelLeft.bind halts_expression
    obtain ⟨⟨e', l₂⟩, hexpression, h⟩ := bind_eq_ok
      (show ((fuelLeft >>= expression) ⟨x :: items, some p⟩ >>= fun r => _) = _ from h)
    obtain ⟨-, hleft⟩ := hread _ e' l₂ hpending hexpression
    -- the tokens that are left stand behind the end of the expression
    obtain ⟨y, rest, hitems⟩ := List.exists_cons_of_ne_nil hleft
    obtain ⟨rest', problem?⟩ := l₂
    cases hitems
    cases h

end Parser

/-- A text with a fault is not read. -/
theorem parse_error_of_problem {s : List Char} (h : (tokens s).problem?.isSome = true) (e : Expr) :
    parse s ≠ .ok e := by
  intro hparse
  obtain ⟨⟨e', l'⟩, hread, -⟩ := bind_eq_ok hparse
  exact Parser.wholeExpression_ne_ok h hread

end FieldRules.Expr
