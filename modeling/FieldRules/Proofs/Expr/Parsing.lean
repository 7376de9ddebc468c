import FieldRules.Proofs.Expr.Lexing

/-!
# Trees of argument lists

The syntax tree that the tokens of an argument list are read into (`parse_bracketed`). `Takes` says what a
reader gives for the tokens it meets and which of them it leaves; readers that are put together take
tokens one after the other. Behind an item stands a comma or a bracket, at which every loop over what may
stand behind a value ends.
-/

namespace FieldRules.Expr

/-- The tree of an item. -/
def Atom.expr : Atom → Expr
  | text s => .const (.string s)
  | number n => if n < 0 then .unary .negate (.const (.int n.natAbs)) else .const (.int n.natAbs)
  | word w => Parser.nameExpr w

namespace Parser

variable {α β : Type} {toks toks' toks'' : List Token}

/-! ## Readers -/

/-- What is left to read: the tokens, with no fault behind them. -/
def Shows (l : Lexemes) (toks : List Token) : Prop :=
  l.problem? = none ∧ l.items.map Lexeme.token = toks

/-- Where the reader meets the first tokens, it gives the value and leaves the other tokens. -/
def Takes (p : Parser α) (toks : List Token) (a : α) (toks' : List Token) : Prop :=
  ∀ l, Shows l toks → ∃ l', p l = .ok (a, l') ∧ Shows l' toks'

theorem Takes.pure (a : α) (toks : List Token) : Takes (Pure.pure a) toks a toks :=
  fun l hl => ⟨l, rfl, hl⟩

theorem Takes.bind {p : Parser α} {f : α → Parser β} {a : α} {b : β} (hp : Takes p toks a toks')
    (hf : Takes (f a) toks' b toks'') : Takes (p >>= f) toks b toks'' := by
  intro l hl
  obtain ⟨l', hpl, hl'⟩ := hp l hl
  obtain ⟨l'', hfl, hl''⟩ := hf l' hl'
  refine ⟨l'', ?_, hl''⟩
  show (p l >>= fun r => f r.1 r.2) = _
  rw [hpl]
  exact hfl

theorem takes_current (toks : List Token) : Takes current toks toks.head? toks := by
  intro l hl
  refine ⟨l, ?_, hl⟩
  have hhead : toks.head? = l.items.head?.map Lexeme.token := by rw [← hl.2, List.head?_map]
  rw [hhead]
  rfl

theorem takes_advance (t : Token) (toks : List Token) : Takes advance (t :: toks) () toks := by
  intro l hl
  obtain ⟨items, problem⟩ := l
  obtain ⟨rfl, hitems⟩ := hl
  obtain _ | ⟨x, items⟩ := items
  · cases hitems
  · refine ⟨⟨items, none⟩, ?_, rfl, (List.cons.inj hitems).2⟩
    cases items <;> rfl

theorem takes_fuelLeft (toks : List Token) : Takes fuelLeft toks (toks.length + 1) toks := by
  intro l hl
  refine ⟨l, ?_, hl⟩
  have hlength : toks.length = l.items.length := by rw [← hl.2, List.length_map]
  rw [hlength]
  rfl

/-- The line where a reader starts may have any number. -/
theorem Takes.line {f : Nat → Parser β} {b : β} (hf : ∀ n, Takes (f n) toks b toks') :
    Takes (currentLine >>= f) toks b toks' := by
  intro l hl
  exact hf ((l.items.head?.map Lexeme.line).getD 1) l hl

theorem takes_atSign (s : String) (toks : List Token) :
    Takes (atSign s) toks (toks.head?.any (·.isSign s)) toks :=
  (takes_current toks).bind (.pure _ _)

theorem takes_skipSign (s : String) (toks : List Token) :
    Takes (skipSign s) (.sign s :: toks) true toks := by
  refine (takes_atSign s _).bind ?_
  rw [List.head?_cons, Option.any_some, Token.isSign, beq_self_eq_true, if_pos rfl]
  exact (takes_advance _ _).bind (.pure _ _)

theorem skipsNoSign {s : String} (h : toks.head?.any (·.isSign s) = false) :
    Takes (skipSign s) toks false toks := by
  refine (takes_atSign s toks).bind ?_
  rw [h, if_neg Bool.false_ne_true]
  exact .pure _ _

theorem skipsNoName {s : String} (h : toks.head?.any (·.isName s) = false) :
    Takes (skipName s) toks false toks := by
  refine Takes.bind ((takes_current toks).bind (.pure (toks.head?.any (·.isName s)) _)) ?_
  rw [h, if_neg Bool.false_ne_true]
  exact .pure _ _

theorem takes_expectSign (s : String) (toks : List Token) :
    Takes (expectSign s) (.sign s :: toks) () toks :=
  (takes_skipSign s toks).bind (.pure _ _)

/-! ## Behind an item -/

/-- The tokens behind an item or a list: none, or a comma or a closing bracket comes first. -/
def Ends (toks : List Token) : Prop :=
  toks = [] ∨ ∃ s rest, toks = .sign s :: rest ∧ (s = "," ∨ s = "]")

namespace Ends

theorem isSign (h : Ends toks) {s : String} (hcomma : s ≠ ",") (hbracket : s ≠ "]") :
    toks.head?.any (·.isSign s) = false := by
  obtain rfl | ⟨x, rest, rfl, hx⟩ := h
  · rfl
  · rw [List.head?_cons, Option.any_some, Token.isSign, ← Bool.not_eq_true, beq_iff_eq]
    rintro rfl
    exact hx.elim hcomma hbracket

theorem isName (h : Ends toks) (s : String) : toks.head?.any (·.isName s) = false := by
  obtain rfl | ⟨x, rest, rfl, -⟩ := h <;> rfl

end Ends

theorem takes_texts (h : Ends toks) (fuel : Nat) (s : String) : Takes (texts fuel s) toks s toks := by
  obtain _ | fuel := fuel
  · exact .pure _ _
  · refine (takes_current toks).bind ?_
    obtain rfl | ⟨x, rest, rfl, -⟩ := h
    · exact .pure _ _
    · exact .pure _ _

variable (expr : Parser Expr)

theorem takes_postfixes (h : Ends toks) (fuel : Nat) (e : Expr) :
    Takes (postfixes expr fuel e) toks e toks := by
  obtain _ | fuel := fuel
  · exact .pure _ _
  · refine (skipsNoSign (h.isSign (by decide) (by decide))).bind ?_
    refine (skipsNoSign (h.isSign (by decide) (by decide))).bind ?_
    refine (takes_atSign "(" toks).bind ?_
    rw [h.isSign (by decide) (by decide)]
    exact .pure _ _

theorem takes_filters (h : Ends toks) (fuel : Nat) (e : Expr) :
    Takes (filters expr fuel e) toks e toks := by
  obtain _ | fuel := fuel
  · exact .pure _ _
  · refine (skipsNoSign (h.isSign (by decide) (by decide))).bind ?_
    refine (skipsNoName (h.isName _)).bind ?_
    refine (takes_atSign "(" toks).bind ?_
    rw [h.isSign (by decide) (by decide)]
    exact .pure _ _

theorem takes_concatParts (h : Ends toks) (fuel : Nat) (acc : List Expr) :
    Takes (concatParts expr fuel acc) toks acc.reverse toks := by
  obtain _ | fuel := fuel
  · exact .pure _ _
  · refine (skipsNoSign (h.isSign (by decide) (by decide))).bind ?_
    exact .pure _ _

theorem takes_comparedWith (h : Ends toks) (fuel : Nat) (acc : List (Relation × Expr)) :
    Takes (comparedWith expr fuel acc) toks acc.reverse toks := by
  obtain _ | fuel := fuel
  · exact .pure _ _
  · have hrelation : Takes relation? toks none toks := by
      refine (takes_current toks).bind ?_
      obtain rfl | ⟨x, rest, rfl, rfl | rfl⟩ := h
      · exact .pure _ _
      · exact .pure _ _
      · exact .pure _ _
    exact hrelation.bind (.pure _ _)

theorem takes_conditions (h : Ends toks) (fuel line : Nat) (e : Expr) :
    Takes (conditions expr fuel line e) toks e toks := by
  obtain _ | fuel := fuel
  · exact .pure _ _
  · exact (skipsNoName (h.isName _)).bind (.pure _ _)

/-- Operands of a row end where no operator of the row follows. -/
theorem takes_row {operand : Parser Expr} {operator? : Token → Option (Expr → Expr → Expr)} {e : Expr}
    (he : Takes operand toks e toks') (h : Ends toks')
    (hoperator : ∀ s, s = "," ∨ s = "]" → operator? (.sign s) = none) :
    Takes (row operand operator?) toks e toks' := by
  refine he.bind ((takes_fuelLeft toks').bind ?_)
  refine (takes_current toks').bind ?_
  obtain rfl | ⟨s, rest, rfl, hs⟩ := h
  · exact .pure _ _
  · rw [List.head?_cons, Option.bind_some, hoperator s hs]
    exact .pure _ _

/-! ## Items -/

theorem takes_primary_text (h : Ends toks) (s : String) :
    Takes (primary expr) (.text s :: toks) (.const (.string s)) toks :=
  (takes_current _).bind ((takes_advance _ _).bind
    ((takes_fuelLeft toks).bind ((takes_texts h _ s).bind (.pure _ _))))

theorem takes_primary_integer (n : Int) (toks : List Token) :
    Takes (primary expr) (.integer n :: toks) (.const (.int n)) toks :=
  (takes_current _).bind ((takes_advance _ _).bind (.pure _ _))

theorem takes_primary_name (w : String) (toks : List Token) :
    Takes (primary expr) (.name w :: toks) (nameExpr w) toks :=
  (takes_current _).bind ((takes_advance _ _).bind (.pure _ _))

/-- A value without a sign in front of it. -/
theorem takes_signed {t : Token} {e : Expr} (h : Ends toks') (hminus : t.isSign "-" = false)
    (hplus : t.isSign "+" = false) (he : Takes (primary expr) (t :: toks) e toks') (fuel : Nat) :
    Takes (signed expr fuel) (t :: toks) e toks' := by
  obtain _ | fuel := fuel
  · exact he
  · refine (@skipsNoSign (t :: toks) _ hminus).bind ?_
    refine (@skipsNoSign (t :: toks) _ hplus).bind ?_
    exact he.bind ((takes_fuelLeft toks').bind (takes_postfixes expr h _ e))

theorem takes_signed_atom (h : Ends toks) (a : Atom) (fuel : Nat) :
    Takes (signed expr (fuel + 1)) (a.tokens ++ toks) a.expr toks := by
  cases a with
  | text s => exact takes_signed expr h rfl rfl (takes_primary_text expr h s) _
  | word w => exact takes_signed expr h rfl rfl (takes_primary_name expr w toks) _
  | number n =>
    rw [Atom.tokens, Atom.expr]
    split
    · refine (takes_skipSign "-" _).bind ?_
      refine (takes_signed expr h rfl rfl (takes_primary_integer expr n.natAbs toks) fuel).bind ?_
      exact (takes_fuelLeft toks).bind (takes_postfixes expr h _ _)
    · exact takes_signed expr h rfl rfl (takes_primary_integer expr n.natAbs toks) _

/-- A value with no operator around it is an operand of every row of operators. -/
theorem takes_comparisons {e : Expr} (h : Ends toks')
    (he : ∀ fuel, Takes (signed expr (fuel + 1)) toks e toks') :
    Takes (comparisons expr) toks e toks' := by
  have hunary : Takes (unary expr) toks e toks' :=
    (takes_fuelLeft _).bind ((he _).bind ((takes_fuelLeft toks').bind (takes_filters expr h _ _)))
  have hproducts : Takes (products expr) toks e toks' := by
    refine takes_row (takes_row hunary h ?_) h ?_
    · rintro s (rfl | rfl) <;> rfl
    · rintro s (rfl | rfl) <;> rfl
  have hconcats : Takes (concats expr) toks e toks' :=
    hproducts.bind ((takes_fuelLeft toks').bind
      ((takes_concatParts expr h _ [e]).bind (.pure _ _)))
  have hsums : Takes (sums expr) toks e toks' := by
    refine takes_row hconcats h ?_
    rintro s (rfl | rfl) <;> rfl
  exact hsums.bind ((takes_fuelLeft toks').bind ((takes_comparedWith expr h _ []).bind (.pure _ _)))

/-- A value with no operator around it is an expression. -/
theorem takes_expression {e : Expr} (h : Ends toks') (hnot : toks.head?.any (·.isName "not") = false)
    (fuel : Nat) (he : ∀ n, Takes (signed (expression fuel) (n + 1)) toks e toks') :
    Takes (expression (fuel + 1)) toks e toks' := by
  have hnegations : ∀ n, Takes (negations (expression fuel) n) toks e toks' := by
    intro n
    obtain _ | n := n
    · exact takes_comparisons _ h he
    · exact (skipsNoName hnot).bind (takes_comparisons _ h he)
  have hdisjunctions : Takes (disjunctions (expression fuel)) toks e toks' := by
    refine takes_row (takes_row ((takes_fuelLeft _).bind (hnegations _)) h ?_) h ?_
    · rintro s (rfl | rfl) <;> rfl
    · rintro s (rfl | rfl) <;> rfl
  refine Takes.line fun line => ?_
  exact hdisjunctions.bind ((takes_fuelLeft toks').bind (takes_conditions _ h _ line _))

/-- The first token of an item is no bracket, and not a negation. -/
theorem head_tokens {a : Atom} (ha : a ≠ .word "not") (toks : List Token) :
    (a.tokens ++ toks).head?.any (·.isName "not") = false ∧
      (a.tokens ++ toks).head?.any (·.isSign "]") = false := by
  cases a with
  | text s => exact ⟨rfl, rfl⟩
  | number n =>
    rw [Atom.tokens]
    split <;> exact ⟨rfl, rfl⟩
  | word w =>
    refine ⟨?_, rfl⟩
    show (w == "not") = false
    rw [← Bool.not_eq_true, beq_iff_eq]
    rintro rfl
    exact ha rfl

theorem takes_expression_atom (h : Ends toks) {a : Atom} (ha : a ≠ .word "not") (fuel : Nat) :
    Takes (expression (fuel + 1)) (a.tokens ++ toks) a.expr toks :=
  takes_expression h (head_tokens ha toks).1 fuel (takes_signed_atom _ h a)

/-! ## Lists -/

/-- The tokens of further items, with a comma in front of each. -/
def furtherTokens (atoms : List Atom) : List Token :=
  atoms.flatMap fun a => .sign "," :: a.tokens

theorem itemTokens_cons (a : Atom) (atoms : List Atom) :
    itemTokens (a :: atoms) = a.tokens ++ furtherTokens atoms := by
  induction atoms generalizing a with
  | nil =>
    rw [itemTokens, List.map_singleton, List.intercalate_singleton]
    exact (List.append_nil _).symm
  | cons b atoms ih =>
    have hrest := ih b
    rw [itemTokens, List.map_cons] at hrest
    rw [itemTokens, List.map_cons, List.map_cons, List.intercalate_cons_cons, hrest, List.append_assoc]
    rfl

theorem ends_further (atoms : List Atom) : Ends (furtherTokens atoms ++ [.sign "]"]) := by
  cases atoms with
  | nil => exact .inr ⟨"]", [], rfl, .inr rfl⟩
  | cons a atoms => exact .inr ⟨",", _, rfl, .inl rfl⟩

theorem takes_itemsUntil {atoms : List Atom} (hatoms : ∀ a ∈ atoms, a ≠ .word "not") (k : Nat)
    {acc : List Expr} (hacc : acc.isEmpty = false) {fuel : Nat} (hfuel : atoms.length ≤ fuel) :
    Takes (itemsUntil "]" (expression (k + 1)) fuel acc) (furtherTokens atoms ++ [.sign "]"])
      (acc.reverse ++ atoms.map Atom.expr) [.sign "]"] := by
  -- what has been read is kept from its end, and grows by one item with each comma
  induction atoms generalizing acc fuel with
  | nil =>
    rw [List.map_nil, List.append_nil]
    obtain _ | fuel := fuel
    · exact .pure _ _
    · exact (takes_atSign "]" _).bind (.pure _ _)
  | cons a atoms ih =>
    rw [List.forall_mem_cons] at hatoms
    obtain ⟨ha, hatoms⟩ := hatoms
    obtain _ | fuel := fuel
    · exact absurd hfuel (Nat.not_succ_le_zero _)
    · have htokens : furtherTokens (a :: atoms) ++ [.sign "]"]
          = .sign "," :: (a.tokens ++ (furtherTokens atoms ++ [.sign "]"])) := by
        rw [furtherTokens, List.flatMap_cons, List.cons_append, List.cons_append, List.append_assoc]
        rfl
      have hmore := @ih hatoms (a.expr :: acc) rfl fuel (Nat.le_of_succ_le_succ hfuel)
      rw [List.reverse_cons, List.append_assoc, List.singleton_append] at hmore
      rw [htokens, List.map_cons, itemsUntil, hacc]
      refine (takes_atSign "]" _).bind ?_
      refine (takes_expectSign "," _).bind ?_
      refine (takes_atSign "]" _).bind ?_
      rw [(head_tokens ha _).2]
      exact (takes_expression_atom (ends_further atoms) ha k).bind hmore

theorem takes_bracketed {atoms : List Atom} (hatoms : ∀ a ∈ atoms, a ≠ .word "not") (k : Nat) :
    Takes (bracketed "]" (expression (k + 1))) (itemTokens atoms ++ [.sign "]"])
      (atoms.map Atom.expr) [] := by
  refine (takes_fuelLeft _).bind ?_
  refine Takes.bind ?_ ((takes_expectSign "]" []).bind (.pure _ _))
  cases atoms with
  | nil => exact (takes_atSign "]" _).bind (.pure _ _)
  | cons a atoms =>
    rw [List.forall_mem_cons] at hatoms
    obtain ⟨ha, hatoms⟩ := hatoms
    rw [itemTokens_cons, List.append_assoc, itemsUntil]
    refine (takes_atSign "]" _).bind ?_
    rw [(head_tokens ha _).2]
    refine (takes_expression_atom (ends_further atoms) ha k).bind ?_
    -- every further item has a comma at least, so there are no more items than tokens
    refine takes_itemsUntil hatoms k rfl ?_
    have hcount : atoms.length ≤ (furtherTokens atoms).length := by
      unfold furtherTokens
      induction atoms with
      | nil => exact Nat.le_refl _
      | cons b atoms ih =>
        have := ih fun x hx => hatoms x (List.mem_cons_of_mem _ hx)
        rw [List.flatMap_cons, List.length_append, List.length_cons, List.length_cons]
        omega
    rw [List.length_append, List.length_append]
    omega

/-- A reader that starts with a look for a fault finds none. -/
theorem Takes.checked {p : Parser β} {b : β} (hp : Takes p toks b toks') :
    Takes (do checkEnd (← get); p) toks b toks' := by
  intro l hl
  obtain ⟨items, problem⟩ := l
  obtain ⟨rfl, hitems⟩ := hl
  obtain ⟨l', hpl, hl'⟩ := hp ⟨items, none⟩ ⟨rfl, hitems⟩
  refine ⟨l', ?_, hl'⟩
  cases items <;> exact hpl

theorem takes_wholeExpression {atoms : List Atom} (hatoms : ∀ a ∈ atoms, a ≠ .word "not") :
    Takes wholeExpression (.sign "[" :: (itemTokens atoms ++ [.sign "]"]))
      (.list (atoms.map Atom.expr)) [] := by
  have hends : Ends [] := .inl rfl
  refine Takes.checked ((takes_fuelLeft _).bind (Takes.bind (a := .list (atoms.map Atom.expr)) ?_
    ((takes_current []).bind (.pure _ _))))
  rw [List.length_cons, List.length_append, List.length_singleton]
  refine takes_expression hends rfl _ fun n => takes_signed _ hends rfl rfl ?_ _
  refine (takes_current _).bind ((takes_advance _ _).bind ?_)
  exact (takes_bracketed hatoms _).bind (.pure _ _)

end Parser

/-- An argument list is read as the list of its items. -/
theorem parse_bracketed {atoms : List Atom} (hlexable : ∀ a ∈ atoms, a.Lexable)
    (hatoms : ∀ a ∈ atoms, a ≠ .word "not") :
    parse (FieldRules.bracketed (printItems atoms)) = .ok (.list (atoms.map Atom.expr)) := by
  obtain ⟨items, htokens, hitems⟩ := tokens_bracketed hlexable
  obtain ⟨l, hrun, -⟩ := Parser.takes_wholeExpression hatoms ⟨items, none⟩ ⟨rfl, hitems⟩
  have hread : Parser.wholeExpression.run ⟨items, none⟩ = .ok (.list (atoms.map Atom.expr), l) := hrun
  rw [parse, htokens, hread]
  rfl

end FieldRules.Expr
