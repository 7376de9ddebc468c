import FieldRules.Proofs.Expr.Parsing
import FieldRules.Proofs.Rule.Failures
import Mathlib.Data.List.Forall2

/-!
# Values of argument lists

What an argument list comes to (`resolveArguments_items`). Once it has been folded, an item is a constant or
a name; both are let through by the check, and both have a value for which nothing else is to be worked out.
If all items are constants the whole list is folded into one.
-/

namespace FieldRules.Expr

variable {bindings : List (String × Value)}

/-- The value that an item stands for, where names have the given values. -/
inductive Atom.Means (bindings : List (String × Value)) : Atom → Value → Prop where
  | text (s : String) : Means bindings (.text s) (.string s)
  | number {n : Int} (h : n.natAbs < 10 ^ Number.maxDigits) : Means bindings (.number n) (.int n)
  | yes : Means bindings (.word "true") (.bool true)
  | no : Means bindings (.word "false") (.bool false)
  | nothing : Means bindings (.word "none") .none
  | name {w : String} {v : Value} (hw : Parser.nameExpr w = .identifier w)
      (hv : bindings.lookup w = some v) (hdefined : v.isDefined = true) : Means bindings (.word w) v

/-- An expression for which nothing is to be worked out: a constant that can be written, or a name. -/
inductive Settled (bindings : List (String × Value)) : Expr → Value → Prop where
  | const {v : Value} {s : String} (hwritten : v.written = .ok s) (hunbound : unboundIn? v = none)
      (hdefined : v.isDefined = true) : Settled bindings (.const v) v
  | name {w : String} {v : Value} (hv : bindings.lookup w = some v) (hdefined : v.isDefined = true) :
      Settled bindings (.identifier w) v

/-! ## Folding -/

theorem writeInt_ok {n : Int} (h : n.natAbs < 10 ^ Number.maxDigits) :
    ∃ s, Value.writeInt n = .ok s := by
  have hlength : (Nat.toDigits 10 n.natAbs).length ≤ Number.maxDigits :=
    (Nat.length_toDigits_le_iff (by decide) (by decide)).2 h
  have hdigits : ¬Number.maxDigits <
      if n < 0 then (Number.intText n).length - 1 else (Number.intText n).length := by
    rw [Number.intText]
    split
    · rw [List.length_cons, Nat.add_sub_cancel]
      exact Nat.not_lt.2 hlength
    · exact Nat.not_lt.2 hlength
  refine ⟨String.ofList (Number.intText n), ?_⟩
  rw [Value.writeInt]
  exact if_neg hdigits

/-- A sign before a number is worked out. -/
theorem fold_negate (n : Int) :
    fold true (.unary .negate (.const (.int n))) = .const (.int (-n)) := by
  rw [fold, fold]
  rfl

theorem settled_fold {a : Atom} {v : Value} (h : a.Means bindings v) :
    Settled bindings (fold true a.expr) v := by
  cases h with
  | text s =>
    rw [Atom.expr, fold]
    exact .const (s := Text.quoteString s) rfl rfl rfl
  | number h =>
    next n =>
    obtain ⟨s, hs⟩ := writeInt_ok h
    have hfold : fold true (Atom.number n).expr = .const (.int n) := by
      rw [Atom.expr]
      split
      · next hneg =>
        rw [fold_negate, Int.ofNat_natAbs_of_nonpos (by omega), Int.neg_neg]
      · rw [fold, Int.natAbs_of_nonneg (by omega)]
    rw [hfold]
    exact .const (s := s) (by rw [Value.written, hs]) rfl rfl
  | yes => exact .const (s := "True") rfl rfl rfl
  | no => exact .const (s := "False") rfl rfl rfl
  | nothing => exact .const (s := "None") rfl rfl rfl
  | name hw hv hdefined =>
    rw [Atom.expr, hw, fold]
    exact .name hv hdefined

theorem settled_foldAll {atoms : List Atom} {vs : List Value}
    (h : List.Forall₂ (Atom.Means bindings) atoms vs) :
    List.Forall₂ (Settled bindings) (foldAll true (atoms.map Atom.expr)) vs := by
  induction h with
  | nil => exact .nil
  | cons hav _ ih => exact .cons (settled_fold hav) ih

/-! ## Lists -/

variable {es : List Expr} {vs : List Value}

/-- If all items are constants, these are the values, and the list of them can be written. -/
theorem constants?_settled (h : List.Forall₂ (Settled bindings) es vs) {ws : List Value}
    (hws : constants? es = some ws) :
    ws = vs ∧ (∃ ss, Value.writtenAll vs = .ok ss) ∧ unboundInAll? vs = none := by
  induction h generalizing ws with
  | nil => exact ⟨(Option.some.inj hws).symm, ⟨[], rfl⟩, rfl⟩
  | @cons e v es vs hev _ ih =>
    unfold constants? at hws ih
    rw [List.mapM_cons] at hws
    cases hev with
    | name hv hdefined => cases hws
    | @const _ s hwritten hunbound hdefined =>
      cases hrest : es.mapM constant? with
      | none =>
        rw [hrest] at hws
        cases hws
      | some us =>
        rw [hrest] at hws
        obtain ⟨rfl, ⟨ss, hss⟩, hnone⟩ := ih hrest
        refine ⟨(Option.some.inj hws).symm, ⟨s :: ss, ?_⟩, ?_⟩
        · rw [Value.writtenAll, hwritten, hss]
          rfl
        · rw [unboundInAll?, hunbound, hnone, Option.none_or]

theorem checkAll_settled (h : List.Forall₂ (Settled bindings) es vs) :
    checkAll false es = .ok () := by
  induction h with
  | nil => rfl
  | @cons e v es vs hev _ ih =>
    have he : check false e = .ok () := by
      cases hev with
      | name hv hdefined => rfl
      | const hwritten hunbound hdefined => rw [check, hwritten]; rfl
    rw [checkAll, he]
    exact ih

theorem evaluateAll_settled (h : List.Forall₂ (Settled bindings) es vs) :
    evaluateAll ⟨bindings, true⟩ es = .ok vs := by
  induction h with
  | nil => rfl
  | @cons e v es vs hev _ ih =>
    have he : evaluate ⟨bindings, true⟩ e = .ok v := by
      cases hev with
      | name hv hdefined =>
        rw [evaluate, Scope.valueOf, hv, Option.some_or, Option.getD_some]
        rfl
      | const hwritten hunbound hdefined => rw [evaluate, hunbound]; rfl
    rw [evaluateAll, he, ih]
    rfl

theorem isDefined_settled (h : List.Forall₂ (Settled bindings) es vs) : vs.any isUndefined = false := by
  induction h with
  | nil => rfl
  | @cons e v es vs hev _ ih =>
    have hv : v.isDefined = true := by
      cases hev with
      | name _ hdefined => exact hdefined
      | const _ _ hdefined => exact hdefined
    rw [List.any_cons, isUndefined, hv, ih]
    rfl

/-- A list stays a list of its items, or becomes one constant. -/
theorem settle_list (h : List.Forall₂ (Settled bindings) es vs) :
    settle true (.list es) = .list es ∨
      settle true (.list es) = .const (.list vs) ∧ (∃ ss, Value.writtenAll vs = .ok ss) ∧
        unboundInAll? vs = none := by
  rw [settle, value?]
  cases hconstants : constants? es with
  | none => exact .inl rfl
  | some ws =>
    obtain ⟨rfl, hwritten, hunbound⟩ := constants?_settled h hconstants
    rw [Option.bind_some]
    cases hconst : isConstant (.list ws) with
    | true =>
      refine .inr ⟨?_, hwritten, hunbound⟩
      show orConst (if isConstant (.list ws) then some (.list ws) else none) _ = _
      rw [hconst, if_pos rfl]
      rfl
    | false =>
      left
      show orConst (if isConstant (.list ws) then some (.list ws) else none) _ = _
      rw [hconst, if_neg Bool.false_ne_true]
      rfl

/-- An argument list is let through, and its value is the list of the values of its items. -/
theorem compile_bracketed {atoms : List Atom} (h : List.Forall₂ (Atom.Means bindings) atoms vs)
    (hlexable : ∀ a ∈ atoms, a.Lexable) (hatoms : ∀ a ∈ atoms, a ≠ .word "not") :
    ∃ e, compile true (FieldRules.bracketed (printItems atoms)) = .ok e ∧
      evaluate ⟨bindings, true⟩ e = .ok (.list vs) := by
  have hsettled := settled_foldAll h
  have hfold : fold true (.list (atoms.map Atom.expr))
      = settle true (.list (foldAll true (atoms.map Atom.expr))) := by
    rw [fold]
  have hcompile : ∀ e, fold true (.list (atoms.map Atom.expr)) = e → check false e = .ok () →
      compile true (FieldRules.bracketed (printItems atoms)) = .ok e := by
    intro e he hcheck
    rw [compile, parse_bracketed hlexable hatoms]
    show (check false (fold true (.list (atoms.map Atom.expr))) >>= fun _ => pure _) = _
    rw [he, hcheck]
    rfl
  -- the list has stayed a list, or all of it has become one constant
  rcases settle_list hsettled with heq | ⟨heq, ⟨ss, hss⟩, hunbound⟩
  · refine ⟨_, hcompile _ (hfold.trans heq) ?_, ?_⟩
    · rw [check]
      exact checkAll_settled hsettled
    · rw [evaluate, evaluateAll_settled hsettled]
      rfl
  · refine ⟨_, hcompile _ (hfold.trans heq) ?_, ?_⟩
    · rw [check, Value.written, hss]
      rfl
    · rw [evaluate, unboundIn?, hunbound]
      rfl

/-! ## Argument lists -/

/-- An item starts with a character that is not blank. -/
theorem Atom.print_eq_cons {a : Atom} (ha : a.Lexable) :
    ∃ c cs, a.print = c :: cs ∧ Text.isBlank c = false := by
  cases a with
  | text s => exact ⟨'\'', _, rfl, rfl⟩
  | number n =>
    rw [Atom.print, Rule.Literal.printInteger]
    split
    · exact ⟨'-', _, rfl, rfl⟩
    · obtain ⟨c, cs, hdigits, hdigit⟩ := toDigits_eq_cons n.natAbs
      have hcode := Text.isAsciiDigit_iff.1 hdigit
      exact ⟨c, cs, hdigits, Text.isBlank_eq_false (by omega) (by omega)⟩
  | word w =>
    obtain ⟨c, cs, hlist, hletter, -⟩ := ha
    have hcode := Text.isAsciiLetter_iff.1 hletter
    exact ⟨c, cs, hlist, Text.isBlank_eq_false (by omega) (by omega)⟩

/-- A list that is not empty is written with a character in front that is not blank. -/
theorem printItems_eq_cons {atoms : List Atom} (hne : atoms ≠ []) (hlexable : ∀ a ∈ atoms, a.Lexable) :
    ∃ c cs, printItems atoms = c :: cs ∧ Text.isBlank c = false := by
  cases atoms with
  | nil => exact absurd rfl hne
  | cons a atoms =>
    rw [List.forall_mem_cons] at hlexable
    obtain ⟨c, cs, hprint, hblank⟩ := Atom.print_eq_cons hlexable.1
    cases atoms with
    | nil =>
      refine ⟨c, cs, ?_, hblank⟩
      rw [printItems, List.map_singleton, List.intercalate_singleton, hprint]
    | cons b atoms =>
      refine ⟨c, cs ++ ([','] ++ printItems (b :: atoms)), ?_, hblank⟩
      rw [printItems, List.map_cons, List.map_cons, List.intercalate_cons_cons, hprint,
        List.append_assoc]
      rfl

end FieldRules.Expr

namespace FieldRules

open FieldRules.Expr

/-- The arguments of a list that is not empty are the values of its items. -/
theorem resolveArguments_items {bindings : List (String × Value)} {atoms : List Atom}
    {vs : List Value} (h : List.Forall₂ (Atom.Means bindings) atoms vs) (hne : atoms ≠ [])
    (hlexable : ∀ a ∈ atoms, a.Lexable) (hatoms : ∀ a ∈ atoms, a ≠ .word "not") :
    resolveArguments (String.ofList (printItems atoms)) bindings = .ok vs := by
  obtain ⟨c, cs, hprint, hblank⟩ := printItems_eq_cons hne hlexable
  have htrim : Text.trim (printItems atoms) ≠ [] := by
    refine Text.trim_ne_nil (c := c) ?_ hblank
    rw [hprint]
    exact List.mem_cons_self ..
  obtain ⟨e, hcompile, hevaluate⟩ := compile_bracketed h hlexable hatoms
  have hdefined : vs.any isUndefined = false := isDefined_settled (settled_foldAll h)
  exact Rule.resolveArguments_eq_ok_iff.2 (.inr ⟨htrim, e, .list vs, hcompile, hevaluate, rfl, hdefined⟩)

end FieldRules
