import FieldRules.Expr.Eval
import FieldRules.Proofs.Expr.Results

/-!
# Undefined values in expressions

A name without a value is undefined. The value of an expression has nothing undefined in it, unless the expression
puts it there or is undefined itself (`Filled.returns_evaluate`): only its rows, dictionaries, arguments of calls and
filters, and the rows of `map` hold what has been worked out before. An expression that asks for a name without a value
in any other way than whether it is there has no value (`Asks.returns_evaluate`).
-/

namespace FieldRules.Expr

open Value hiding none

variable {scope : Scope}

/-! ## What expressions hold -/

/-- A value, if there is one, that is defined. -/
def Defined (scope : Scope) (e : Expr) : Prop :=
  Returns (·.isDefined = true) (evaluate scope e)

/-- The expression of an argument. -/
def Arg.body : Arg → Expr
  | .positional e | .named _ e | .spread e | .spreadNamed e => e

/-- Whether an argument is given as it is. -/
def Arg.isGiven : Arg → Bool
  | .positional _ | .named .. => true
  | .spread _ | .spreadNamed _ => false

/-- An expression that puts nothing undefined into a value: not into a row, a dictionary or the arguments of a call
or a filter. What `map` gives for the items of a row has nothing undefined in it. -/
inductive Filled (scope : Scope) : Expr → Prop
  | const {v : Value} : v.isWhole = true → Filled scope (.const v)
  | identifier (s : String) : Filled scope (.identifier s)
  | list {items : List Expr} : (∀ e ∈ items, Filled scope e) → (∀ e ∈ items, Defined scope e) →
      Filled scope (.list items)
  | tuple {items : List Expr} : (∀ e ∈ items, Filled scope e) → (∀ e ∈ items, Defined scope e) →
      Filled scope (.tuple items)
  | dict {entries : List (Expr × Expr)} : (∀ p ∈ entries, Filled scope p.1) → (∀ p ∈ entries, Filled scope p.2) →
      (∀ p ∈ entries, Defined scope p.1 ∧ Defined scope p.2) → Filled scope (.dict entries)
  | unary (sign : Sign) (e : Expr) : Filled scope (.unary sign e)
  | binary {a b : Expr} (op : Operator) : Filled scope a → Filled scope b → Filled scope (.binary op a b)
  | both {a b : Expr} : Filled scope a → Filled scope b → Filled scope (.both a b)
  | either {a b : Expr} : Filled scope a → Filled scope b → Filled scope (.either a b)
  | concat (parts : List Expr) : Filled scope (.concat parts)
  | compare (first : Expr) (rest : List (Relation × Expr)) : Filled scope (.compare first rest)
  | cond {yes : Expr} {no : Option Expr} (line : Nat) (t : Expr) : Filled scope yes → (∀ e ∈ no, Filled scope e) →
      Filled scope (.cond line t yes no)
  | property {e : Expr} (n : String) : Filled scope e → Filled scope (.attribute e n)
  | item {e : Expr} (i : Expr) : Filled scope e → Filled scope (.item e i)
  | slice (start stop step : Option Expr) : Filled scope (.slice start stop step)
  | call {f : Expr} {args : List Arg} : Filled scope f → (∀ a ∈ args, Filled scope a.body) →
      (∀ a ∈ args, a.isGiven = true → Defined scope a.body) → Filled scope (.call f args)
  | filter {e : Expr} {n : String} {args : List Arg} : n ≠ "map" → Filled scope e →
      (∀ a ∈ args, Filled scope a.body) → (∀ a ∈ args, a.isGiven = true → Defined scope a.body) →
      Filled scope (.filter e n args)
  | map {e : Expr} {args : List Arg} : Returns Unmixed (evaluate scope (.filter e "map" args)) →
      Filled scope (.filter e "map" args)
  | test (e : Expr) (n : String) (args : List Arg) : Filled scope (.test e n args)

theorem unmixed_valueOf (h : ∀ b ∈ scope.bindings, b.2.isWhole = true) (n : String) :
    (scope.valueOf n).Unmixed := by
  unfold Scope.valueOf
  cases hfound : (scope.bindings.lookup n).or (globals.lookup n) with
  | none => exact nofun
  | some v =>
    rcases Option.or_eq_some_iff.1 hfound with hv | ⟨-, hv⟩
    · exact unmixed_of_isWhole (isWhole_of_lookup h hv)
    · have hglobals : WholeFields globals := by
        rintro p hp
        simp only [globals, List.mem_cons, List.not_mem_nil, or_false] at hp
        rcases hp with rfl | rfl | rfl <;> rfl
      exact unmixed_of_isWhole (isWhole_of_lookup hglobals hv)

/-! ## Parts of expressions -/

theorem returns_evaluateAll {P : Value → Prop} {es : List Expr} (h : ∀ e ∈ es, Returns P (evaluate scope e)) :
    Returns (fun vs => ∀ v ∈ vs, P v) (evaluateAll scope es) := by
  induction es with
  | nil => exact .pure nofun
  | cons e rest ih =>
    obtain ⟨he, hrest⟩ := List.forall_mem_cons.1 h
    exact he.bind fun v hv => (ih hrest).bind fun vs hvs => .pure (List.forall_mem_cons.2 ⟨hv, hvs⟩)

/-- Parts that are filled and defined give whole values. -/
theorem returns_whole {e : Expr} (h : Returns Unmixed (evaluate scope e)) (hdefined : Defined scope e) :
    Returns (·.isWhole = true) (evaluate scope e) :=
  fun v hv => h v hv (hdefined v hv)

theorem returns_evaluateEntries {entries : List (Expr × Expr)}
    (h : ∀ p ∈ entries, Returns (·.isWhole = true) (evaluate scope p.1) ∧
      Returns (·.isWhole = true) (evaluate scope p.2)) :
    Returns WholeEntries (evaluateEntries scope entries) := by
  induction entries with
  | nil => exact .pure nofun
  | cons p rest ih =>
    obtain ⟨⟨hk, hv⟩, hrest⟩ := List.forall_mem_cons.1 h
    refine hk.bind fun k hk => hv.bind fun v hv => (ih hrest).bind fun es hes => ?_
    exact .pure (List.forall_mem_cons.2 ⟨⟨hk, hv⟩, hes⟩)

theorem returns_spreadItems {v : Value} (h : v.Unmixed) : Returns WholeItems (spreadItems v) := by
  unfold spreadItems
  split
  · next xs hxs => exact .pure (h.items xs hxs)
  · exact .throw _
  · exact .throw _

theorem returns_spreadEntries {v : Value} (h : v.Unmixed) : Returns WholeFields (spreadEntries v) := by
  unfold spreadEntries
  split
  · next entries hentries =>
    refine .mapM ?_
    rintro ⟨k, w⟩ hp
    dsimp only
    split
    · exact .pure (h.entries? hentries _ hp).2
    · exact .throw _
  · exact .throw _

/-- Arguments that are filled, and defined where they are given as they are, are whole. -/
theorem returns_evaluateArgs {args : List Arg} (h : ∀ a ∈ args, Returns Unmixed (evaluate scope a.body))
    (hdefined : ∀ a ∈ args, a.isGiven = true → Defined scope a.body) :
    Returns (fun r => WholeItems r.1 ∧ WholeFields r.2) (evaluateArgs scope args) := by
  induction args with
  | nil => exact .pure ⟨nofun, nofun⟩
  | cons a rest ih =>
    obtain ⟨ha, hrest⟩ := List.forall_mem_cons.1 h
    obtain ⟨hgiven, hdefined⟩ := List.forall_mem_cons.1 hdefined
    have harg : Returns (fun r => WholeItems r.1 ∧ WholeFields r.2) (evaluateArg scope a) := by
      cases a with
      | positional e =>
        exact (returns_whole ha (hgiven rfl)).bind fun v hv => .pure ⟨List.forall_mem_cons.2 ⟨hv, nofun⟩, nofun⟩
      | named n e =>
        exact (returns_whole ha (hgiven rfl)).bind fun v hv => .pure ⟨nofun, List.forall_mem_cons.2 ⟨hv, nofun⟩⟩
      | spread e =>
        exact ha.bind fun v hv => (returns_spreadItems hv).bind fun xs hxs => .pure ⟨hxs, nofun⟩
      | spreadNamed e =>
        exact ha.bind fun v hv => (returns_spreadEntries hv).bind fun xs hxs => .pure ⟨nofun, hxs⟩
    refine harg.bind fun r hr => (ih hrest hdefined).bind fun r' hr' => .pure ⟨?_, ?_⟩
    · exact wholeItems_append hr.1 hr'.1
    · exact fun p hp => (List.mem_append.1 hp).elim (hr.2 p) (hr'.2 p)

/-- Without the second branch a condition that does not hold is undefined. -/
theorem returns_otherwise {P : Value → Prop} (line : Nat) {no : Option Expr}
    (h : ∀ e ∈ no, Returns P (evaluate scope e)) (hmissing : no = none → P (noAlternative line)) :
    Returns P (do return (← evaluateOption scope no).getD (noAlternative line)) := by
  cases no with
  | none => exact .pure (hmissing rfl)
  | some e =>
    intro v hv
    obtain ⟨w?, hw?, hv⟩ := bind_eq_ok hv
    rw [evaluateOption] at hw?
    obtain ⟨w, hw, rfl⟩ := exists_of_bind_pure hw?
    cases hv
    exact h e rfl w hw

/-- A chain of comparisons is true or false. -/
theorem returns_evaluateChain (v : Value) (rest : List (Relation × Expr)) :
    Returns (·.isWhole = true) (evaluateChain scope v rest) := by
  induction rest generalizing v with
  | nil => exact .pure rfl
  | cons p rest ih => exact .last fun w => .last fun _ => .ite (ih w) (.pure rfl)

/-- **What is undefined is not put into values**: the value of an expression that puts nothing undefined into a value
has nothing undefined in it, unless it is undefined itself. -/
theorem Filled.returns_evaluate (hscope : ∀ b ∈ scope.bindings, b.2.isWhole = true) {e : Expr} (h : Filled scope e) :
    Returns Unmixed (evaluate scope e) := by
  induction h with
  | @const v hv =>
    rw [evaluate]
    split
    · exact .throw _
    · exact .pure (unmixed_of_isWhole hv)
  | identifier s => exact .pure (unmixed_valueOf hscope s)
  | @list items _ hdefined ih =>
    rw [evaluate]
    have hitems := returns_evaluateAll fun e he => returns_whole (ih e he) (hdefined e he)
    exact hitems.bind fun vs hvs => .pure (unmixed_of_isWhole (isWhole_list.2 hvs))
  | @tuple items _ hdefined ih =>
    rw [evaluate]
    have hitems := returns_evaluateAll fun e he => returns_whole (ih e he) (hdefined e he)
    exact hitems.bind fun vs hvs => .pure (unmixed_of_isWhole (isWhole_tuple.2 hvs))
  | @dict entries _ _ hdefined ihkey ihvalue =>
    rw [evaluate]
    have hentries := returns_evaluateEntries fun p hp =>
      ⟨returns_whole (ihkey p hp) (hdefined p hp).1, returns_whole (ihvalue p hp) (hdefined p hp).2⟩
    exact hentries.bind fun es hes => returns_unmixed (returns_dictOf hes)
  | unary sign e =>
    rw [evaluate]
    exact .last fun v => returns_unmixed (returns_applySign sign v)
  | binary op _ _ iha ihb =>
    rw [evaluate]
    exact iha.bind fun v hv => ihb.bind fun w hw => returns_unmixed (returns_applyOperator op hv hw)
  | both _ _ iha ihb =>
    rw [evaluate]
    exact iha.bind fun v hv => .last fun _ => .ite ihb (.pure hv)
  | either _ _ iha ihb =>
    rw [evaluate]
    exact iha.bind fun v hv => .last fun _ => .ite (.pure hv) ihb
  | concat parts =>
    rw [evaluate]
    exact .last fun _ => .last fun _ => .pure (unmixed_of_isWhole rfl)
  | compare first rest =>
    rw [evaluate]
    exact .last fun v => returns_unmixed (returns_evaluateChain v rest)
  | @cond yes no line t _ _ ihyes ihno =>
    rw [evaluate]
    exact .last fun _ => .last fun _ => .ite ihyes (returns_otherwise line ihno fun _ => nofun)
  | property n _ ih =>
    rw [evaluate]
    exact ih.bind fun v hv => returns_attributeOf hv n
  | @item e i _ ih =>
    -- a slice takes a part of the row and is no index, so that it has an equation of its own
    cases i with
    | slice start stop step =>
      rw [evaluate]
      refine ih.bind fun v hv => .last fun _ => .last fun _ => .last fun _ => ?_
      exact returns_unmixed (returns_sliceOf hv _ _ _)
    | _ =>
      rw [evaluate]
      · exact ih.bind fun v hv => .last fun key => returns_itemOf hv key
      · exact nofun
  | slice => exact .throw _
  | call _ _ hdefined ihf ihargs =>
    rw [evaluate]
    refine ihf.bind fun f hf => (returns_evaluateArgs ihargs hdefined).bind fun r hr => ?_
    exact returns_unmixed (Method.returns_callValue hf hr.1 hr.2)
  | filter hmap _ _ hdefined ih ihargs =>
    rw [evaluate]
    refine ih.bind fun v hv => (returns_evaluateArgs ihargs hdefined).bind fun r hr => ?_
    exact Filter.returns_run hmap hv hr.1 hr.2
  | map h =>
    -- the row that map makes is worked out item by item, so that the constructor asks for this
    exact h
  | test e n args =>
    rw [evaluate]
    refine .last fun v => .last fun r => ?_
    dsimp only
    split
    · exact .last fun _ => .pure (unmixed_of_isWhole rfl)
    · exact .throw _

/-! ## Names without a value -/

mutual

/-- An expression that asks for something undefined in another way than whether it is there. -/
inductive Asks (scope : Scope) : Expr → Prop
  | sign {e : Expr} (sign : Sign) : Lacks scope e → Asks scope (.unary sign e)
  | left {a : Expr} (op : Operator) (b : Expr) : Lacks scope a → Asks scope (.binary op a b)
  | right {b : Expr} {op : Operator} (a : Expr) : op ≠ .modulo → Lacks scope b → Asks scope (.binary op a b)
  | both {a : Expr} (b : Expr) : Lacks scope a → Asks scope (.both a b)
  | either {a : Expr} (b : Expr) : Lacks scope a → Asks scope (.either a b)
  | concat {e : Expr} {parts : List Expr} : e ∈ parts → Lacks scope e → Asks scope (.concat parts)
  | compared {first : Expr} {r : Relation} (e : Expr) (rest : List (Relation × Expr)) : r ≠ .isIn → r ≠ .notIn →
      Lacks scope first → Asks scope (.compare first ((r, e) :: rest))
  | compare {e : Expr} (first : Expr) (r : Relation) (rest : List (Relation × Expr)) : Lacks scope e →
      Asks scope (.compare first ((r, e) :: rest))
  | test {t : Expr} (line : Nat) (yes : Expr) (no : Option Expr) : Lacks scope t → Asks scope (.cond line t yes no)
  | part {e : Expr} (i : Expr) : Lacks scope e → Asks scope (.item e i)
  | call {f : Expr} (args : List Arg) : Lacks scope f → Asks scope (.call f args)
  | key {p : Expr × Expr} {entries : List (Expr × Expr)} : p ∈ entries → Lacks scope p.1 → Asks scope (.dict entries)
  | value {p : Expr × Expr} {entries : List (Expr × Expr)} : p ∈ entries → Asks scope p.2 → Asks scope (.dict entries)
  | listed {e : Expr} {items : List Expr} : e ∈ items → Asks scope e → Asks scope (.list items)
  | tupled {e : Expr} {items : List Expr} : e ∈ items → Asks scope e → Asks scope (.tuple items)
  | called {f : Expr} {a : Arg} {args : List Arg} : a ∈ args → Asks scope a.body → Asks scope (.call f args)
  | filtered {e : Expr} (n : String) (args : List Arg) : Asks scope e → Asks scope (.filter e n args)
  | tested {e : Expr} (n : String) (args : List Arg) : Asks scope e → Asks scope (.test e n args)

/-- An expression that has no value but an undefined one. -/
inductive Lacks (scope : Scope) : Expr → Prop
  | name {n : String} : scope.bindings.lookup n = none → globals.lookup n = none → Lacks scope (.identifier n)
  | property {e : Expr} (n : String) : Lacks scope e → Lacks scope (.attribute e n)
  | index {i : Expr} (e : Expr) : Lacks scope i → Lacks scope (.item e i)
  | branches {yes no : Expr} (line : Nat) (t : Expr) : Lacks scope yes → Lacks scope no →
      Lacks scope (.cond line t yes (some no))
  | asks {e : Expr} : Asks scope e → Lacks scope e

end

/-- A computation without a result. -/
def Fails {α : Type} (m : Except Fault α) : Prop :=
  Returns (fun _ => False) m

theorem Fails.bind {α β : Type} {Q : β → Prop} {m : Except Fault α} {f : α → Except Fault β} (h : Fails m) :
    Returns Q (m >>= f) := by
  intro b hb
  obtain ⟨a, ha, -⟩ := bind_eq_ok hb
  exact (h a ha).elim

/-- A value that is undefined and strict. -/
inductive Missing : Value → Prop
  | undefined (f : Fault) : Missing (.undefined ⟨true, f⟩)

section Operations
variable {v w : Value}

theorem fails_truth (h : Missing v) : Fails v.truth := by
  cases h
  exact .throw _

theorem fails_text (h : Missing v) : Fails v.text := by
  cases h
  exact .throw _

theorem fails_checkKey (h : Missing v) : Fails v.checkKey := by
  cases h
  exact .throw _

theorem fails_applySign (sign : Sign) (h : Missing v) : Fails (applySign sign v) := by
  cases sign with
  | negate | affirm =>
    cases h
    exact .throw _
  | not => exact (fails_truth h).bind

theorem fails_left (op : Operator) (h : Missing v) (w : Value) : Fails (applyOperator op v w) := by
  cases h
  cases op <;> exact .throw _

/-- A text takes the operand behind a modulo for what fills it, and may have no use for it. -/
theorem fails_right {op : Operator} (hop : op ≠ .modulo) (v : Value) (h : Missing w) :
    Fails (applyOperator op v w) := by
  cases h with
  | undefined f =>
    have hjoin : ∀ v : Value, Fails (v.join (.undefined ⟨true, f⟩)) := by
      intro v
      cases v <;> exact .throw _
    have hrepeat : ∀ v : Value, Fails (v.repeatValue (.undefined ⟨true, f⟩)) := by
      intro v
      cases v <;> exact .throw _
    unfold applyOperator
    split
    · exact absurd rfl hop
    · exact absurd rfl hop
    · unfold Value.operate
      split
      · next hw => cases hw
      · -- a sum, a product, a difference of sets, and whatever has no arithmetic
        split
        · exact hjoin _
        · exact hrepeat _
        · exact nomatch ‹Value.undefined _ = Value.set _›
        · exact .throw _

theorem fails_compared {r : Relation} (hin : r ≠ .isIn) (hnot : r ≠ .notIn) (h : Missing v) (w : Value) :
    Fails (applyRelation r v w) := by
  cases h
  cases r with
  | equal => exact .throw _
  | notEqual => exact .throw _
  | order c => cases w <;> exact .throw _
  | isIn => exact absurd rfl hin
  | notIn => exact absurd rfl hnot

theorem fails_relation (r : Relation) (v : Value) (h : Missing w) : Fails (applyRelation r v w) := by
  cases h
  have hsame : ∀ f, Fails (ValueTest.same v (.undefined ⟨true, f⟩)) := by
    intro f
    unfold ValueTest.same
    split
    · exact .throw _
    · exact .throw _
    · next hnone => exact absurd rfl (hnone f)
  cases r with
  | equal => exact hsame _
  | notEqual => exact (hsame _).bind
  | order c => cases v <;> exact .throw _
  | isIn => exact .throw _
  | notIn => exact .throw _

theorem fails_joinTexts {vs : List Value} (hv : v ∈ vs) (h : Missing v) : Fails (joinTexts vs) := by
  intro s hs
  obtain ⟨texts, htexts, -⟩ := bind_eq_ok hs
  obtain ⟨t, -, ht⟩ := exists_of_forall₂_left (forall₂_of_mapM_eq_ok htexts) hv
  exact fails_text h t ht

theorem fails_dictOf {entries : List (Value × Value)} {p : Value × Value} (hp : p ∈ entries) (h : Missing p.1) :
    Fails (dictOf entries) := by
  have hkeys : Fails (entries.forM fun q => q.1.checkKey) := by
    induction entries with
    | nil => cases hp
    | cons q rest ih =>
      show Fails (q.1.checkKey >>= fun _ => rest.forM fun q => q.1.checkKey)
      rcases List.mem_cons.1 hp with rfl | hp
      · exact (fails_checkKey h).bind
      · exact .last fun _ => ih hp
  exact hkeys.bind

theorem fails_sliceOf (h : Missing v) (start stop step : Value) : Fails (sliceOf v start stop step) := by
  cases h
  exact .throw _

theorem fails_itemOf (strict : Bool) (h : Missing v) (key : Value) : Fails (itemOf strict v key) := by
  cases h
  exact .throw _

/-- Nothing that is not there is an index or a key. -/
theorem missing_itemOf (v : Value) {key : Value} (h : Missing key) : Returns Missing (itemOf true v key) := by
  cases h with
  | undefined f =>
    have hnone : Returns (· = none) (nativeItem? v (.undefined ⟨true, f⟩)) := by
      unfold nativeItem?
      split
      · exact .throw _
      · split
        · exact .throw _
        · exact .pure rfl
    refine hnone.bind ?_
    rintro _ rfl
    exact .pure (.undefined _)

theorem missing_attributeOf (h : Missing v) (name : String) : Returns Missing (attributeOf true v name) := by
  cases h with
  | undefined f =>
    unfold attributeOf
    cases husable : usableAttribute? true (.undefined ⟨true, f⟩) name with
    | none => exact .throw _
    | some w =>
      rw [eq_of_usableAttribute? husable]
      exact .pure (.undefined _)

theorem fails_callValue (h : Missing v) (args : List Value) (named : List (String × Value)) :
    Fails (Method.callValue v args named) := by
  cases h
  exact .throw _

end Operations

theorem returns_evaluateAll_of_mem {P : Value → Prop} {e : Expr} {es : List Expr} (he : e ∈ es)
    (h : Returns P (evaluate scope e)) : Returns (fun vs => ∃ v ∈ vs, P v) (evaluateAll scope es) := by
  induction es with
  | nil => cases he
  | cons x rest ih =>
    rcases List.mem_cons.1 he with rfl | he
    · exact h.bind fun v hv => .last fun vs => .pure ⟨v, List.mem_cons_self .., hv⟩
    · refine .last fun w => (ih he).bind fun vs hvs => .pure ?_
      obtain ⟨v, hmem, hv⟩ := hvs
      exact ⟨v, List.mem_cons_of_mem w hmem, hv⟩

theorem fails_evaluateAll {e : Expr} {es : List Expr} (he : e ∈ es) (h : Fails (evaluate scope e)) :
    Fails (evaluateAll scope es) :=
  (returns_evaluateAll_of_mem he h).imp fun _ ⟨_, _, hfalse⟩ => hfalse

/-- Where an argument fails, all of them do. -/
theorem fails_evaluateArgs {a : Arg} {args : List Arg} (ha : a ∈ args) (h : Fails (evaluate scope a.body)) :
    Fails (evaluateArgs scope args) := by
  have harg : Fails (evaluateArg scope a) := by
    cases a <;> exact h.bind
  induction args with
  | nil => cases ha
  | cons b rest ih =>
    rcases List.mem_cons.1 ha with rfl | ha
    · exact harg.bind
    · exact .last fun _ => (ih ha).bind

theorem fails_evaluateEntries {p : Expr × Expr} {entries : List (Expr × Expr)} (hp : p ∈ entries)
    (h : Fails (evaluate scope p.2)) : Fails (evaluateEntries scope entries) := by
  induction entries with
  | nil => cases hp
  | cons q rest ih =>
    rcases List.mem_cons.1 hp with rfl | hp
    · exact .last fun _ => h.bind
    · exact .last fun _ => .last fun _ => (ih hp).bind

theorem missing_evaluateEntries {p : Expr × Expr} {entries : List (Expr × Expr)} (hp : p ∈ entries)
    (h : Returns Missing (evaluate scope p.1)) :
    Returns (fun es => ∃ q ∈ es, Missing q.1) (evaluateEntries scope entries) := by
  induction entries with
  | nil => cases hp
  | cons q rest ih =>
    rcases List.mem_cons.1 hp with rfl | hp
    · exact h.bind fun k hk => .last fun v => .last fun es => .pure ⟨(k, v), List.mem_cons_self .., hk⟩
    · refine .last fun k => .last fun v => (ih hp).bind fun es hes => .pure ?_
      obtain ⟨q, hq, hmissing⟩ := hes
      exact ⟨q, List.mem_cons_of_mem _ hq, hmissing⟩

theorem missing_valueOf {n : String} (hstrict : scope.strict = true) (hbinding : scope.bindings.lookup n = none)
    (hglobal : globals.lookup n = none) : Missing (scope.valueOf n) := by
  rw [Scope.valueOf, hbinding, hglobal, hstrict]
  exact .undefined _

mutual

/-- **What asks for something undefined has no value.** -/
theorem Asks.returns_evaluate (hstrict : scope.strict = true) : ∀ {e : Expr}, Asks scope e →
    Fails (evaluate scope e)
  | _, .sign sign h => by
    rw [evaluate]
    exact (Lacks.returns_evaluate hstrict h).bind fun v hv => fails_applySign sign hv
  | _, .left op b h => by
    rw [evaluate]
    exact (Lacks.returns_evaluate hstrict h).bind fun v hv => .last fun w => fails_left op hv w
  | _, .right a hop h => by
    rw [evaluate]
    exact .last fun v => (Lacks.returns_evaluate hstrict h).bind fun w hw => fails_right hop v hw
  | _, .both b h => by
    rw [evaluate]
    exact (Lacks.returns_evaluate hstrict h).bind fun v hv => (fails_truth hv).bind
  | _, .either b h => by
    rw [evaluate]
    exact (Lacks.returns_evaluate hstrict h).bind fun v hv => (fails_truth hv).bind
  | _, .concat hmem h => by
    rw [evaluate]
    refine (returns_evaluateAll_of_mem hmem (Lacks.returns_evaluate hstrict h)).bind fun vs hvs => ?_
    obtain ⟨v, hv, hmissing⟩ := hvs
    exact (fails_joinTexts hv hmissing).bind
  | _, .compared e rest hin hnot h => by
    rw [evaluate]
    refine (Lacks.returns_evaluate hstrict h).bind fun v hv => ?_
    exact .last fun w => (fails_compared hin hnot hv w).bind
  | _, .compare first r rest h => by
    rw [evaluate]
    refine .last fun v => ?_
    exact (Lacks.returns_evaluate hstrict h).bind fun w hw => (fails_relation r v hw).bind
  | _, .test line yes no h => by
    rw [evaluate]
    exact (Lacks.returns_evaluate hstrict h).bind fun v hv => (fails_truth hv).bind
  | .item e i, .part _ h => by
    have he := Lacks.returns_evaluate hstrict h
    -- whatever is asked for, a slice or an item, what lacks a value has no parts
    cases i with
    | slice start stop step =>
      rw [evaluate]
      exact he.bind fun v hv => .last fun _ => .last fun _ => .last fun _ => fails_sliceOf hv _ _ _
    | _ =>
      rw [evaluate]
      · exact he.bind fun v hv => .last fun key => fails_itemOf _ hv key
      · exact nofun
  | _, .call args h => by
    rw [evaluate]
    exact (Lacks.returns_evaluate hstrict h).bind fun f hf => .last fun r => fails_callValue hf r.1 r.2
  | _, .key hmem h => by
    rw [evaluate]
    refine (missing_evaluateEntries hmem (Lacks.returns_evaluate hstrict h)).bind fun es hes => ?_
    obtain ⟨q, hq, hmissing⟩ := hes
    exact fails_dictOf hq hmissing
  | _, .value hmem h => by
    rw [evaluate]
    exact (fails_evaluateEntries hmem (Asks.returns_evaluate hstrict h)).bind
  | _, .listed hmem h => by
    rw [evaluate]
    exact (fails_evaluateAll hmem (Asks.returns_evaluate hstrict h)).bind
  | _, .tupled hmem h => by
    rw [evaluate]
    exact (fails_evaluateAll hmem (Asks.returns_evaluate hstrict h)).bind
  | _, .called hmem h => by
    rw [evaluate]
    exact .last fun f => (fails_evaluateArgs hmem (Asks.returns_evaluate hstrict h)).bind
  | _, .filtered n args h => by
    rw [evaluate]
    exact (Asks.returns_evaluate hstrict h).bind
  | _, .tested n args h => by
    rw [evaluate]
    exact (Asks.returns_evaluate hstrict h).bind

/-- **What lacks a value has no defined one.** -/
theorem Lacks.returns_evaluate (hstrict : scope.strict = true) : ∀ {e : Expr}, Lacks scope e →
    Returns Missing (evaluate scope e)
  | _, .name hbinding hglobal => .pure (missing_valueOf hstrict hbinding hglobal)
  | _, .property n h => by
    rw [evaluate, hstrict]
    exact (Lacks.returns_evaluate hstrict h).bind fun v hv => missing_attributeOf hv n
  | .item e i, .index _ h => by
    have hi := Lacks.returns_evaluate hstrict h
    cases i with
    | slice =>
      -- a slice by itself is none of the expressions that lack a value
      cases h with
      | asks h => cases h
    | _ =>
      rw [evaluate]
      · rw [hstrict]
        exact .last fun v => hi.bind fun key hkey => missing_itemOf v hkey
      · exact nofun
  | _, .branches line t hyes hno => by
    rw [evaluate]
    have hno := Lacks.returns_evaluate hstrict hno
    refine .last fun v => .last fun holds => .ite (Lacks.returns_evaluate hstrict hyes) ?_
    exact returns_otherwise line (fun _ he => Option.some.inj he ▸ hno) nofun
  | _, .asks h => Returns.imp (Asks.returns_evaluate hstrict h) nofun

end

end FieldRules.Expr
