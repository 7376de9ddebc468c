import FieldRules.Proofs.Entries
import FieldRules.Rule.Scanner
import Mathlib.Logic.Relation
import Mathlib.Tactic.Common

/-!
# Failures of rules

How reading a rule text fails. The reader goes through the text in steps (`Step`), and it fails exactly where
these lead to a delimiter or a part that fails (`readFragments_error_iff`). Names, groups, messages and ends of
fragments only fail in ways that are reported as malformed rules. Arguments also fail in other ways: for two
causes why a pattern is refused, for a literal that has no value, for values that cannot be computed, and for
a whole that has no items (`Escapes`). `parse_escapes_iff` says when such a failure leaves the reader.
-/

namespace FieldRules.Rule

variable {strict : Bool} {text : List Char} {α β : Type}

/-! ## Sequences -/

theorem bind_eq_error_iff {m : Except Error α} {f : α → Except Error β} {e : Error} :
    m >>= f = .error e ↔ m = .error e ∨ ∃ a, m = .ok a ∧ f a = .error e := by
  constructor
  · intro h
    cases m with
    | error e' =>
      obtain rfl : e' = e := Except.error.inj h
      exact .inl rfl
    | ok a => exact .inr ⟨a, rfl, h⟩
  · rintro (h | ⟨a, ha, h⟩)
    · rw [h]
      rfl
    · rw [ha]
      exact h

/-! ## Reported failures -/

/-- If there is a failure, it is reported as a malformed rule. -/
def Reported (r : Except Error α) : Prop :=
  ∀ e, r = .error e → ∃ cause, e = .rule cause

theorem reported_ok (a : α) : Reported (.ok a) := fun _ h => by cases h

theorem reported_rule (cause : RuleError) : Reported (.error (.rule cause) : Except Error α) := by
  rintro e ⟨⟩
  exact ⟨cause, rfl⟩

theorem Reported.bind {m : Except Error α} {f : α → Except Error β} (hm : Reported m)
    (hf : ∀ a, Reported (f a)) : Reported (m >>= f) := by
  intro e he
  rcases bind_eq_error_iff.1 he with hfirst | ⟨a, -, hsecond⟩
  · exact hm e hfirst
  · exact hf a e hsecond

theorem reported_clean (text? : Option String) : Reported (clean text?) := by
  unfold clean
  split
  · exact reported_rule _
  · dsimp only
    split
    · exact reported_rule _
    · split <;> exact reported_ok _

theorem reported_finish (d : Draft) : Reported (finish strict text d) := by
  unfold finish
  split
  · exact reported_rule _
  · dsimp only
    split
    · exact reported_rule _
    · split
      · exact reported_rule _
      · exact reported_ok _

theorem reported_readName (rest : List Char) : Reported (readName text rest) := by
  unfold readName
  dsimp only
  split
  · exact reported_ok _
  · split
    · exact reported_ok _
    · exact reported_rule _

theorem reported_readGroups (groups : List String) (current : List Char) (gap : Bool) (rest : List Char) :
    Reported (readGroups strict text groups current gap rest) := by
  fun_induction readGroups strict text groups current gap rest
  case case1 | case6 => exact reported_rule _
  case case2 => exact reported_ok _
  case case3 ih | case4 ih | case5 ih | case7 ih => exact ih

theorem reported_readMessage (rest : List Char) : Reported (readMessage text rest) := by
  unfold readMessage
  split
  · exact reported_ok _
  · exact reported_rule _

theorem reported_readPart {part : Part} (hpart : part ≠ .arguments) (s : List Char) (d : Draft) :
    Reported (readPart strict text part s d) := by
  cases part with
  | name => exact (reported_readName s).bind fun _ => reported_ok _
  | arguments => exact absurd rfl hpart
  | groups => exact (reported_readGroups [] [] false (s.drop 1)).bind fun _ => reported_ok _
  | message => exact (reported_readMessage (s.drop 2)).bind fun _ => reported_ok _

/-! ## Steps of the reader -/

theorem length_gather {mode : Mode} {g g' : Gathered} {s rest : List Char}
    (h : gather text mode g s = .ok (g', rest)) : rest.length < s.length := by
  fun_induction gather text mode g s
  case case1 | case8 => cases h
  case case2 ih => exact Nat.lt_succ_of_lt (Nat.lt_succ_of_lt (ih h))
  case case3 ih =>
    obtain ⟨r, -, hrest⟩ := bind_eq_ok h
    exact Nat.lt_succ_of_lt (ih r hrest)
  case case10 =>
    cases h
    exact Nat.lt_succ_self _
  case case4 ih | case5 ih | case6 ih | case7 ih | case9 ih | case11 ih | case12 ih | case13 ih | case14 ih =>
    exact Nat.lt_succ_of_lt (ih h)

theorem length_readGroups {groups groups' : List String} {current : List Char} {gap : Bool}
    {s rest : List Char} (h : readGroups strict text groups current gap s = .ok (groups', rest)) :
    rest.length < s.length := by
  fun_induction readGroups strict text groups current gap s
  case case1 | case6 => cases h
  case case2 =>
    obtain ⟨-, rfl⟩ := Prod.mk.inj (Except.ok.inj h)
    exact Nat.lt_succ_self _
  case case3 ih | case4 ih | case5 ih | case7 ih => exact Nat.lt_succ_of_lt (ih h)

theorem length_cutAt? {part s before after : List Char} (h : Text.cutAt? part s = some (before, after)) :
    after.length ≤ s.length := by
  induction s generalizing before with
  | nil =>
    rw [Text.cutAt?] at h
    split at h
    · cases h
      exact Nat.le_refl _
    · cases h
  | cons c s ih =>
    rw [Text.cutAt?] at h
    split at h
    · cases h
      rw [List.length_drop]
      exact Nat.sub_le _ _
    · obtain ⟨⟨b, a⟩, hcut, heq⟩ := Option.map_eq_some_iff.1 h
      cases heq
      exact Nat.le_succ_of_le (ih hcut)

/-- A name starts with a character of names, and that is behind the reader afterwards. -/
theorem length_readName {c : Char} {s rest : List Char} {name : String} (hc : isNameChar c = true)
    (h : readName text (c :: s) = .ok (name, rest)) : rest.length < (c :: s).length := by
  have hle : (s.dropWhile isNameChar).length ≤ s.length := (List.dropWhile_suffix _).length_le
  rw [readName, List.dropWhile_cons, hc, if_pos rfl] at h
  split at h
  · cases h
    exact Nat.zero_lt_succ _
  · next d after hafter =>
    split at h
    · cases h
      rw [hafter] at hle
      exact Nat.lt_succ_of_le hle
    · cases h

theorem partAt?_eq_arguments {s : List Char} (h : partAt? s = some .arguments) : ∃ rest, s = '(' :: rest := by
  unfold partAt? at h
  split at h
  · cases h
  · cases h
  · exact ⟨_, rfl⟩
  · split at h <;> cases h
  · cases h

theorem isNameChar_of_partAt? {c : Char} {s : List Char} (h : partAt? (c :: s) = some .name) :
    isNameChar c = true := by
  unfold partAt? at h
  split at h
  · cases h
  · cases h
  · cases h
  · next heq =>
    obtain ⟨rfl, rfl⟩ := List.cons.inj heq
    split at h
    · assumption
    · cases h
  · next heq => cases heq

/-- A part that has been read is behind the reader. -/
theorem length_readPart {part : Part} {c : Char} {s rest : List Char} {d d' : Draft}
    (hpart : partAt? (c :: s) = some part) (h : readPart strict text part (c :: s) d = .ok (d', rest)) :
    rest.length < (c :: s).length := by
  cases part with
  | name =>
    obtain ⟨⟨name, after⟩, hname, h⟩ := bind_eq_ok h
    cases h
    exact length_readName (isNameChar_of_partAt? hpart) hname
  | arguments =>
    obtain ⟨⟨values, after⟩, hvalues, h⟩ := bind_eq_ok h
    cases h
    obtain ⟨⟨g, behind⟩, hgather, hvalues⟩ := bind_eq_ok hvalues
    obtain ⟨resolved, -, hvalues⟩ := bind_eq_ok hvalues
    cases hvalues
    exact Nat.lt_succ_of_lt (length_gather hgather)
  | groups =>
    obtain ⟨⟨groups, after⟩, hgroups, h⟩ := bind_eq_ok h
    cases h
    exact Nat.lt_succ_of_lt (length_readGroups hgroups)
  | message =>
    obtain ⟨⟨message, after⟩, hmessage, h⟩ := bind_eq_ok h
    cases h
    unfold readMessage at hmessage
    split at hmessage
    · next hcut =>
      cases hmessage
      have hle := length_cutAt? hcut
      rw [List.drop_succ_cons, List.length_drop] at hle
      exact Nat.lt_succ_of_le (Nat.le_trans hle (Nat.sub_le _ _))
    · cases hmessage

/-- A place in the text: the fragment that is being read, if one has begun, and the rest of the text. -/
structure Place where
  draft? : Option Draft
  rest : List Char

/-- What the reader does at a place where nothing fails. -/
inductive Step (strict : Bool) (text : List Char) : Place → Place → Prop
  | finished {d : Draft} {f : Fragment} {rest : List Char} :
      finish strict text d = .ok f → Step strict text ⟨some d, delimiter :: rest⟩ ⟨none, rest⟩
  | delimiter {rest : List Char} : Step strict text ⟨none, delimiter :: rest⟩ ⟨none, rest⟩
  | skipped {draft? : Option Draft} {c : Char} {rest : List Char} :
      c ≠ Rule.delimiter → partAt? (c :: rest) = none → Step strict text ⟨draft?, c :: rest⟩ ⟨draft?, rest⟩
  | part {draft? : Option Draft} {c : Char} {s rest : List Char} {part : Part} {d : Draft} :
      c ≠ Rule.delimiter → partAt? (c :: s) = some part →
      readPart strict text part (c :: s) (draft?.getD {}) = .ok (d, rest) →
      Step strict text ⟨draft?, c :: s⟩ ⟨some d, rest⟩

/-- What fails at a place: the end of a fragment, or a part. -/
inductive Fails (strict : Bool) (text : List Char) : Place → Error → Prop
  | finish {d : Draft} {rest : List Char} {e : Error} :
      Rule.finish strict text d = .error e → Fails strict text ⟨some d, delimiter :: rest⟩ e
  | part {draft? : Option Draft} {c : Char} {s : List Char} {part : Part} {e : Error} :
      c ≠ delimiter → partAt? (c :: s) = some part →
      readPart strict text part (c :: s) (draft?.getD {}) = .error e →
      Fails strict text ⟨draft?, c :: s⟩ e

section Places
variable {p p' : Place} {e : Error} {fuel : Nat}

theorem Step.length_lt (h : Step strict text p p') : p'.rest.length < p.rest.length := by
  cases h with
  | finished | delimiter | skipped => exact Nat.lt_succ_self _
  | part _ hpart hread => exact length_readPart hpart hread

/-- At every place there is a step or a failure, except at the end of the text. -/
theorem step_or_fails (strict : Bool) (text : List Char) (p : Place) :
    p.rest = [] ∨ (∃ p', Step strict text p p') ∨ ∃ e, Fails strict text p e := by
  obtain ⟨draft?, _ | ⟨c, s⟩⟩ := p
  · exact .inl rfl
  right
  by_cases hc : c = delimiter
  · subst hc
    cases draft? with
    | none => exact .inl ⟨_, .delimiter⟩
    | some d =>
      cases hfinish : finish strict text d with
      | error e => exact .inr ⟨e, .finish hfinish⟩
      | ok f => exact .inl ⟨_, .finished hfinish⟩
  · cases hpart : partAt? (c :: s) with
    | none => exact .inl ⟨_, .skipped hc hpart⟩
    | some part =>
      rcases hread : readPart strict text part (c :: s) (draft?.getD {}) with e | ⟨d, rest⟩
      · exact .inr ⟨e, .part hc hpart hread⟩
      · exact .inl ⟨_, .part hc hpart hread⟩

/-- After a step, the reader fails if it fails from there on. -/
theorem Step.readFragments_error (h : Step strict text p p') :
    readFragments strict text (fuel + 1) p.draft? p.rest = .error e ↔
      readFragments strict text fuel p'.draft? p'.rest = .error e := by
  cases h with
  | finished hfinish =>
    dsimp only
    rw [readFragments_delimiter]
    dsimp only
    rw [hfinish]
    -- The fragment that has ended is put in front of what follows, which does not fail on its own.
    constructor
    · intro h
      rcases bind_eq_error_iff.1 h with h | ⟨f, hf, h⟩
      · cases h
      · rcases bind_eq_error_iff.1 h with h | ⟨fs, -, h⟩
        · exact h
        · cases h
    · intro h
      rw [h]
      rfl
  | delimiter =>
    dsimp only
    rw [readFragments_delimiter]
  | skipped hc hpart =>
    dsimp only
    rw [readFragments_cons hc, hpart]
  | part hc hpart hread =>
    dsimp only
    rw [readFragments_cons hc, hpart]
    dsimp only
    rw [hread]
    rfl

theorem Fails.readFragments_eq (h : Fails strict text p e) :
    readFragments strict text (fuel + 1) p.draft? p.rest = .error e := by
  cases h with
  | finish hfinish =>
    dsimp only
    rw [readFragments_delimiter]
    dsimp only
    rw [hfinish]
    rfl
  | part hc hpart hread =>
    dsimp only
    rw [readFragments_cons hc, hpart]
    dsimp only
    rw [hread]
    rfl

/-- **The reader fails where its steps lead to a failure.** -/
theorem readFragments_error_iff (hfuel : p.rest.length < fuel) :
    readFragments strict text fuel p.draft? p.rest = .error e ↔
      ∃ p', Relation.ReflTransGen (Step strict text) p p' ∧ Fails strict text p' e := by
  constructor
  · intro h
    induction fuel generalizing p with
    | zero => exact absurd hfuel (Nat.not_lt_zero _)
    | succ fuel ih =>
      rcases step_or_fails strict text p with hend | ⟨p₁, hstep⟩ | ⟨e₁, hfails⟩
      · rw [hend] at h
        cases h
      · have hshorter := hstep.length_lt
        obtain ⟨p', hreach, hfails⟩ := ih (by omega) (hstep.readFragments_error.1 h)
        exact ⟨p', hreach.head hstep, hfails⟩
      · rw [hfails.readFragments_eq] at h
        cases h
        exact ⟨p, .refl, hfails⟩
  · rintro ⟨p', hreach, hfails⟩
    -- every step takes a character, so the fuel lasts up to the place that fails
    induction hreach using Relation.ReflTransGen.head_induction_on generalizing fuel with
    | refl =>
      obtain ⟨fuel, rfl⟩ := Nat.exists_eq_succ_of_ne_zero (Nat.ne_zero_of_lt hfuel)
      exact hfails.readFragments_eq
    | head hstep _ ih =>
      have hshorter := hstep.length_lt
      obtain ⟨fuel, rfl⟩ := Nat.exists_eq_succ_of_ne_zero (Nat.ne_zero_of_lt hfuel)
      exact hstep.readFragments_error.2 (ih (by omega))

end Places

/-! ## Failures that are not reported -/

/-- The values of an argument list fail otherwise than by syntax and by values that are undefined: a literal
in it has no value, its evaluation fails, or what it evaluates to has no items. -/
inductive ValuesFail (source : List Char) (patterns : List Regex) : Fault → Prop
  | literal {f : Fault} : Expr.compile true (bracketed source) = .error (.literal f) →
      ValuesFail source patterns f
  | evaluation {e : Expr} {f : Fault} : Expr.compile true (bracketed source) = .ok e →
      Expr.evaluate ⟨patternVariables patterns, true⟩ e = .error f → f.family ≠ .undefinedValue →
      ValuesFail source patterns f
  | items {e : Expr} {v : Value} {f : Fault} : Expr.compile true (bracketed source) = .ok e →
      Expr.evaluate ⟨patternVariables patterns, true⟩ e = .ok v → v.items = .error f →
      ValuesFail source patterns f

/-- A pattern is refused because its count is too large or its flags choose two alphabets. -/
def Refused (e : Error) : Prop :=
  ∃ source p, e = .pattern source p ∧ Regex.compile source = .error p ∧
    (p.cause = .countTooLarge ∨ p.cause = .incompatibleAlphabets)

/-- What fails in arguments behind their parenthesis and is not reported as a malformed rule: a pattern that is
refused while they are gathered, or the values of a list that is not blank. -/
inductive Escapes (text rest : List Char) : Error → Prop
  | pattern {e : Error} : gather text .plain {} rest = .error e → Refused e → Escapes text rest e
  | values {g : Gathered} {after : List Char} {f : Fault} :
      gather text .plain {} rest = .ok (g, after) → Text.trim g.buffer.reverse ≠ [] →
      ValuesFail g.buffer.reverse g.patterns f → Escapes text rest (.fault f)

theorem readPattern_error {shown : String} {source : List Char} {e : Error}
    (h : readPattern text shown source = .error e) :
    (∃ cause, e = .rule cause) ∨ Refused e := by
  unfold readPattern at h
  dsimp only at h
  split at h
  · cases h
  · next p hcompile =>
    split at h
    · next hcause =>
      cases h
      exact .inr ⟨_, p, rfl, hcompile, by simpa using hcause⟩
    · cases h
      exact .inl ⟨_, rfl⟩

/-- Gathering arguments fails with a report, or with a pattern that is refused without one. -/
theorem gather_error {mode : Mode} {g : Gathered} {s : List Char} {e : Error}
    (h : gather text mode g s = .error e) :
    (∃ cause, e = .rule cause) ∨ Refused e := by
  -- only the end of the text and a pattern can fail, and the other characters lead on
  fun_induction gather text mode g s
  case case1 | case8 =>
    cases h
    exact .inl ⟨_, rfl⟩
  case case3 ih =>
    rcases bind_eq_error_iff.1 h with h | ⟨r, -, h⟩
    · exact readPattern_error h
    · exact ih r h
  case case10 => cases h
  case case2 ih | case4 ih | case5 ih | case6 ih | case7 ih | case9 ih | case11 ih | case12 ih | case13 ih |
      case14 ih =>
    exact ih h

section Values
variable {source : List Char} {patterns : List Regex} {e : Error} {f : Fault}

theorem compileArguments_eq (source : List Char) :
    compileArguments (String.ofList source) = match Expr.compile true (bracketed source) with
      | .ok e => .ok e
      | .error (.literal f) => .error (.fault f)
      | .error p => .error (.rule (.badArguments (String.ofList source) p)) := by
  unfold compileArguments
  rw [String.toList_ofList]
  generalize Expr.compile true (bracketed source) = compiled
  cases compiled with
  | error p => cases p <;> rfl
  | ok e => rfl

theorem compileArguments_eq_ok_iff {e : Expr} :
    compileArguments (String.ofList source) = .ok e ↔ Expr.compile true (bracketed source) = .ok e := by
  rw [compileArguments_eq]
  generalize Expr.compile true (bracketed source) = compiled
  cases compiled with
  | error p => cases p <;> exact iff_of_false nofun nofun
  | ok e' => simp

theorem liftFault_eq_ok_iff {α : Type} {r : Except Fault α} {a : α} : liftFault r = .ok a ↔ r = .ok a := by
  cases r <;> simp [liftFault, Except.mapError]

theorem liftFault_eq_error_iff {α : Type} {r : Except Fault α} {e : Error} :
    liftFault r = .error e ↔ ∃ f, e = .fault f ∧ r = .error f := by
  cases r <;> simp [liftFault, Except.mapError, eq_comm]

theorem resolveArguments_blank (hsource : Text.trim source = []) (bindings : List (String × Value)) :
    resolveArguments (String.ofList source) bindings = .ok [] := by
  rw [resolveArguments, resolveArgumentsBy, String.toList_ofList, hsource]
  rfl

theorem resolveArguments_eq (hsource : Text.trim source ≠ []) (bindings : List (String × Value)) :
    resolveArguments (String.ofList source) bindings
      = compileArguments (String.ofList source) >>= fun e =>
        match Expr.evaluate ⟨bindings, true⟩ e with
        | .error f =>
          if f.family == .undefinedValue then throw (.rule (.undefinedArguments (String.ofList source) f))
          else throw (.fault f)
        | .ok v => liftFault v.items >>= fun items =>
          if items.any isUndefined then throw (.rule (.unknownName (String.ofList source)))
          else pure items := by
  rw [resolveArguments, resolveArgumentsBy, String.toList_ofList, if_neg (by simpa using hsource)]
  rfl

/-- A list whose values fail in one of these ways fails with the fault. -/
theorem ValuesFail.resolveArguments_eq (h : ValuesFail source patterns f) (hsource : Text.trim source ≠ []) :
    resolveArguments (String.ofList source) (patternVariables patterns) = .error (.fault f) := by
  rw [Rule.resolveArguments_eq hsource, compileArguments_eq]
  cases h with
  | literal hcompile =>
    rw [hcompile]
    rfl
  | evaluation hcompile heval hfamily =>
    rw [hcompile]
    show (match Expr.evaluate _ _ with | .error f => _ | .ok v => _) = _
    rw [heval]
    exact if_neg (by simpa using hfamily)
  | items hcompile heval hitems =>
    rw [hcompile]
    show (match Expr.evaluate _ _ with | .error f => _ | .ok v => _) = _
    rw [heval]
    dsimp only
    rw [hitems]
    rfl

/-- A list has values if it is blank, or if it is read and evaluates to a whole whose items are defined. -/
theorem resolveArguments_eq_ok_iff {bindings : List (String × Value)} {vs : List Value} :
    resolveArguments (String.ofList source) bindings = .ok vs ↔
      Text.trim source = [] ∧ vs = [] ∨ Text.trim source ≠ [] ∧
        ∃ e v, Expr.compile true (bracketed source) = .ok e ∧ Expr.evaluate ⟨bindings, true⟩ e = .ok v ∧
          v.items = .ok vs ∧ vs.any isUndefined = false := by
  by_cases hsource : Text.trim source = []
  · rw [resolveArguments_blank hsource]
    constructor
    · intro h
      exact .inl ⟨hsource, (Except.ok.inj h).symm⟩
    · rintro (⟨-, rfl⟩ | ⟨hne, -⟩)
      · rfl
      · exact absurd hsource hne
  rw [resolveArguments_eq hsource]
  constructor
  · intro h
    obtain ⟨e, hcompile, h⟩ := bind_eq_ok h
    split at h
    · split at h <;> cases h
    · next v heval =>
      obtain ⟨items, hitems, h⟩ := bind_eq_ok h
      split at h
      · cases h
      · next hany =>
        cases h
        exact .inr ⟨hsource, e, v, compileArguments_eq_ok_iff.1 hcompile, heval, liftFault_eq_ok_iff.1 hitems,
          by simpa using hany⟩
  · rintro (⟨hnone, -⟩ | ⟨-, e, v, hcompile, heval, hitems, hany⟩)
    · exact absurd hnone hsource
    · rw [compileArguments_eq_ok_iff.2 hcompile]
      show (match Expr.evaluate _ _ with | .error f => _ | .ok v => _) = _
      rw [heval]
      dsimp only
      rw [hitems]
      exact if_neg (by simp [hany])

theorem resolveArguments_error
    (h : resolveArguments (String.ofList source) (patternVariables patterns) = .error e) :
    (∃ cause, e = .rule cause) ∨ ∃ f, e = .fault f ∧ Text.trim source ≠ [] ∧ ValuesFail source patterns f := by
  by_cases hsource : Text.trim source = []
  · rw [resolveArguments_blank hsource] at h
    cases h
  rw [resolveArguments_eq hsource] at h
  rcases bind_eq_error_iff.1 h with h | ⟨expr, hexpr, h⟩
  · -- the list is not read: only a literal without a value escapes
    rw [compileArguments_eq] at h
    split at h
    · cases h
    · next f hcompile =>
      cases h
      exact .inr ⟨f, rfl, hsource, .literal hcompile⟩
    · cases h
      exact .inl ⟨_, rfl⟩
  · have hcompile := compileArguments_eq_ok_iff.1 hexpr
    split at h
    · next f heval =>
      split at h
      · cases h
        exact .inl ⟨_, rfl⟩
      · next hfamily =>
        cases h
        exact .inr ⟨f, rfl, hsource, .evaluation hcompile heval (by simpa using hfamily)⟩
    · next v heval =>
      rcases bind_eq_error_iff.1 h with h | ⟨items, -, h⟩
      · obtain ⟨f, rfl, hitems⟩ := liftFault_eq_error_iff.1 h
        exact .inr ⟨f, rfl, hsource, .items hcompile heval hitems⟩
      · split at h
        · cases h
          exact .inl ⟨_, rfl⟩
        · cases h

end Values

/-- Arguments fail in a way that is not reported exactly if `Escapes` says so. -/
theorem readArguments_escapes_iff {rest : List Char} {e : Error} :
    (readArguments text rest = .error e ∧ ∀ cause, e ≠ .rule cause) ↔ Escapes text rest e := by
  constructor
  · rintro ⟨h, hrule⟩
    rcases bind_eq_error_iff.1 h with hgather | ⟨⟨g, after⟩, hgather, h⟩
    · rcases gather_error hgather with ⟨cause, he⟩ | hrefused
      · exact absurd he (hrule cause)
      · exact .pattern hgather hrefused
    · rcases bind_eq_error_iff.1 h with h | ⟨values, -, h⟩
      · rcases resolveArguments_error h with ⟨cause, he⟩ | ⟨f, rfl, hsource, hfails⟩
        · exact absurd he (hrule cause)
        · exact .values hgather hsource hfails
      · cases h
  · intro h
    cases h with
    | pattern hgather hrefused =>
      obtain ⟨source, p, rfl, -, -⟩ := hrefused
      exact ⟨bind_eq_error_iff.2 (.inl hgather), fun cause h => by cases h⟩
    | @values g after f hgather hsource hfails =>
      have hvalues := hfails.resolveArguments_eq hsource
      refine ⟨bind_eq_error_iff.2 (.inr ⟨(g, after), hgather, ?_⟩), fun cause h => by cases h⟩
      exact bind_eq_error_iff.2 (.inl hvalues)

/-- Only arguments fail in a way that is not reported. -/
theorem fails_escapes_iff {p : Place} {e : Error} :
    (Fails strict text p e ∧ ∀ cause, e ≠ .rule cause) ↔ ∃ rest, p.rest = '(' :: rest ∧ Escapes text rest e := by
  constructor
  · rintro ⟨h, hrule⟩
    cases h with
    | finish hfinish =>
      obtain ⟨cause, he⟩ := reported_finish _ e hfinish
      exact absurd he (hrule cause)
    | @part draft? c s part e hc hpart hread =>
      by_cases hargs : part = .arguments
      · subst hargs
        obtain ⟨rest, hrest⟩ := partAt?_eq_arguments hpart
        refine ⟨rest, hrest, readArguments_escapes_iff.1 ⟨?_, hrule⟩⟩
        obtain ⟨rfl, rfl⟩ := List.cons.inj hrest
        rcases bind_eq_error_iff.1 hread with h | ⟨read, -, h⟩
        · exact h
        · cases h
      · obtain ⟨cause, he⟩ := reported_readPart hargs (c :: s) _ e hread
        exact absurd he (hrule cause)
  · rintro ⟨rest, hrest, hescapes⟩
    obtain ⟨hread, hrule⟩ := readArguments_escapes_iff.2 hescapes
    refine ⟨?_, hrule⟩
    obtain ⟨draft?, s⟩ := p
    cases hrest
    have hpart : partAt? ('(' :: rest) = some .arguments := rfl
    exact .part (by decide) hpart (bind_eq_error_iff.2 (.inl hread))

/-- **What leaves the reader of rules.** Reading a rule text fails otherwise than with a report of a malformed
rule exactly if the text is not blank and the reader comes to arguments whose failure escapes, and it fails
with that failure. -/
theorem parse_escapes_iff (strict : Bool) (text? : Option String) (e : Error) :
    (parse strict text? = .error e ∧ ∀ cause, e ≠ .rule cause) ↔
      ∃ text draft? rest, clean text? = .ok text ∧
        Relation.ReflTransGen (Step strict text.toList) ⟨none, text.toList⟩ ⟨draft?, '(' :: rest⟩ ∧
        Escapes text.toList rest e := by
  have hstart : ∀ text : String, (⟨none, text.toList⟩ : Place).rest.length < text.toList.length + 1 :=
    fun text => Nat.lt_succ_self _
  constructor
  · rintro ⟨h, hrule⟩
    rcases bind_eq_error_iff.1 h with hclean | ⟨text, hclean, h⟩
    · obtain ⟨cause, he⟩ := reported_clean text? e hclean
      exact absurd he (hrule cause)
    · obtain ⟨⟨draft?, s⟩, hreach, hfails⟩ :=
        (readFragments_error_iff (hstart text)).1 h
      obtain ⟨rest, hrest, hescapes⟩ := fails_escapes_iff.1 ⟨hfails, hrule⟩
      cases hrest
      exact ⟨text, draft?, rest, hclean, hreach, hescapes⟩
  · rintro ⟨text, draft?, rest, hclean, hreach, hescapes⟩
    have hplace : (⟨draft?, '(' :: rest⟩ : Place).rest = '(' :: rest := rfl
    obtain ⟨hfails, hrule⟩ := fails_escapes_iff.2 ⟨rest, hplace, hescapes⟩
    refine ⟨?_, hrule⟩
    rw [parse_eq_bind, hclean]
    exact (readFragments_error_iff (hstart text)).2 ⟨_, hreach, hfails⟩

/-! ## A pattern that is refused, and a value that cannot be computed -/

/-- The error of a reading, if it failed. -/
def failure? : Except Error α → Option Error
  | .ok _ => none
  | .error e => some e

theorem eq_error_of_failure? {r : Except Error α} {e : Error} (h : failure? r = some e) : r = .error e := by
  cases r with
  | error e' =>
    obtain rfl : e' = e := Option.some.inj h
    rfl
  | ok a => cases h

theorem exists_ok_of_failure? {r : Except Error α} (h : failure? r = none) : ∃ a, r = .ok a := by
  cases r with
  | error e => cases h
  | ok a => exact ⟨a, rfl⟩

theorem parse_escapes : ∃ e e',
    parse false (some "pattern(/a{99999999999999999999}/)") = .error e ∧ (∀ cause, e ≠ .rule cause) ∧
    parse true (some "x(1%0)") = .error e' ∧ ∀ cause, e' ≠ .rule cause := by
  have hpattern : failure? (parse false (some "pattern(/a{99999999999999999999}/)"))
      = some (.pattern "a{99999999999999999999}" ⟨.countTooLarge, none⟩) := by
    decide +kernel
  have hvalue : failure? (parse true (some "x(1%0)")) = some (.fault .moduloByZero) := by
    decide +kernel
  refine ⟨_, _, eq_error_of_failure? hpattern, ?_, eq_error_of_failure? hvalue, ?_⟩
  · intro cause h
    cases h
  · intro cause h
    cases h

end FieldRules.Rule
