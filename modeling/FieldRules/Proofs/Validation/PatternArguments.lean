import FieldRules.Proofs.Rule.RoundTrip
import FieldRules.Proofs.Validation.Standalone
import FieldRules.Proofs.Validation.Values

/-!
# Patterns as literals and as texts

A pattern may be given to a rule as a literal between slashes or as a text. The literal is compiled when the rule is
read, the text when a value is validated. Both come to the same pattern, and a message shows the source of either one.
So every value is accepted or rejected alike, with the same code and the same message
(`Validator.validateValue_pattern`); what differs is the argument that a rejection reports.

The first part is about any fragment whose arguments are exchanged for others that messages show alike.
-/

namespace FieldRules

open Cache

/-! ## Other arguments -/

/-- The fragment with other arguments. -/
def Fragment.withArguments (arguments : List Value) (f : Fragment) : Fragment :=
  { f with arguments }

/-- The rejection with other arguments. -/
def Rejection.withArguments (arguments : List Value) (r : Rejection) : Rejection :=
  { r with arguments }

/-- The result of a field whose rejections have other arguments. -/
def ElementResult.withArguments (arguments : List Value) : ElementResult → ElementResult
  | .own field label value rejections => .own field label value (rejections.map (Rejection.withArguments arguments))
  | .nested field label value tally rejected => .nested field label value tally rejected

/-- The result with other arguments in the rejections of its fields: it has passed or not, and has the codes and the
messages, as before. -/
def Result.withArguments (arguments : List Value) (r : Result) : Result :=
  { r with rejected := r.rejected.map (ElementResult.withArguments arguments) }

namespace Template

variable {arguments arguments' : List Value}

/-- A placeholder shows an argument by what it is rendered as, and an expression does not see the arguments. -/
theorem placeholderText_congr (h : arguments'.map Value.rendered = arguments.map Value.rendered) (inner : List Char)
    (bindings : List (String × Value)) :
    placeholderText inner bindings arguments' = placeholderText inner bindings arguments := by
  unfold placeholderText
  dsimp only
  split
  · rfl
  split
  · refine bind_congr fun place => ?_
    have hplace : arguments'[place.toNat]?.map Value.rendered = arguments[place.toNat]?.map Value.rendered := by
      rw [← List.getElem?_map, ← List.getElem?_map, h]
    cases hv : arguments[place.toNat]? with
    | none =>
      rw [hv] at hplace
      rw [Option.map_eq_none_iff.1 hplace]
    | some v =>
      rw [hv] at hplace
      obtain ⟨w, hw, hrendered⟩ := Option.map_eq_some_iff.1 hplace
      rw [hw]
      exact congrArg liftFault hrendered
  · rfl

theorem fill_congr (h : arguments'.map Value.rendered = arguments.map Value.rendered) (template : String)
    (bindings : List (String × Value)) : fill template bindings arguments' = fill template bindings arguments := by
  have hpiece : pieceText bindings arguments' = pieceText bindings arguments := by
    funext piece
    cases piece with
    | plain c => rfl
    | placeholder inner => exact placeholderText_congr h inner bindings
  unfold fill
  rw [hpiece]

end Template

namespace Validator

variable {V : Validator} {q : Request} {s : Subject} {f : Fragment} {arguments : List Value}

/-- Exchanging arguments that are shown alike changes nothing else of a rejection. -/
theorem rejection_withArguments (h : arguments.map Value.rendered = f.arguments.map Value.rendered) (found : Finding) :
    rejection q s (f.withArguments arguments) found = do return (← rejection q s f found).withArguments arguments := by
  have hmessage : rejectionMessage q (f.withArguments arguments) = rejectionMessage q f := by
    funext bindings keys
    unfold rejectionMessage
    simp only [Fragment.withArguments, Template.fill_congr h]
  unfold rejection
  rw [hmessage, bind_assoc]
  rfl

/-- Outside of an object there is no sibling field to ask about. -/
theorem mirrors_settle_outside {α : Type} (hs : s.object? = none) (check : Check α) :
    Run.Mirrors (Session.Agrees q.locale?) Eq (V.settle q s check) (V.settle q s check) := by
  induction check with
  | done a => exact .pure rfl
  | fail e => exact .throw e
  | warn w next ih => exact (Session.mirrors_warn w).bind_eq fun _ => ih
  | sibling name next ih =>
    have hvalue : V.siblingValue s name = pure .none := by rw [siblingValue, hs]
    rw [settle, hvalue, pure_bind]
    exact ih .none
  | siblingLabel name next ih =>
    have hlabel : V.siblingLabel q s name = pure name := by rw [siblingLabel, hs]
    rw [settle, hlabel, pure_bind]
    exact ih name

/-- A value on its own is held against a fragment with other arguments, on which the handler decides as before and
which messages show as before. -/
theorem mirrors_holdAgainst_withArguments (hs : s.object? = none)
    (hrun : Dispatch.run V.registry V.leniency s.value (f.withArguments arguments) s.context =
      Dispatch.run V.registry V.leniency s.value f s.context)
    (hshown : arguments.map Value.rendered = f.arguments.map Value.rendered) :
    Run.Mirrors (Session.Agrees q.locale?) (fun a b => b = a.map (Rejection.withArguments arguments))
      (V.holdAgainst q s f) (V.holdAgainst q s (f.withArguments arguments)) := by
  unfold holdAgainst
  rw [hrun]
  refine (mirrors_settle_outside hs _).bind_eq fun found => ?_
  -- The decision is the same; if it is a rejection, its text is looked for and filled.
  split
  · exact .pure rfl
  · rw [rejection_withArguments hshown, bind_assoc]
    exact ((Session.mirrors_texts q.locale?).rejection s f found).bind_eq fun r => .pure rfl

/-- A single fragment is selected, or nothing is, by its groups. -/
theorem selectFragments_singleton (f : Fragment) (requested? : Option (List String)) :
    selectFragments [f] requested? = if requested?.all f.inGroups then [f] else [] := by
  cases requested? with
  | none => rfl
  | some requested =>
    show distinctFragments ([f].filter fun f => f.inGroups requested) = if f.inGroups requested then [f] else []
    rw [List.filter_singleton]
    cases f.inGroups requested <;> rfl

theorem rejections_singleton (V : Validator) (q : Request) (s : Subject) (f : Fragment) :
    V.rejections q s [f] = do return (← V.holdAgainst q s f).toList := by
  unfold rejections
  simp only [List.mapM_cons, List.mapM_nil, bind_assoc, pure_bind]
  refine bind_congr fun rejection? => ?_
  cases rejection? <;> rfl

/-- A value on its own is held against a single fragment with other arguments. -/
theorem mirrors_holdField_withArguments {place : String → Subject} (hplace : ∀ label, (place label).object? = none)
    (hrun : ∀ label,
      Dispatch.run V.registry V.leniency (place label).value (f.withArguments arguments) (place label).context =
        Dispatch.run V.registry V.leniency (place label).value f (place label).context)
    (hshown : arguments.map Value.rendered = f.arguments.map Value.rendered) (field text : String) :
    Run.Mirrors (Session.Agrees q.locale?) (fun a b => b = a.withArguments arguments)
      (V.holdField q field text place [f]) (V.holdField q field text place [f.withArguments arguments]) := by
  refine (Run.Mirrors.lift _).bind_eq fun requested? => ?_
  refine ((Session.mirrors_texts q.locale?).resolveText text).bind_eq fun label => ?_
  have hrejections : Run.Mirrors (Session.Agrees q.locale?) (fun a b => b = a.map (Rejection.withArguments arguments))
      (V.rejections q (place label) (selectFragments [f] requested?))
      (V.rejections q (place label) (selectFragments [f.withArguments arguments] requested?)) := by
    rw [selectFragments_singleton, selectFragments_singleton]
    show Run.Mirrors _ _ (V.rejections q (place label) (if requested?.all f.inGroups then [f] else []))
      (V.rejections q (place label) (if requested?.all f.inGroups then [f.withArguments arguments] else []))
    split
    · rw [rejections_singleton, rejections_singleton]
      refine (mirrors_holdAgainst_withArguments (hplace label) (hrun label) hshown).bind fun a b hab => .pure ?_
      rw [hab]
      cases a <;> rfl
    · exact .pure rfl
  refine hrejections.bind fun rejections rejections' hmapped => ?_
  -- There are as many rejections as before, so the counts are the same.
  have hresult : Result.ofVerdicts 1 [.judged (.own field (place label).label (place label).value rejections')] =
      (Result.ofVerdicts 1 [.judged (.own field (place label).label (place label).value rejections)]).withArguments
        arguments := by
    rw [hmapped]
    cases rejections <;> rfl
  rw [hresult]
  exact ((Session.mirrors_texts q.locale?).message? _).bind_eq fun _ => .pure rfl

/-- Two rule texts are read as one fragment each, which differ in their arguments. If these are decided on alike and are
shown alike in messages, a value is validated against both texts alike, in sessions in which the same texts are
found. -/
theorem validateValue_withArguments {rules rules' : String} {v : Value} {label? : Option String} {s₀ S S' : Session}
    (hread : Rule.parse V.sources.strict (some rules) = .ok [f])
    (hread' : Rule.parse V.sources.strict (some rules') = .ok [f.withArguments arguments])
    (hrun : ∀ ctx, Dispatch.run V.registry V.leniency v (f.withArguments arguments) ctx =
      Dispatch.run V.registry V.leniency v f ctx)
    (hshown : arguments.map Value.rendered = f.arguments.map Value.rendered)
    (hS : Session.Sound V.sources.strict q.locale? s₀ S) (hS' : Session.Sound V.sources.strict q.locale? s₀ S') :
    (V.validateValue q (some rules') label? v S').1 =
      (V.validateValue q (some rules) label? v S).1.map (Result.withArguments arguments) := by
  obtain ⟨s₁, hcompiled, hs₁⟩ := hS.compileTemplate rules
  obtain ⟨s₁', hcompiled', hs₁'⟩ := hS'.compileTemplate rules'
  rw [hread] at hcompiled
  rw [hread'] at hcompiled'
  have hagrees : s₁.Agrees q.locale? s₁' := hs₁.agrees.symm.trans hs₁'.agrees
  rw [validateValue_eq_holdField, validateValue_eq_holdField, Run.bind_of_ok hcompiled, Run.bind_of_ok hcompiled']
  exact (mirrors_holdField_withArguments (fun _ => rfl) (fun _ => hrun _) hshown valueField _).fst_eq hagrees

end Validator

/-! ## Patterns -/

/-- A rule that asks for a pattern, which is written as a literal. -/
def patternLiteralRule (source : String) : String :=
  "pattern(/" ++ String.ofList (source.toList.flatMap Rule.Literal.escapeSlash) ++ "/)"

/-- A rule that asks for a pattern, which is written as a text. -/
def patternTextRule (source : String) : String :=
  "pattern('" ++ String.ofList (source.toList.flatMap Rule.Literal.escapeChar) ++ "')"

section Patterns
variable {source : String} {r : Regex}

theorem patternLiteralRule_eq (source : String) :
    patternLiteralRule source = Rule.print [{ name := "pattern", arguments := [.pattern source] }] := by
  rw [← String.toList_inj]
  simp [patternLiteralRule, Rule.print, Rule.Descriptor.print, Rule.Descriptor.printArguments,
    Rule.Descriptor.printGroups, Rule.Descriptor.printMessage, Rule.Literal.print]

theorem patternTextRule_eq (source : String) :
    patternTextRule source = Rule.print [{ name := "pattern", arguments := [.text source] }] := by
  rw [← String.toList_inj]
  simp [patternTextRule, Rule.print, Rule.Descriptor.print, Rule.Descriptor.printArguments,
    Rule.Descriptor.printGroups, Rule.Descriptor.printMessage, Rule.Literal.print]

/-- A fragment that asks for a pattern and has a single argument. -/
def patternFragment (argument : Value) : Fragment :=
  { name := "pattern", arguments := [argument] }

/-- A rule with a single literal is read as a fragment with the value of the literal. -/
theorem parse_pattern {l : Rule.Literal} (hl : l.Printable) (strict : Bool) :
    Rule.parse strict (some (Rule.print [{ name := "pattern", arguments := [l] }])) =
      .ok [patternFragment l.value] := by
  have hnamed : "pattern" ≠ "" := by decide
  have hname : ∀ c ∈ "pattern".toList, Rule.isNameChar c = true := List.all_eq_true.1 (by decide)
  have hprintable : ∀ d ∈ [({ name := "pattern", arguments := [l] } : Rule.Descriptor)], d.Printable := by
    rw [List.forall_mem_singleton]
    exact ⟨hnamed, hname, List.forall_mem_singleton.2 hl, List.forall_mem_nil _, nofun⟩
  have hgroups : sortNames [] = [] := by
    rw [sortNames, List.mergeSort_nil]
    rfl
  rw [Rule.parse_print_eq (List.cons_ne_nil _ _) hprintable]
  show Except.ok [({ name := "pattern", groups := sortNames [], arguments := [l.value] } : Fragment)] = _
  rw [hgroups]
  rfl

theorem check_patternFragment (hr : Regex.compile source = .ok r) (v : Value) (ctx : Context) :
    Handler.pattern.check v (patternFragment (.string source)) ctx =
      Handler.pattern.check v (patternFragment (.pattern r)) ctx := by
  have htext : Handler.patternOf (.string source) = .ok r := by
    show (Regex.compile source).mapError _ = .ok r
    rw [hr]
    rfl
  unfold Handler.pattern
  dsimp only
  rw [Handler.argument_zero, Handler.argument_zero]
  show (liftM (Handler.patternOf (.string source)) >>= fun r => Handler.acceptIf (r.matches (Handler.charsOf v)) ctx
    (patternFragment (.string source)) none : Check Finding) = _
  rw [htext]
  rfl

theorem decideBy_patternFragment (hr : Regex.compile source = .ok r) (v : Value) (ctx : Context) :
    Dispatch.decideBy Handler.pattern v (patternFragment (.string source)) ctx =
      Dispatch.decideBy Handler.pattern v (patternFragment (.pattern r)) ctx := by
  unfold Dispatch.decideBy
  -- without a value the handler is not asked
  cases v
  case none => rfl
  all_goals
    dsimp only
    rw [check_patternFragment hr]
    rfl

/-- The handler of patterns decides on a text as on the pattern that the text is compiled to. -/
theorem run_patternFragment {registry : Registry} (hregistry : registry.find? "pattern" = some Handler.pattern)
    (hr : Regex.compile source = .ok r) (leniency : Leniency) (v : Value) (ctx : Context) :
    Dispatch.run registry leniency v (patternFragment (.string source)) ctx =
      Dispatch.run registry leniency v (patternFragment (.pattern r)) ctx := by
  have harity : Handler.pattern.arity.violation? "pattern" 1 = none := rfl
  unfold Dispatch.run
  simp only [patternFragment, hregistry, List.length_singleton, harity]
  split
  · rfl
  · exact decideBy_patternFragment hr v ctx

end Patterns

namespace Validator

variable {V : Validator} {q : Request} {v : Value} {label? : Option String} {source : String} {r : Regex}
  {s₀ S S' : Session}

/-- **Patterns as literals and as texts.** The source of a pattern does not end in a backslash. It is written as a
literal, with a backslash in front of each slash, or as a text. Under the handler of patterns every value is validated
against both rules alike, whatever the label and the request, in sessions in which the same texts are found: the outcome
is the same error, or the same result but for the argument that a rejection reports. -/
theorem validateValue_pattern (hregistry : V.registry.find? "pattern" = some Handler.pattern)
    (hr : Regex.compile source = .ok r) (hlast : source.toList.getLast? ≠ some '\\')
    (hS : Session.Sound V.sources.strict q.locale? s₀ S) (hS' : Session.Sound V.sources.strict q.locale? s₀ S') :
    (V.validateValue q (some (patternTextRule source)) label? v S').1 =
      (V.validateValue q (some (patternLiteralRule source)) label? v S).1.map
        (Result.withArguments [.string source]) := by
  have hprintable : (Rule.Literal.pattern source).Printable := ⟨⟨r, hr⟩, hlast⟩
  obtain ⟨r', hr', hsource, hvalue⟩ := Rule.Literal.denotes_value hprintable
  cases hr.symm.trans hr'
  have hread := parse_pattern hprintable V.sources.strict
  have hread' := parse_pattern (l := .text source) trivial V.sources.strict
  rw [hvalue, ← patternLiteralRule_eq] at hread
  rw [← patternTextRule_eq] at hread'
  have hshown : [Value.string source].map Value.rendered = [Value.pattern r].map Value.rendered := by
    show [pure source] = [pure r.source]
    rw [hsource]
  exact validateValue_withArguments hread hread' (fun ctx => run_patternFragment hregistry hr _ v ctx) hshown hS hS'

/-- A text with a colon is no fraction, whichever way the pattern is written. -/
theorem validateValue_pattern_fraction :
    patternLiteralRule "\\d+/\\d+" = "pattern(/\\d+\\/\\d+/)" ∧
    patternTextRule "\\d+/\\d+" = "pattern('\\\\d+/\\\\d+')" ∧
    (lenientValidator.validateValue {} (some (patternLiteralRule "\\d+/\\d+")) none (.string "1:2") {}).1.toOption.map
      (fun result => result.rejections.map fun r => (r.errorCode, r.message)) =
        some [("pattern", "target does not match the pattern \\d+/\\d+")] ∧
    (lenientValidator.validateValue {} (some (patternTextRule "\\d+/\\d+")) none (.string "1:2") {}).1 =
      (lenientValidator.validateValue {} (some (patternLiteralRule "\\d+/\\d+")) none (.string "1:2") {}).1.map
        (Result.withArguments [.string "\\d+/\\d+"]) := by
  have hcompiles : (Regex.compile "\\d+/\\d+").toOption.isSome = true := by decide +kernel
  obtain ⟨r, hr⟩ := Option.isSome_iff_exists.1 hcompiles
  have hsound : Session.Sound false none {} {} := (Session.Later.refl lenientValidator none (.empty _)).sound
  refine ⟨by decide, by decide, by decide +kernel, ?_⟩
  exact validateValue_pattern rfl (Run.eq_ok_of_toOption hr) (by decide) hsound hsound

end Validator

end FieldRules
