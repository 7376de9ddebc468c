import FieldRules.Proofs.Validation.Gates

/-!
# Counts of a validation

The result of a validation is a tree: it lists the rejected fields of an object, and a rejected field that is
nested has the result of its value. Whatever is validated, in either mode, and on every level of the tree

* the counts of a result agree with the fields that it lists (`Result.Counted`);
* a rejected field has a reason: the fragments that rejected it, or a result that did not pass
  (`ElementResult.HasReason`), so that some fragment is found below it (`ElementResult.RejectedFor`).

`validate_counted` puts this together for objects, values and parameters. A step of the proof looks at the
verdicts on the fields of one object (`Looked`); the induction is on the depth of the validation.
-/

namespace FieldRules

open Cache

/-! ## The specification -/

/-- A result lies within another one: it is that one, or it lies within the result of a rejected field. -/
inductive Result.Within : Result → Result → Prop
  | self (r : Result) : Within r r
  | field {below inner r : Result} {e : ElementResult} :
      e ∈ r.rejected → e.nested? = some inner → Within below inner → Within below r

/-- The counts of a result agree with each other and with the rejected fields. A validation that may stop at
the first rejected field rejects one at most. -/
structure Result.Counted (stops : Bool) (r : Result) : Prop where
  errors : r.tally.errorCount = r.rejected.length
  passed : r.tally.passed = true ↔ r.tally.errorCount = 0
  most : r.tally.passedCount + r.tally.errorCount + r.tally.ignoredCount ≤ r.tally.total
  complete : stops = false ∨ r.tally.passed = true →
    r.tally.passedCount + r.tally.errorCount + r.tally.ignoredCount = r.tally.total
  first : stops = true → r.tally.errorCount ≤ 1

namespace ElementResult

/-- A field is nested and the result of its value did not pass, or there are fragments that rejected it. -/
def HasReason (e : ElementResult) : Prop :=
  (∃ inner, e.nested? = some inner ∧ inner.tally.passed = false) ∨
    (e.nested? = none ∧ e.rejections ≠ [])

/-- A field was rejected for a fragment: one of its own, or one that a field of its value was rejected
for. -/
inductive RejectedFor : ElementResult → Rejection → Prop
  | own {e : ElementResult} {r : Rejection} : r ∈ e.rejections → RejectedFor e r
  | inner {e below : ElementResult} {inner : Result} {r : Rejection} :
      e.nested? = some inner → below ∈ inner.rejected → RejectedFor below r → RejectedFor e r

/-! ## Rejected fields -/

/-- A rejected field with its reason, and results below it that are counted on every level. -/
inductive Sound (stops : Bool) : ElementResult → Prop
  | own {field label : String} {value : Value} {rejections : List Rejection} :
      rejections ≠ [] → Sound stops (.own field label value rejections)
  | nested {field label : String} {value : Value} {tally : Tally} {rejected : List ElementResult} :
      tally.passed = false → Result.Counted stops ⟨tally, rejected⟩ →
      (∀ e ∈ rejected, Sound stops e) → Sound stops (.nested field label value tally rejected)

variable {stops : Bool} {e : ElementResult}

theorem Sound.hasReason (h : e.Sound stops) : e.HasReason := by
  cases h with
  | own hne => exact .inr ⟨rfl, hne⟩
  | nested hpassed _ _ => exact .inl ⟨_, rfl, hpassed⟩

/-- Below a rejected field there is a fragment that it was rejected for. -/
theorem Sound.exists_rejectedFor (h : e.Sound stops) : ∃ r, e.RejectedFor r := by
  induction h with
  | own hne =>
    obtain ⟨r, hr⟩ := List.exists_mem_of_ne_nil _ hne
    exact ⟨r, .own hr⟩
  | @nested field label value tally rejected hpassed hcounted _ ih =>
    -- the result did not pass, so it has an error, and the error is in the list
    have hcount : tally.errorCount ≠ 0 := by
      intro hzero
      have hpass := hcounted.passed.2 hzero
      rw [hpassed] at hpass
      cases hpass
    have hne : rejected ≠ [] := by
      rintro rfl
      exact hcount hcounted.errors
    obtain ⟨below, hbelow⟩ := List.exists_mem_of_ne_nil _ hne
    obtain ⟨r, hr⟩ := ih below hbelow
    exact ⟨r, .inner rfl hbelow hr⟩

end ElementResult

namespace Result

/-- A result that is counted, with rejected fields that are sound. -/
structure Sound (stops : Bool) (r : Result) : Prop where
  counted : r.Counted stops
  fields : ∀ e ∈ r.rejected, e.Sound stops

variable {stops : Bool} {r below : Result}

/-- What is within a sound result is sound. -/
theorem Sound.of_within (h : r.Sound stops) (hbelow : Within below r) : below.Sound stops := by
  induction hbelow with
  | self => exact h
  | field he hinner _ ih =>
    have hfield := h.fields _ he
    cases hfield with
    | own => cases hinner
    | nested _ hcounted hfields =>
      cases hinner
      exact ih ⟨hcounted, hfields⟩

/-- An empty result is sound. -/
theorem Sound.empty (stops : Bool) (message? : Option String) : (Result.empty message?).Sound stops where
  counted := ⟨rfl, ⟨fun _ => rfl, fun _ => rfl⟩, Nat.le_refl 0, fun _ => rfl, fun _ => Nat.zero_le 1⟩
  fields _ he := nomatch he

/-- A message changes none of the counts. -/
theorem Sound.withMessage (h : r.Sound stops) (message? : Option String) :
    (r.withMessage message?).Sound stops where
  counted := ⟨h.counted.errors, h.counted.passed, h.counted.most, h.counted.complete, h.counted.first⟩
  fields := h.fields

end Result

/-! ## Verdicts on the fields of an object -/

/-- The rejected fields among verdicts. -/
def rejectedOf (verdicts : List Verdict) : List ElementResult :=
  (verdicts.filterMap Verdict.result?).filter fun e => !e.passed

theorem rejectedOf_cons_of_not {v : Verdict} (hv : v.isRejected = false) (vs : List Verdict) :
    rejectedOf (v :: vs) = rejectedOf vs := by
  cases v with
  | ignored => rfl
  | judged e =>
    have hskip : (!e.passed) = false := hv
    show List.filter _ (e :: vs.filterMap Verdict.result?) = _
    rw [List.filter_cons, hskip]
    rfl

theorem rejectedOf_cons {e : ElementResult} (he : e.passed = false) (vs : List Verdict) :
    rejectedOf (.judged e :: vs) = e :: rejectedOf vs := by
  show List.filter _ (e :: vs.filterMap Verdict.result?) = _
  rw [List.filter_cons, he]
  rfl

theorem rejected_ofVerdicts (total : Nat) (verdicts : List Verdict) :
    (Result.ofVerdicts total verdicts).rejected = rejectedOf verdicts := by
  rw [Result.ofVerdicts, Validator.foldl_count]
  rfl

theorem passed_ofVerdicts (total : Nat) (verdicts : List Verdict) :
    (Result.ofVerdicts total verdicts).tally.passed = !verdicts.any Verdict.isRejected := by
  rw [Result.ofVerdicts, Validator.foldl_count]
  induction verdicts with
  | nil => rfl
  | cons v verdicts ih =>
    cases v with
    | ignored => exact ih
    | judged e =>
      simp only [Bool.true_and] at ih
      simp [Verdict.result?, Verdict.isRejected, ih, Bool.not_or]

/-- If the field was rejected, its result is sound. -/
def Verdict.Sound (stops : Bool) (v : Verdict) : Prop :=
  ∀ r, v.result? = some r → r.passed = false → r.Sound stops

/-- Verdicts on some of so many fields, and on all of them unless there was a reason to stop. -/
structure Looked (stops : Bool) (count : Nat) (verdicts : List Verdict) : Prop where
  sound : ∀ v ∈ verdicts, v.Sound stops
  most : verdicts.length ≤ count
  complete : stops = false ∨ (∀ v ∈ verdicts, v.isRejected = false) → verdicts.length = count
  first : stops = true → verdicts.countP Verdict.isRejected ≤ 1

theorem Looked.nil (stops : Bool) : Looked stops 0 [] where
  sound _ hv := nomatch hv
  most := Nat.le_refl 0
  complete _ := rfl
  first _ := Nat.zero_le 1

section Looked
variable {stops : Bool} {m n : Nat} {v : Verdict} {first second : List Verdict}

theorem Looked.single (hv : v.Sound stops) : Looked stops 1 [v] where
  sound w hw := by
    rw [List.mem_singleton.1 hw]
    exact hv
  most := Nat.le_refl 1
  complete _ := rfl
  first _ := List.countP_le_length

/-- The look ends at a rejected field. -/
theorem Looked.stop (hv : v.Sound true) (hrejected : v.isRejected = true) :
    Looked true (n + 1) [v] where
  sound := (Looked.single hv).sound
  most := by simp
  complete h := by
    rcases h with h | h
    · cases h
    · have hpassed := h v (List.mem_singleton_self v)
      rw [hrejected] at hpassed
      cases hpassed
  first _ := List.countP_le_length

/-- Nothing is left out between two looks, unless the first one had a reason to stop. -/
theorem Looked.append (hfirst : Looked stops m first) (hsecond : Looked stops n second)
    (hgoes : stops = true → ∀ v ∈ first, v.isRejected = false) :
    Looked stops (m + n) (first ++ second) where
  sound v hv := by
    rcases List.mem_append.1 hv with hv | hv
    · exact hfirst.sound v hv
    · exact hsecond.sound v hv
  most := by
    have hm := hfirst.most
    have hn := hsecond.most
    rw [List.length_append]
    omega
  complete h := by
    have hm : first.length = m := by
      refine hfirst.complete (h.imp_right fun hall v hv => ?_)
      exact hall v (List.mem_append_left second hv)
    have hn : second.length = n := by
      refine hsecond.complete (h.imp_right fun hall v hv => ?_)
      exact hall v (List.mem_append_right first hv)
    rw [List.length_append, hm, hn]
  first hstops := by
    have hnone : first.countP Verdict.isRejected = 0 := by
      rw [List.countP_eq_zero]
      intro v hv
      rw [hgoes hstops v hv]
      exact Bool.false_ne_true
    rw [List.countP_append, hnone, Nat.zero_add]
    exact hsecond.first hstops

/-- The look goes on behind a field that was not rejected, or if it does not stop for one. -/
theorem Looked.cons (hv : v.Sound stops) (hgoes : stops = true → v.isRejected = false)
    (hrest : Looked stops n second) : Looked stops (n + 1) (v :: second) := by
  have hboth := (Looked.single hv).append hrest fun hstops w hw => by
    rw [List.mem_singleton.1 hw]
    exact hgoes hstops
  rw [Nat.add_comm]
  exact hboth

/-- The first look had a reason to stop, and there is no second one. -/
theorem Looked.of_first (hfirst : Looked true m first) (hrejected : first.any Verdict.isRejected = true) :
    Looked true (m + n) first where
  sound := hfirst.sound
  most := Nat.le_add_right_of_le hfirst.most
  complete h := by
    rcases h with h | h
    · cases h
    · obtain ⟨v, hv, hr⟩ := List.any_eq_true.1 hrejected
      rw [h v hv] at hr
      cases hr
  first := hfirst.first

/-- Every verdict is a field that passed, one that was rejected, or one that was ignored. -/
theorem length_eq_counts (verdicts : List Verdict) :
    verdicts.length = (verdicts.filterMap Verdict.result?).countP ElementResult.passed
      + (verdicts.filterMap Verdict.result?).countP (fun e => !e.passed)
      + verdicts.countP fun v => v.result?.isNone := by
  induction verdicts with
  | nil => rfl
  | cons v verdicts ih =>
    cases v with
    | ignored =>
      have hskip : (Verdict.ignored :: verdicts).filterMap Verdict.result?
          = verdicts.filterMap Verdict.result? := rfl
      simp [hskip, ih, Verdict.result?, Nat.add_assoc]
    | judged e =>
      have hcons : (Verdict.judged e :: verdicts).filterMap Verdict.result?
          = e :: verdicts.filterMap Verdict.result? := rfl
      cases hpassed : e.passed <;> simp [hcons, hpassed, ih, Verdict.result?] <;> omega

/-- The fields that were rejected are the verdicts that reject. -/
theorem countP_isRejected (verdicts : List Verdict) :
    (verdicts.filterMap Verdict.result?).countP (fun e => !e.passed)
      = verdicts.countP Verdict.isRejected := by
  rw [List.countP_filterMap]
  refine List.countP_congr fun v _ => ?_
  cases v with
  | ignored => exact Iff.rfl
  | judged e => exact Iff.rfl

/-- The result for verdicts on the fields of an object is sound. -/
theorem Looked.sound_ofVerdicts {total : Nat} {verdicts : List Verdict}
    (h : Looked stops total verdicts) : (Result.ofVerdicts total verdicts).Sound stops := by
  have hlength := length_eq_counts verdicts
  have herrors := countP_isRejected verdicts
  have hmost := h.most
  -- nothing was rejected exactly if there is no error to count
  have hpassed : (verdicts.filterMap Verdict.result?).all ElementResult.passed = true ↔
      (verdicts.filterMap Verdict.result?).countP (fun e => !e.passed) = 0 := by
    rw [List.all_eq_true, List.countP_eq_zero]
    simp
  rw [Result.ofVerdicts, Validator.foldl_count]
  constructor
  · constructor
    · simp [List.countP_eq_length_filter]
    · simpa using hpassed
    · simp only [Nat.zero_add]
      omega
    · intro hwhen
      have hall : verdicts.length = total := by
        refine h.complete (hwhen.imp_right fun hall v hv => ?_)
        simp only [Bool.true_and] at hall
        rw [hpassed, herrors, List.countP_eq_zero] at hall
        exact Bool.eq_false_iff.2 (hall v hv)
      simp only [Nat.zero_add]
      omega
    · intro hstops
      have hone := h.first hstops
      simp only [Nat.zero_add]
      omega
  · intro e he
    rw [List.nil_append, List.mem_filter, List.mem_filterMap] at he
    obtain ⟨⟨v, hv, hresult⟩, hrejected⟩ := he
    exact h.sound v hv e hresult (by simpa using hrejected)

end Looked

/-! ## Validations -/

namespace Validator

variable {V : Validator} {q : Request} {stops : Bool} {inner : Value → Session.Run Result}

/-- If a field is rejected, fragments reject it or the result of its value did not pass. -/
theorem gives_judgeSubject (hinner : ∀ v, Run.Gives (Result.Sound stops) (inner v)) (field : String)
    (nested : Bool) (s : Subject) (fragments : List Fragment) :
    Run.Gives (fun e => e.passed = false → e.Sound stops)
      (V.judgeSubject inner q field nested s fragments) := by
  refine Run.Gives.last fun rejections => ?_
  split
  · refine (hinner s.value).bind fun r hr => Run.Gives.pure fun hpassed => ?_
    exact .nested hpassed hr.counted hr.fields
  · refine Run.Gives.pure fun hpassed => .own ?_
    rintro rfl
    cases hpassed

theorem gives_judge (hinner : ∀ v, Run.Gives (Result.Sound stops) (inner v))
    (requested : Option (List String)) (object : Value) (e : Element) :
    Run.Gives (fun r => r.passed = false → r.Sound stops) (V.judge inner q requested object e) :=
  Run.Gives.last fun _ => gives_judgeSubject hinner _ _ _ _

theorem gives_lookThrough {look : Element → Session.Run Verdict}
    (hlook : ∀ e, Run.Gives (Verdict.Sound stops) (look e)) (elements : List Element) :
    Run.Gives (Looked stops elements.length) (lookThrough stops look elements) := by
  induction elements with
  | nil => exact Run.Gives.pure (Looked.nil stops)
  | cons e rest ih =>
    refine (hlook e).bind fun v hv => ?_
    split
    · next hstop =>
      obtain ⟨rfl, hrejected⟩ := Bool.and_eq_true_iff.1 hstop
      exact Run.Gives.pure (Looked.stop hv hrejected)
    · next hgoes =>
      refine ih.bind fun vs hvs => Run.Gives.pure (Looked.cons hv (fun hstops => ?_) hvs)
      rw [hstops, Bool.true_and] at hgoes
      exact Bool.eq_false_iff.2 hgoes

/-- The fields of an object are looked at in two passes, which together are a look at its plan. -/
theorem gives_verdicts {judge : Element → Session.Run ElementResult}
    (hjudge : ∀ e, Run.Gives (fun r => r.passed = false → r.Sound stops) (judge e)) (object : Value)
    (plan : Plan) : Run.Gives (Looked stops plan.length) (verdicts stops judge object plan) := by
  have hfree : ∀ e, Run.Gives (Verdict.Sound stops) (do return .judged (← judge e)) := by
    refine fun e => (hjudge e).bind fun r hr => Run.Gives.pure fun r' hr' => ?_
    cases hr'
    exact hr
  have hgated : ∀ outcomes e, Run.Gives (Verdict.Sound stops) (judgeGated judge object outcomes e) := by
    refine fun outcomes e => Run.Gives.last fun _ => ?_
    split
    · exact hfree e
    · exact Run.Gives.pure fun r hr => nomatch hr
  have hplan : plan.length = (plan.filter Element.isUnconditional).length
      + (plan.filter fun e => !e.isUnconditional).length :=
    List.length_eq_length_filter_add Element.isUnconditional
  unfold verdicts
  rw [List.partition_eq_filter_filter, hplan]
  refine (gives_lookThrough hfree _).bind fun first hfirst => ?_
  split
  · next hstop =>
    obtain ⟨rfl, hrejected⟩ := Bool.and_eq_true_iff.1 hstop
    exact Run.Gives.pure (hfirst.of_first hrejected)
  · next hgoes =>
    refine (gives_lookThrough (hgated _) _).bind fun second hsecond => Run.Gives.pure ?_
    refine hfirst.append hsecond fun hstops v hv => ?_
    rw [hstops, Bool.true_and] at hgoes
    exact Bool.eq_false_iff.2 (List.any_eq_false.1 (Bool.eq_false_iff.2 hgoes) v hv)

theorem gives_finish {r : Result} (h : r.Sound stops) : Run.Gives (Result.Sound stops) (finish q r) :=
  Run.Gives.last fun message? => Run.Gives.pure (h.withMessage message?)

theorem gives_validateWithin (V : Validator) (q : Request) (depth : Nat) (object : Value) :
    Run.Gives (Result.Sound V.stopsAtFirst) (V.validateWithin q depth object) := by
  have hempty : ∀ key, Run.Gives (Result.Sound V.stopsAtFirst)
      (do return .empty (← Session.message? key q.locale?)) :=
    fun _ => Run.Gives.last fun message? => Run.Gives.pure (Result.Sound.empty _ message?)
  -- the results of the values of fields come from one level down
  induction depth generalizing object with
  | zero =>
    by_cases hnone : object = .none
    · rw [hnone, validateWithin_none]
      exact hempty _
    · rw [validateWithin_zero hnone]
      exact fun s r s' h => nomatch h
  | succ depth ih =>
    by_cases hnone : object = .none
    · rw [hnone, validateWithin_none]
      exact hempty _
    · rw [validateWithin_succ hnone]
      refine Run.Gives.last fun plan => ?_
      split
      · exact hempty _
      · refine Run.Gives.last fun requested => ?_
        refine (gives_verdicts (gives_judge ih requested object) object plan).bind fun found hfound => ?_
        exact gives_finish hfound.sound_ofVerdicts

theorem gives_validateAlone (V : Validator) (q : Request) (field label : String) (nested : Bool)
    (fragments : List Fragment) (v : Value) :
    Run.Gives (Result.Sound V.stopsAtFirst) (V.validateAlone q field label nested fragments v) := by
  refine Run.Gives.last fun requested => Run.Gives.last fun label => ?_
  refine (gives_judgeSubject (gives_validateWithin V q _) _ _ _ _).bind fun e he => ?_
  refine gives_finish (Looked.single fun r hr => ?_).sound_ofVerdicts
  cases hr
  exact he

/-- A result of a validation: that of an object, of a value for a rule text, or of a parameter. -/
inductive Validates (V : Validator) (q : Request) (s s' : Session) : Result → Prop
  | object {v : Value} {r : Result} : V.validate q v s = (.ok r, s') → Validates V q s s' r
  | value {rules? label? : Option String} {v : Value} {r : Result} :
      V.validateValue q rules? label? v s = (.ok r, s') → Validates V q s s' r
  | parameter {f : FunctionDeclaration} {name : String} {v : Value} {r : Result} :
      V.validateParameter q f name v s = (.ok r, s') → Validates V q s s' r

/-- **The tree of results.** In either mode, whatever is validated, the result and every result within it
are counted, and every rejected field in them has a reason and a fragment below it that it was rejected
for. -/
theorem validate_counted {V : Validator} {q : Request} {s s' : Session} {r : Result}
    (h : V.Validates q s s' r) :
    ∀ below, Result.Within below r →
      below.Counted V.stopsAtFirst ∧
        ∀ e ∈ below.rejected, e.HasReason ∧ ∃ rejection, e.RejectedFor rejection := by
  have hsound : r.Sound V.stopsAtFirst := by
    cases h with
    | object hrun => exact gives_validateWithin V q _ _ s r s' hrun
    | value hrun =>
      exact Run.Gives.last (fun fragments => gives_validateAlone V q _ _ _ fragments _) s r s' hrun
    | parameter hrun =>
      refine Run.Gives.last (fun m => ?_) s r s' hrun
      exact Run.Gives.last fun fragments => gives_validateAlone V q _ _ _ fragments _
  intro below hbelow
  have hinner := hsound.of_within hbelow
  refine ⟨hinner.counted, fun e he => ?_⟩
  have hfield := hinner.fields e he
  exact ⟨hfield.hasReason, hfield.exists_rejectedFor⟩

/-! ## An order without a price -/

/-- An item has a price and a name. -/
def item : ClassDeclaration where
  declared := ⟨⟨"models", "Item"⟩, []⟩
  annotations :=
    [("price", .annotated (.classRef .string) [.constraint { name := "required" }]),
     ("name", .annotated (.classRef .string) [.constraint { name := "required" }])]

/-- An order has an item, which is validated as an object, and a note. -/
def order : ClassDeclaration where
  declared := ⟨⟨"models", "Order"⟩, []⟩
  annotations :=
    [("item", .annotated (.classRef item.declared) [.nested]),
     ("note", .annotated (.classRef .string) [.constraint { name := "required" }])]

/-- A validator that knows orders, and ends at the first rejected field. -/
def orderValidator : Validator where
  sources := { declarations := { classes := [order, item] } }
  stopsAtFirst := true

/-- An order for an item without a price. -/
def unpricedOrder : Value := .obj order.declared [] [("item", .obj item.declared [] [])]

theorem validate_counted_unpricedOrder : ∃ r s',
    orderValidator.validate {} unpricedOrder {} = (.ok r, s') ∧
    r.rejected.map ElementResult.field = ["item"] ∧
    ∀ below, Result.Within below r →
      below.Counted true ∧
        ∀ e ∈ below.rejected, e.HasReason ∧ ∃ rejection, e.RejectedFor rejection := by
  have hfields : (orderValidator.validate {} unpricedOrder {}).1.toOption.map
      (fun r => r.rejected.map ElementResult.field) = some ["item"] := by
    decide +kernel
  obtain ⟨r, hr, hfields⟩ := Option.map_eq_some_iff.1 hfields
  rcases hrun : orderValidator.validate {} unpricedOrder {} with ⟨e | found, s'⟩
  · rw [hrun] at hr
    cases hr
  · rw [hrun] at hr
    cases hr
    exact ⟨r, s', rfl, hfields, validate_counted (.object hrun)⟩

end Validator

end FieldRules
