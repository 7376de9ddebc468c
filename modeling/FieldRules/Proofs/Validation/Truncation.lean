import FieldRules.Proofs.Validation.Agreement
import FieldRules.Proofs.Validation.Counts

/-!
# Validations that stop

A validation may stop at the first rejected field. Its result is then the beginning of the result that it
has otherwise: everything, if nothing was rejected, and the first rejected field alone, if something was, and
that field's own result is cut short in the same way (`validate_truncates`).

The two validations run side by side on the same session as long as nothing is rejected. At the first rejected
field the one that stops goes to its end, while the other one looks at further fields, for which it looks up
further texts. That does not change what is found for the locale (`Library.Agrees`), so the message about the
whole is the same.
-/

namespace FieldRules

open Cache

/-! ## The specification -/

mutual

/-- A result is the beginning of another one, up to its first rejected field. -/
inductive Result.Truncates : Result → Result → Prop
  | whole {r : Result} : r.tally.passed = true → Result.Truncates r r
  | first {r' r : Result} {e' e : ElementResult} {rest : List ElementResult} :
      r'.tally.passed = false → r.tally.passed = false → r'.tally.message? = r.tally.message? →
      r'.rejected = [e'] → r.rejected = e :: rest → ElementResult.Truncates e' e → Result.Truncates r' r

/-- The result of a field is that of the same field with the same fragments, or with the beginning of the
result of its value. -/
inductive ElementResult.Truncates : ElementResult → ElementResult → Prop
  | own {field label : String} {value : Value} {rejections : List Rejection} :
      ElementResult.Truncates (.own field label value rejections) (.own field label value rejections)
  | nested {field label : String} {value : Value} {t' t : Tally} {es' es : List ElementResult} :
      Result.Truncates ⟨t', es'⟩ ⟨t, es⟩ →
      ElementResult.Truncates (.nested field label value t' es') (.nested field label value t es)

end

theorem Result.Truncates.passed_eq {r' r : Result} (h : r'.Truncates r) :
    r'.tally.passed = r.tally.passed := by
  cases h with
  | whole => rfl
  | first hr' hr => exact hr'.trans hr.symm

theorem Result.Truncates.message_eq {r' r : Result} (h : r'.Truncates r) :
    r'.tally.message? = r.tally.message? := by
  cases h with
  | whole => rfl
  | first _ _ hmessage => exact hmessage

theorem Result.Truncates.eq_of_passed {r' r : Result} (h : r'.Truncates r) (hr : r.tally.passed = true) :
    r' = r := by
  cases h with
  | whole => rfl
  | first _ hfailed =>
    rw [hfailed] at hr
    cases hr

theorem Result.Truncates.of_failed {r' r : Result} (h : r'.Truncates r) (hr : r.tally.passed = false) :
    ∃ e' e rest, r'.rejected = [e'] ∧ r.rejected = e :: rest ∧ e'.Truncates e := by
  cases h with
  | whole hpassed =>
    rw [hpassed] at hr
    cases hr
  | first _ _ _ hone hrest he => exact ⟨_, _, _, hone, hrest, he⟩

theorem ElementResult.Truncates.passed_eq {e' e : ElementResult} (h : e'.Truncates e) :
    e'.passed = e.passed := by
  cases h with
  | own => rfl
  | nested hr => exact hr.passed_eq

theorem ElementResult.Truncates.eq_of_passed {e' e : ElementResult} (h : e'.Truncates e)
    (he : e.passed = true) : e' = e := by
  cases h with
  | own => rfl
  | nested hr =>
    cases hr.eq_of_passed he
    rfl

/-! ## Verdicts -/

/-- The same verdict, except that the result of a field may be cut short. -/
inductive Verdict.Truncates : Verdict → Verdict → Prop
  | ignored : Verdict.Truncates .ignored .ignored
  | judged {e' e : ElementResult} : e'.Truncates e → Verdict.Truncates (.judged e') (.judged e)

theorem Verdict.Truncates.isRejected_eq {v' v : Verdict} (h : v'.Truncates v) :
    v'.isRejected = v.isRejected := by
  cases h with
  | ignored => rfl
  | judged he => exact congrArg Bool.not he.passed_eq

theorem Verdict.Truncates.eq_of_not {v' v : Verdict} (h : v'.Truncates v) (hv : v.isRejected = false) :
    v' = v := by
  cases h with
  | ignored => rfl
  | judged he => rw [he.eq_of_passed (by simpa [Verdict.isRejected] using hv)]

/-- Verdicts on the fields of an object, up to the first rejected one, whose result is cut short. -/
inductive CutShort : List Verdict → List Verdict → Prop
  | nil : CutShort [] []
  | stop {v' v : Verdict} {rest : List Verdict} :
      v.isRejected = true → v'.Truncates v → CutShort [v'] (v :: rest)
  | cons {v : Verdict} {vs' vs : List Verdict} :
      v.isRejected = false → CutShort vs' vs → CutShort (v :: vs') (v :: vs)

section CutShort
variable {vs' vs second' second : List Verdict}

/-- Where nothing is rejected, nothing is cut off. -/
theorem CutShort.eq_of_none (h : CutShort vs' vs) (hnone : vs.any Verdict.isRejected = false) : vs' = vs := by
  induction h with
  | nil => rfl
  | stop hrejected => simp [hrejected] at hnone
  | cons hv _ ih =>
    rw [List.any_cons, hv, Bool.false_or] at hnone
    rw [ih hnone]

/-- Something is rejected in both lists or in none of them. -/
theorem CutShort.any_eq (h : CutShort vs' vs) : vs'.any Verdict.isRejected = vs.any Verdict.isRejected := by
  induction h with
  | nil => rfl
  | stop hrejected htruncates => simp [htruncates.isRejected_eq, hrejected]
  | cons hv _ ih => rw [List.any_cons, List.any_cons, ih]

/-- What follows after the first rejected field is cut off. -/
theorem CutShort.append_right (h : CutShort vs' vs) (hsome : vs.any Verdict.isRejected = true) :
    CutShort vs' (vs ++ second) := by
  induction h with
  | nil => cases hsome
  | stop hrejected htruncates => exact .stop hrejected htruncates
  | cons hv _ ih =>
    rw [List.any_cons, hv, Bool.false_or] at hsome
    exact .cons hv (ih hsome)

/-- Fields that were not rejected are kept. -/
theorem CutShort.append_left (hnone : vs.any Verdict.isRejected = false) (h : CutShort second' second) :
    CutShort (vs ++ second') (vs ++ second) := by
  induction vs with
  | nil => exact h
  | cons v vs ih =>
    obtain ⟨hv, hrest⟩ := Bool.or_eq_false_iff.1 hnone
    exact .cons hv (ih hrest)

/-- If something was rejected, the first rejected field is the only one before the cut. -/
theorem CutShort.rejectedOf_eq (h : CutShort vs' vs) (hsome : vs.any Verdict.isRejected = true) :
    ∃ e' e rest, rejectedOf vs' = [e'] ∧ rejectedOf vs = e :: rest ∧ e'.Truncates e := by
  induction h with
  | nil => cases hsome
  | @stop v' v rest hrejected htruncates =>
    cases htruncates with
    | ignored => cases hrejected
    | @judged e' e he =>
      have hfailed : e.passed = false := by simpa [Verdict.isRejected] using hrejected
      have hfailed' : e'.passed = false := he.passed_eq.trans hfailed
      exact ⟨e', e, _, rejectedOf_cons hfailed' [], rejectedOf_cons hfailed rest, he⟩
  | cons hv _ ih =>
    rw [List.any_cons, hv, Bool.false_or] at hsome
    rw [rejectedOf_cons_of_not hv, rejectedOf_cons_of_not hv]
    exact ih hsome

/-- The results for verdicts and for their beginning, with a message about the whole. -/
theorem CutShort.truncates (h : CutShort vs' vs) (total : Nat) (message? : Option String) :
    ((Result.ofVerdicts total vs').withMessage message?).Truncates
      ((Result.ofVerdicts total vs).withMessage message?) := by
  have hpassed := passed_ofVerdicts total vs
  have hpassed' := passed_ofVerdicts total vs'
  rw [h.any_eq] at hpassed'
  cases hsome : vs.any Verdict.isRejected with
  | false =>
    rw [hsome] at hpassed
    rw [h.eq_of_none hsome]
    exact .whole hpassed
  | true =>
    rw [hsome] at hpassed hpassed'
    obtain ⟨e', e, rest, hone, hrest, he⟩ := h.rejectedOf_eq hsome
    rw [← rejected_ofVerdicts total] at hone hrest
    exact .first hpassed' hpassed rfl hone hrest he

end CutShort

/-! ## Validations side by side -/

/-- From the same session, whenever `full` comes to its end, so does `cut`, with the beginning of its result.
Where a validation goes on after the result, the two end in the same session, and in any case the same texts
are found afterwards. -/
def Shortens {α : Type} (locale? : Option String) (T : α → α → Prop) (goesOn : α → Prop)
    (cut full : Session.Run α) : Prop :=
  ∀ s a s₁, full s = (.ok a, s₁) →
    ∃ b s₂, cut s = (.ok b, s₂) ∧ T b a ∧ (goesOn a → s₂ = s₁) ∧ s₂.Agrees locale? s₁

section Shortens
variable {α β : Type} {locale? : Option String} {T : α → α → Prop} {T' : β → β → Prop}
variable {goesOn : α → Prop} {goesOn' : β → Prop}

theorem Shortens.pure {a : α} (h : T a a) : Shortens locale? T goesOn (pure a) (pure a) := by
  intro s b s₁ hb
  cases hb
  exact ⟨_, _, rfl, h, fun _ => rfl, .refl locale? _⟩

/-- The two may do the same before. -/
theorem Shortens.after {m : Session.Run β} {cut full : β → Session.Run α}
    (h : ∀ b, Shortens locale? T goesOn (cut b) (full b)) :
    Shortens locale? T goesOn (m >>= cut) (m >>= full) := by
  intro s a s₂ hfull
  obtain ⟨b, s₁, hm, hfull⟩ := Run.bind_eq_ok hfull
  rw [Run.bind_of_ok hm]
  exact h b s₁ a s₂ hfull

/-- The two may make something out of their results. -/
theorem Shortens.map {cut full : Session.Run α} {f : α → β} (h : Shortens locale? T goesOn cut full)
    (hT : ∀ b a, T b a → T' (f b) (f a)) (hgoes : ∀ a, goesOn' (f a) → goesOn a) :
    Shortens locale? T' goesOn' (do return f (← cut)) (do return f (← full)) := by
  intro s c s₂ hfull
  obtain ⟨a, s₁, hm, hc⟩ := Run.bind_eq_ok hfull
  cases hc
  obtain ⟨b, s₃, hcut, hba, hsame, hagrees⟩ := h s a _ hm
  exact ⟨f b, s₃, Run.bind_of_ok hcut, hT b a hba, fun hc => hsame (hgoes a hc), hagrees⟩

end Shortens

namespace Validator

variable {V : Validator} {q : Request} {cut full : Value → Session.Run Result}

/-- Validations of values, of which one stops and one does not. -/
def ShortensResults (q : Request) (cut full : Value → Session.Run Result) : Prop :=
  ∀ v, Shortens q.locale? Result.Truncates (fun r => r.tally.passed = true) (cut v) (full v)

theorem shortens_judgeSubject (hinner : ShortensResults q cut full) (field : String) (nested : Bool)
    (s : Subject) (fragments : List Fragment) :
    Shortens q.locale? ElementResult.Truncates (fun e => e.passed = true)
      (V.judgeSubject cut q field nested s fragments) (V.judgeSubject full q field nested s fragments) := by
  refine Shortens.after fun rejections => ?_
  split
  · exact (hinner s.value).map (fun _ _ h => .nested h) fun _ hpassed => hpassed
  · exact Shortens.pure .own

theorem shortens_judge (hinner : ShortensResults q cut full) (requested : Option (List String))
    (object : Value) (e : Element) :
    Shortens q.locale? ElementResult.Truncates (fun e => e.passed = true)
      (V.judge cut q requested object e) (V.judge full q requested object e) :=
  Shortens.after fun _ => shortens_judgeSubject hinner _ _ _ _

theorem shortens_lookThrough {look' look : Element → Session.Run Verdict}
    (hlook : ∀ e, Shortens q.locale? Verdict.Truncates (fun v => v.isRejected = false) (look' e) (look e))
    (hadvances : ∀ e, Run.Advances (Session.Agrees q.locale?) (look e)) (elements : List Element) :
    Shortens q.locale? CutShort (fun vs => vs.any Verdict.isRejected = false)
      (lookThrough true look' elements) (lookThrough false look elements) := by
  induction elements with
  | nil => exact Shortens.pure .nil
  | cons e rest ih =>
    intro s vs s₂ hfull
    obtain ⟨v, s₁, hv, hrest⟩ := Run.bind_eq_ok hfull
    obtain ⟨more, s₃, hmore, hdone⟩ := Run.bind_eq_ok hrest
    cases hdone
    obtain ⟨v', s₄, hv', htruncates, hsame, hagrees⟩ := hlook e s v s₁ hv
    rw [lookThrough, Run.bind_of_ok hv', Bool.true_and, htruncates.isRejected_eq]
    cases hrejected : v.isRejected with
    | true =>
      -- the one that stops is at its end, the other one goes on to further fields
      have hlater := (Validator.parts_agrees {} q.locale?).lookThrough hadvances rest s₁ more s₂ hmore
      refine ⟨[v'], s₄, rfl, .stop hrejected htruncates, fun hnone => ?_, hagrees.trans hlater⟩
      simp [hrejected] at hnone
    | false =>
      cases hsame hrejected
      cases htruncates.eq_of_not hrejected
      obtain ⟨more', s₅, hmore', hcut, hsame', hagrees'⟩ := ih s₁ more s₂ hmore
      refine ⟨v :: more', s₅, Run.bind_of_ok hmore', .cons hrejected hcut, fun hnone => hsame' ?_,
        hagrees'⟩
      simpa [hrejected] using hnone

/-- The judgement of fields by a validation that stops and by one that does not. -/
structure ShortensJudge (q : Request) (judge' judge : Element → Session.Run ElementResult) : Prop where
  shortens : ∀ e, Shortens q.locale? ElementResult.Truncates (fun e => e.passed = true) (judge' e) (judge e)
  advances : ∀ e, Run.Advances (Session.Agrees q.locale?) (judge e)

section Verdicts
variable {judge' judge : Element → Session.Run ElementResult}

theorem ShortensJudge.verdict (h : ShortensJudge q judge' judge) (e : Element) :
    Shortens q.locale? Verdict.Truncates (fun v => v.isRejected = false)
      (do return .judged (← judge' e)) (do return .judged (← judge e)) :=
  (h.shortens e).map (fun _ _ he => .judged he) fun _ hv => by simpa [Verdict.isRejected] using hv

theorem ShortensJudge.judgeGated (h : ShortensJudge q judge' judge) (object : Value)
    (outcomes : List (String × Bool)) (e : Element) :
    Shortens q.locale? Verdict.Truncates (fun v => v.isRejected = false)
      (Validator.judgeGated judge' object outcomes e) (Validator.judgeGated judge object outcomes e) := by
  refine Shortens.after fun _ => ?_
  split
  · exact h.verdict e
  · exact Shortens.pure .ignored

/-- If a field without a gate is rejected, the fields with gates are cut off; otherwise the gates see the same
outcomes. -/
theorem ShortensJudge.verdicts (h : ShortensJudge q judge' judge) (object : Value) (plan : Plan) :
    Shortens q.locale? CutShort (fun vs => vs.any Verdict.isRejected = false)
      (Validator.verdicts true judge' object plan) (Validator.verdicts false judge object plan) := by
  have hparts := Validator.parts_agrees {} q.locale?
  have hfree : ∀ e, Run.Advances (Session.Agrees q.locale?)
      (do return Verdict.judged (← judge e) : Session.Run Verdict) :=
    fun e => hparts.bind (h.advances e) fun r => hparts.pure (Verdict.judged r)
  unfold Validator.verdicts
  rw [List.partition_eq_filter_filter]
  dsimp only
  intro s vs s₂ hfull
  obtain ⟨first, s₁, hfirst, hrest⟩ := Run.bind_eq_ok hfull
  obtain ⟨second, s₃, hsecond, hdone⟩ := Run.bind_eq_ok hrest
  cases hdone
  obtain ⟨first', s₄, hfirst', hcut, hsame, hagrees⟩ :=
    shortens_lookThrough h.verdict hfree _ s first s₁ hfirst
  have hgated := fun e => hparts.judgeGated h.advances object (first.filterMap Verdict.outcome?) e
  rw [Run.bind_of_ok hfirst', Bool.true_and, hcut.any_eq]
  cases hsome : first.any Verdict.isRejected with
  | true =>
    -- a free field is rejected: the stopping validation ends before the gates
    have hlater := hparts.lookThrough hgated _ s₁ second s₂ hsecond
    refine ⟨first', s₄, rfl, hcut.append_right hsome, fun hnone => ?_, hagrees.trans hlater⟩
    simp [hsome] at hnone
  | false =>
    cases hsame hsome
    cases hcut.eq_of_none hsome
    obtain ⟨second', s₅, hsecond', hcut', hsame', hagrees'⟩ :=
      shortens_lookThrough (h.judgeGated object _) hgated _ s₁ second s₂ hsecond
    refine ⟨first ++ second', s₅, Run.bind_of_ok hsecond', .append_left hsome hcut',
      fun hnone => hsame' ?_, hagrees'⟩
    simpa [hsome] using hnone

end Verdicts

/-! ## Objects -/

/-- The validator with the choice of stopping at the first rejected field or not. -/
def stopping (V : Validator) (stops : Bool) : Validator :=
  { V with stopsAtFirst := stops }

@[simp] theorem stopsAtFirst_stopping (V : Validator) (stops : Bool) :
    (V.stopping stops).stopsAtFirst = stops := rfl

theorem settle_stopping {α : Type} (V : Validator) (stops : Bool) (q : Request) (s : Subject)
    (check : Check α) : (V.stopping stops).settle q s check = V.settle q s check := by
  induction check with
  | done a => rfl
  | fail e => rfl
  | warn w next ih => exact congrArg (fun m => Session.warn w >>= fun _ => m) ih
  | sibling name next ih => exact congrArg (fun f => V.siblingValue s name >>= f) (funext ih)
  | siblingLabel name next ih => exact congrArg (fun f => V.siblingLabel q s name >>= f) (funext ih)

theorem rejections_stopping (V : Validator) (stops : Bool) (q : Request) (s : Subject)
    (fragments : List Fragment) :
    (V.stopping stops).rejections q s fragments = V.rejections q s fragments := by
  have hfragment : (V.stopping stops).holdAgainst q s = V.holdAgainst q s := by
    funext f
    unfold holdAgainst
    rw [settle_stopping]
    rfl
  unfold rejections
  rw [hfragment]

/-- Fields are judged alike, whether a validation stops or not. -/
theorem judge_stopping (V : Validator) (stops : Bool) (inner : Value → Session.Run Result) (q : Request) :
    (V.stopping stops).judge inner q = V.judge inner q := by
  funext requested object e
  unfold judge judgeSubject
  simp only [rejections_stopping]

/-- The message about the whole is the same, and in the same session everything is. -/
theorem finish_truncates {found' found : List Verdict} {total : Nat} {s s' s₁ : Session} {r : Result}
    (hcut : CutShort found' found) (hsame : found.any Verdict.isRejected = false → s' = s)
    (hagrees : s'.Agrees q.locale? s) (hfull : finish q (.ofVerdicts total found) s = (.ok r, s₁)) :
    ∃ r' s₂, finish q (.ofVerdicts total found') s' = (.ok r', s₂) ∧ r'.Truncates r ∧
      (r.tally.passed = true → s₂ = s₁) ∧ s₂.Agrees q.locale? s₁ := by
  obtain ⟨message?, s₃, hmessage, hdone⟩ := Run.bind_eq_ok hfull
  cases hdone
  have hpassed := passed_ofVerdicts total found
  have hpassed' := passed_ofVerdicts total found'
  rw [hcut.any_eq, ← hpassed] at hpassed'
  cases hsome : found.any Verdict.isRejected with
  | false =>
    cases hsame hsome
    cases hcut.eq_of_none hsome
    exact ⟨_, _, hfull, hcut.truncates total message?, fun _ => rfl, .refl _ _⟩
  | true =>
    -- both results are rejected, so that the same text is looked up for them
    rw [hsome] at hpassed
    generalize hkey : (if (Result.ofVerdicts total found).tally.passed then Texts.testPassed
      else Texts.testRejected) = key at hmessage
    have hfound := hagrees.message? key
    rw [hmessage] at hfound
    rcases hmessage' : Session.message? key q.locale? s' with ⟨found?, s₂⟩
    rw [hmessage'] at hfound
    cases hfound
    have hparts := Validator.parts_agrees {} q.locale?
    have hbefore := hparts.message? _ s message? s₁ hmessage
    have hafter := hparts.message? _ s' message? s₂ hmessage'
    refine ⟨_, s₂, ?_, hcut.truncates total message?, fun hr => ?_,
      hafter.symm.trans (hagrees.trans hbefore)⟩
    · rw [finish, hpassed', hkey, Run.bind_of_ok hmessage']
      rfl
    · have hfalse : false = true := hpassed.symm.trans hr
      cases hfalse

theorem shortens_validateFields (hinner : ShortensResults q cut full)
    (hadvances : ∀ v, Run.Advances (Session.Agrees q.locale?) (full v)) (object : Value) :
    Shortens q.locale? Result.Truncates (fun r => r.tally.passed = true)
      ((V.stopping true).validateFields cut q object) ((V.stopping false).validateFields full q object) := by
  refine Shortens.after fun plan => ?_
  split
  · exact Shortens.after fun message? => Shortens.pure (.whole rfl)
  · refine Shortens.after fun requested => ?_
    rw [judge_stopping, judge_stopping, stopsAtFirst_stopping, stopsAtFirst_stopping]
    have hjudge : ShortensJudge q (V.judge cut q requested object) (V.judge full q requested object) :=
      ⟨shortens_judge hinner requested object, (V.parts_agrees q.locale?).judge hadvances requested object⟩
    intro s r s₂ hfull
    obtain ⟨found, s₁, hfound, hfinish⟩ := Run.bind_eq_ok hfull
    obtain ⟨found', s₃, hfound', hcut, hsame, hagrees⟩ := hjudge.verdicts object plan s found s₁ hfound
    rw [Run.bind_of_ok hfound']
    exact finish_truncates hcut hsame hagrees hfinish

theorem shortens_validateWithin (V : Validator) (q : Request) (depth : Nat) :
    ShortensResults q ((V.stopping true).validateWithin q depth)
      ((V.stopping false).validateWithin q depth) := by
  -- the values of the fields are validated one level down, and cut short there
  induction depth with
  | zero =>
    intro object
    by_cases hnone : object = .none
    · rw [hnone, validateWithin_none, validateWithin_none]
      exact Shortens.after fun message? => Shortens.pure (.whole rfl)
    · rw [validateWithin_zero hnone, validateWithin_zero hnone]
      exact fun s r s₁ h => nomatch h
  | succ depth ih =>
    intro object
    by_cases hnone : object = .none
    · rw [hnone, validateWithin_none, validateWithin_none]
      exact Shortens.after fun message? => Shortens.pure (.whole rfl)
    · rw [validateWithin_succ hnone, validateWithin_succ hnone]
      exact shortens_validateFields ih (((V.stopping false).parts_agrees q.locale?).validateWithin depth)
        object

/-- **Stopping cuts off, and nothing else.** If the validation that looks at all fields comes to its end, so
does the one that stops at the first rejected field, from the same session. It passes exactly if the other one
does, with the same message; the results are the same if it passes; and if not, there is one rejected field,
the first one that is rejected otherwise, with the same fragments or with the result of its value cut short in
the same way. -/
theorem validate_truncates {V : Validator} {q : Request} {object : Value} {s s₁ : Session} {full : Result}
    (hfull : (V.stopping false).validate q object s = (.ok full, s₁)) :
    ∃ cut s₂, (V.stopping true).validate q object s = (.ok cut, s₂) ∧
      cut.tally.passed = full.tally.passed ∧ cut.tally.message? = full.tally.message? ∧
      (full.tally.passed = true → cut = full) ∧
      (full.tally.passed = false → ∃ e' e rest,
        cut.rejected = [e'] ∧ full.rejected = e :: rest ∧ e'.Truncates e) := by
  obtain ⟨cut, s₂, hcut, htruncates, -, -⟩ :=
    shortens_validateWithin V q (depthFor object) object s full s₁ hfull
  exact ⟨cut, s₂, hcut, htruncates.passed_eq, htruncates.message_eq, htruncates.eq_of_passed,
    htruncates.of_failed⟩

theorem validate_truncates_unpricedOrder : ∃ full s₁ cut s₂,
    (orderValidator.stopping false).validate {} unpricedOrder {} = (.ok full, s₁) ∧
    full.rejected.map ElementResult.field = ["item", "note"] ∧
    (orderValidator.stopping true).validate {} unpricedOrder {} = (.ok cut, s₂) ∧
    cut.rejected.map ElementResult.field = ["item"] := by
  have hfields : ((orderValidator.stopping false).validate {} unpricedOrder {}).1.toOption.map
      (fun r => (r.tally.passed, r.rejected.map ElementResult.field)) = some (false, ["item", "note"]) := by
    decide +kernel
  obtain ⟨full, hr, hfields⟩ := Option.map_eq_some_iff.1 hfields
  obtain ⟨hfailed, hfields⟩ := Prod.mk.inj hfields
  rcases hrun : (orderValidator.stopping false).validate {} unpricedOrder {} with ⟨e | found, s₁⟩
  · rw [hrun] at hr
    cases hr
  · rw [hrun] at hr
    cases hr
    obtain ⟨cut, s₂, hcut, -, -, -, hfirst⟩ := validate_truncates hrun
    obtain ⟨e', e, rest, hone, hmore, htruncates⟩ := hfirst hfailed
    refine ⟨full, s₁, cut, s₂, rfl, hfields, hcut, ?_⟩
    have hfield : e'.field = e.field := by
      cases htruncates <;> rfl
    rw [hmore] at hfields
    rw [hone, List.map_singleton, hfield, (List.cons.inj hfields).1]

end Validator

end FieldRules
