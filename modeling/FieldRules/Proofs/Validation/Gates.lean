import FieldRules.Proofs.Entries
import FieldRules.Proofs.Validation.Keeps

/-!
# Gates of a validation

What a validation that may not stop early does with the fields of an object. It looks at every element once:
it warns of the fields that the element's gate names and that have no element, and then judges the element
or ignores it. It judges all elements without a gate, and one with a gate if the fields that the gate names
have been judged with the outcome that is asked for.

* `Walk` is a run through elements with their verdicts, and says what the session goes through;
* `GateRules` says which elements are judged;
* `resultOf` counts the verdicts.
-/

namespace FieldRules

open Cache

/-- A session with further warnings. -/
def Session.warned (s : Session) (warnings : List Warning) : Session :=
  { s with warnings := s.warnings ++ warnings }

@[simp] theorem Session.warned_nil (s : Session) : s.warned [] = s := by
  rw [Session.warned, List.append_nil]

@[simp] theorem Session.warned_warned (s : Session) (ws ws' : List Warning) :
    (s.warned ws).warned ws' = s.warned (ws ++ ws') := by
  simp only [Session.warned, List.append_assoc]

/-- The result of a field that was looked at. -/
def Verdict.result? : Verdict → Option ElementResult
  | ignored => none
  | judged r => some r

namespace Validator

/-! ## The specification -/

/-- The warnings about an element: one for every time that its gate names a field without an element. -/
def siblingWarnings (plan : Plan) (object : Value) (e : Element) : List Warning :=
  (e.gateFields.filter fun name => !plan.any fun other => other.name == name).map fun name =>
    .noSuchSibling object.kindName e.name name

/-- A run through elements with the verdicts on them. An element that is ignored is given its warnings and
nothing else happens, one that is judged is judged in the session with its warnings. -/
inductive Walk (judge : Element → Session.Run ElementResult) (warnings : Element → List Warning) :
    Session → List (Element × Verdict) → Session → Prop
  | done (s : Session) : Walk judge warnings s [] s
  | judged {s s₁ s₂ : Session} {e : Element} {r : ElementResult} {rest : List (Element × Verdict)} :
      judge e (s.warned (warnings e)) = (.ok r, s₁) → Walk judge warnings s₁ rest s₂ →
      Walk judge warnings s ((e, .judged r) :: rest) s₂
  | ignored {s s₂ : Session} {e : Element} {rest : List (Element × Verdict)} :
      Walk judge warnings (s.warned (warnings e)) rest s₂ →
      Walk judge warnings s ((e, .ignored) :: rest) s₂

/-- A gate is open: every field it names is that of an element without a gate, whose own result is the
outcome that is asked for. -/
def IsOpen (found : List (Element × Verdict)) (g : Gate) : Prop :=
  ∀ name ∈ g.fields, ∃ e r, (e, .judged r) ∈ found ∧ e.name = name ∧ e.isUnconditional = true ∧
    r.passed = (g.outcome == .passed)

/-- The verdicts on the elements of a plan are those that their gates ask for. -/
structure GateRules (plan : Plan) (found : List (Element × Verdict)) : Prop where
  /-- The elements have different names. -/
  names : (plan.map Element.name).Nodup
  /-- Every element has one verdict. -/
  visited : (found.map Prod.fst).Perm plan
  /-- A result is that of the field it is given for. -/
  fields : ∀ e r, (e, .judged r) ∈ found → r.field = e.name
  /-- Elements without a gate are judged. -/
  free : ∀ e v, (e, v) ∈ found → e.gate? = none → v ≠ .ignored
  /-- Elements with a gate are judged exactly if it is open. -/
  gated : ∀ e v g, (e, v) ∈ found → e.gate? = some g → (v ≠ .ignored ↔ IsOpen found g)

/-- The results of the elements that were judged. -/
def resultsOf (found : List (Element × Verdict)) : List ElementResult :=
  found.filterMap fun p => p.2.result?

/-- The counts of verdicts, and the results of the rejected elements. -/
def resultOf (total : Nat) (found : List (Element × Verdict)) : Result where
  tally := {
    passed := (resultsOf found).all ElementResult.passed
    total := total
    passedCount := (resultsOf found).countP ElementResult.passed
    errorCount := (resultsOf found).countP fun r => !r.passed
    ignoredCount := found.countP fun p => p.2.result?.isNone
  }
  rejected := (resultsOf found).filter fun r => !r.passed

/-! ## Runs through elements -/

section Walks
variable {judge : Element → Session.Run ElementResult} {warnings : Element → List Warning}
variable {s s₁ s₂ : Session} {found rest : List (Element × Verdict)}

theorem Walk.append (h : Walk judge warnings s found s₁) (hrest : Walk judge warnings s₁ rest s₂) :
    Walk judge warnings s (found ++ rest) s₂ := by
  induction h with
  | done => exact hrest
  | judged hjudge _ ih => exact .judged hjudge (ih hrest)
  | ignored _ ih => exact .ignored (ih hrest)

theorem Walk.fields (h : Walk judge warnings s found s₁)
    (hjudge : ∀ e s r s', judge e s = (.ok r, s') → r.field = e.name) :
    ∀ e r, (e, .judged r) ∈ found → r.field = e.name := by
  induction h with
  | done => exact fun e r h => nomatch h
  | judged hrun _ ih =>
    intro e r h
    rcases List.mem_cons.1 h with heq | h
    · cases heq
      exact hjudge _ _ _ _ hrun
    · exact ih e r h
  | ignored _ ih =>
    intro e r h
    rcases List.mem_cons.1 h with heq | h
    · cases heq
    · exact ih e r h

/-- A run comes to its end, or judging one of the elements fails and the run with it. -/
def Completes (judge : Element → Session.Run ElementResult) (warnings : Element → List Warning)
    (elements : List Element) (s : Session) (run : Except Error (List Verdict) × Session)
    (P : List (Element × Verdict) → Prop) : Prop :=
  (∃ found s₁, Walk judge warnings s found s₁ ∧ P found ∧ run = (.ok (found.map Prod.snd), s₁)) ∨
  ∃ found s₁ e failure s₂, Walk judge warnings s found s₁ ∧ e ∈ elements ∧
    judge e (s₁.warned (warnings e)) = (.error failure, s₂) ∧ run = (.error failure, s₂)

variable (judge warnings) in
/-- Looking through elements is a run through all of them, if each is judged or ignored in the session with
its warnings. -/
theorem completes_lookThrough (look : Element → Session.Run Verdict) (opens : Element → Bool)
    (elements : List Element)
    (hlook : ∀ e ∈ elements, ∀ s, look e s =
      if opens e then ((judge e (s.warned (warnings e))).1.map .judged,
        (judge e (s.warned (warnings e))).2)
      else (.ok .ignored, s.warned (warnings e))) (s : Session) :
    Completes judge warnings elements s (lookThrough false look elements s) fun found =>
      found.map Prod.fst = elements ∧ ∀ p ∈ found, p.2 ≠ .ignored ↔ opens p.1 = true := by
  induction elements generalizing s with
  | nil => exact .inl ⟨[], s, .done s, ⟨rfl, fun p hp => nomatch hp⟩, rfl⟩
  | cons e elements ih =>
    have ih := ih fun e' he' => hlook e' (List.mem_cons_of_mem e he')
    -- whatever the verdict on the first element is, the run goes on from where it has led
    have hnext (v : Verdict) (s' : Session) (hv : v ≠ .ignored ↔ opens e = true)
        (hwalk : ∀ found s₁, Walk judge warnings s' found s₁ →
          Walk judge warnings s ((e, v) :: found) s₁) :
        Completes judge warnings (e :: elements) s
          ((do return v :: (← lookThrough false look elements) : Session.Run (List Verdict)) s')
          fun found => found.map Prod.fst = e :: elements ∧
            ∀ p ∈ found, p.2 ≠ .ignored ↔ opens p.1 = true := by
      rcases ih s' with ⟨found, s₁, hfound, ⟨helements, hverdicts⟩, hrun⟩ |
        ⟨found, s₁, e', failure, s₂, hfound, he', hjudge, hrun⟩
      · refine .inl ⟨(e, v) :: found, s₁, hwalk found s₁ hfound, ⟨?_, ?_⟩, ?_⟩
        · rw [List.map_cons, helements]
        · exact List.forall_mem_cons.2 ⟨hv, hverdicts⟩
        · rw [Run.bind_of_ok hrun]
          rfl
      · refine .inr ⟨(e, v) :: found, s₁, e', failure, s₂, hwalk found s₁ hfound,
          List.mem_cons_of_mem e he', hjudge, ?_⟩
        exact Run.bind_of_error hrun
    rw [lookThrough, Run.bind_eq, hlook e (List.mem_cons_self ..) s]
    cases hopen : opens e with
    | false =>
      exact hnext .ignored _ (by simp [hopen]) fun _ _ hrest => .ignored hrest
    | true =>
      rw [if_pos rfl]
      rcases hjudge : judge e (s.warned (warnings e)) with ⟨failure | r, s'⟩
      · exact .inr ⟨[], s, e, failure, s', .done s, List.mem_cons_self .., hjudge, rfl⟩
      · exact hnext (.judged r) s' (by simp [hopen]) fun _ _ hrest => .judged hjudge hrest

end Walks

/-! ## Outcomes and gates -/

/-- The outcomes of the fields that were looked at. -/
def outcomesOf (found : List (Element × Verdict)) : List (String × Bool) :=
  (found.map Prod.snd).filterMap Verdict.outcome?

/-- The elements without a gate have been judged. -/
structure FirstPass (plan : Plan) (first : List (Element × Verdict)) : Prop where
  elements : first.map Prod.fst = plan.filter Element.isUnconditional
  judged : ∀ p ∈ first, p.2 ≠ .ignored
  fields : ∀ e r, (e, .judged r) ∈ first → r.field = e.name

section Outcomes
variable {plan : Plan} {first : List (Element × Verdict)} {name : String} {b : Bool}

theorem FirstPass.mem_plan (h : FirstPass plan first) {e : Element} {v : Verdict}
    (hmem : (e, v) ∈ first) : e ∈ plan ∧ e.isUnconditional = true := by
  rw [← List.mem_filter, ← h.elements]
  exact List.mem_map_of_mem (f := Prod.fst) hmem

theorem FirstPass.mem_outcomesOf (h : FirstPass plan first) :
    (name, b) ∈ outcomesOf first ↔ ∃ e r, (e, .judged r) ∈ first ∧ e.name = name ∧ r.passed = b := by
  unfold outcomesOf
  rw [List.mem_filterMap]
  constructor
  · rintro ⟨v, hv, hout⟩
    obtain ⟨⟨e, v⟩, hmem, rfl⟩ := List.mem_map.1 hv
    cases v with
    | ignored => cases hout
    | judged r =>
      cases hout
      exact ⟨e, r, hmem, (h.fields e r hmem).symm, rfl⟩
  · rintro ⟨e, r, hmem, rfl, rfl⟩
    refine ⟨.judged r, List.mem_map_of_mem (f := Prod.snd) hmem, ?_⟩
    rw [Verdict.outcome?, h.fields e r hmem]

theorem FirstPass.keys_outcomesOf (h : FirstPass plan first) :
    (outcomesOf first).map Prod.fst = (plan.filter Element.isUnconditional).map Element.name := by
  rw [← h.elements, outcomesOf]
  have hjudged := h.judged
  have hfields := h.fields
  clear h
  induction first with
  | nil => rfl
  | cons p first ih =>
    obtain ⟨e, v⟩ := p
    have ih := ih (fun p hp => hjudged p (List.mem_cons_of_mem _ hp))
      fun e r hmem => hfields e r (List.mem_cons_of_mem _ hmem)
    cases v with
    | ignored => exact absurd rfl (hjudged _ (List.mem_cons_self ..))
    | judged r =>
      simp only [List.map_cons, List.filterMap_cons, Verdict.outcome?]
      rw [ih, hfields e r (List.mem_cons_self ..)]

/-- What is known of a field is the outcome of the element with that name. -/
theorem FirstPass.lookup (h : FirstPass plan first) (hnames : (plan.map Element.name).Nodup) :
    (outcomesOf first).lookup name = some b ↔
      ∃ e r, (e, .judged r) ∈ first ∧ e.name = name ∧ r.passed = b := by
  rw [lookup_eq_some_iff_mem, h.mem_outcomesOf]
  rw [h.keys_outcomesOf]
  exact (List.filter_sublist.map Element.name).nodup hnames

/-- Nothing is known of a field that a gate names exactly if it has no element. -/
theorem FirstPass.lookup_isNone (h : FirstPass plan first) (hgated : plan.WellGated) {e : Element}
    (he : e ∈ plan) (hname : name ∈ e.gateFields) :
    ((outcomesOf first).lookup name).isNone = !plan.any fun other => other.name == name := by
  cases hany : plan.any fun other => other.name == name with
  | false =>
    rw [Bool.not_false, Option.isNone_iff_eq_none, Option.eq_none_iff_forall_ne_some]
    intro b hb
    obtain ⟨other, r, hmem, hnamed, -⟩ := (h.lookup hgated.names).1 hb
    have hunnamed := List.any_eq_false.1 hany other (h.mem_plan hmem).1
    rw [hnamed, beq_self_eq_true] at hunnamed
    exact hunnamed rfl
  | true =>
    obtain ⟨other, hother, hnamed⟩ := List.any_eq_true.1 hany
    have hnamed := eq_of_beq hnamed
    -- a field that a gate names has no gate itself, so the first pass has judged it
    have hfree := hgated.ungated e he name hname other hother hnamed
    have hmem : other ∈ first.map Prod.fst := by
      rw [h.elements]
      exact List.mem_filter.2 ⟨hother, hfree⟩
    obtain ⟨⟨other', v⟩, hv, rfl⟩ := List.mem_map.1 hmem
    cases v with
    | ignored => exact absurd rfl (h.judged _ hv)
    | judged r =>
      have hfound := (h.lookup hgated.names).2 ⟨_, r, hv, hnamed, rfl⟩
      rw [hfound]
      rfl

/-- The fields that a gate warns of are the ones it names that have no element. -/
theorem FirstPass.missing_eq (h : FirstPass plan first) (hgated : plan.WellGated) {e : Element}
    {g : Gate} (he : e ∈ plan) (hg : e.gate? = some g) :
    g.missing (outcomesOf first)
      = e.gateFields.filter fun name => !plan.any fun other => other.name == name := by
  have hfields : e.gateFields = g.fields := by
    rw [Element.gateFields, hg]
    rfl
  rw [hfields]
  refine List.filter_congr fun name hname => ?_
  rw [← hfields] at hname
  exact h.lookup_isNone hgated he hname

/-- A gate is open by the outcomes of the first pass exactly if it is. -/
theorem FirstPass.isOpen? (h : FirstPass plan first) (hnames : (plan.map Element.name).Nodup)
    {g : Gate} : (g.isOpen? (outcomesOf first) == some true) = true ↔ IsOpen first g := by
  have hopen : (∀ name ∈ g.fields, (outcomesOf first).lookup name = some (g.outcome == .passed)) ↔
      IsOpen first g := by
    refine forall₂_congr fun name _ => ?_
    rw [h.lookup hnames]
    constructor
    · rintro ⟨e, r, hmem, hname, hpassed⟩
      exact ⟨e, r, hmem, hname, (h.mem_plan hmem).2, hpassed⟩
    · rintro ⟨e, r, hmem, hname, -, hpassed⟩
      exact ⟨e, r, hmem, hname, hpassed⟩
  rw [← hopen, beq_iff_eq, Gate.isOpen?]
  constructor
  · intro hall
    split at hall
    · rw [Option.some.injEq, List.all_eq_true] at hall
      exact fun name hname => eq_of_beq (hall name hname)
    · cases hall
  · intro hall
    have hmissing : g.missing (outcomesOf first) = [] := by
      refine List.filter_eq_nil_iff.2 fun name hname => ?_
      rw [hall name hname]
      simp
    rw [hmissing, List.isEmpty_nil, if_pos rfl, Option.some.injEq, List.all_eq_true]
    exact fun name hname => beq_iff_eq.2 (hall name hname)

/-- Later verdicts, on elements with gates, open no gate. -/
theorem isOpen_append {second : List (Element × Verdict)} {g : Gate}
    (hsecond : ∀ p ∈ second, p.1.isUnconditional = false) :
    IsOpen (first ++ second) g ↔ IsOpen first g := by
  refine forall₂_congr fun name _ => exists₂_congr fun e r => ?_
  rw [List.mem_append]
  constructor
  · rintro ⟨hmem | hmem, hname, hfree, hpassed⟩
    · exact ⟨hmem, hname, hfree, hpassed⟩
    · have hgated := hsecond _ hmem
      rw [hfree] at hgated
      cases hgated
  · rintro ⟨hmem, hrest⟩
    exact ⟨.inl hmem, hrest⟩

/-- The verdicts of both passes are those that the gates ask for. -/
theorem FirstPass.gateRules (h : FirstPass plan first) (hgated : plan.WellGated)
    {second : List (Element × Verdict)}
    (helements : second.map Prod.fst = plan.filter fun e => !e.isUnconditional)
    (hverdicts : ∀ p ∈ second, p.2 ≠ .ignored ↔
      ((p.1.gate?.getD { fields := [] }).isOpen? (outcomesOf first) == some true) = true)
    (hfields : ∀ e r, (e, .judged r) ∈ first ++ second → r.field = e.name) :
    GateRules plan (first ++ second) := by
  have hsecond : ∀ p ∈ second, p.1.isUnconditional = false := by
    intro p hp
    have hmem : p.1 ∈ plan.filter fun e => !e.isUnconditional := by
      rw [← helements]
      exact List.mem_map_of_mem hp
    rw [← Bool.not_eq_true']
    exact (List.mem_filter.1 hmem).2
  refine ⟨hgated.names, ?_, hfields, ?_, ?_⟩
  · rw [List.map_append, h.elements, helements]
    exact List.filter_append_perm _ _
  · intro e v hmem hnone
    rcases List.mem_append.1 hmem with hmem | hmem
    · exact h.judged _ hmem
    · have hgate := hsecond _ hmem
      rw [Element.isUnconditional, hnone] at hgate
      cases hgate
  · intro e v g hmem hg
    rcases List.mem_append.1 hmem with hmem | hmem
    · have hfree := (h.mem_plan hmem).2
      rw [Element.isUnconditional, hg] at hfree
      cases hfree
    · rw [isOpen_append hsecond, ← h.isOpen? hgated.names, hverdicts _ hmem, hg, Option.getD_some]

end Outcomes

/-! ## Counting verdicts -/

theorem foldl_count (verdicts : List Verdict) (r : Result) :
    verdicts.foldl Verdict.count r = {
      tally := { r.tally with
        passed := r.tally.passed && (verdicts.filterMap Verdict.result?).all ElementResult.passed
        passedCount := r.tally.passedCount
          + (verdicts.filterMap Verdict.result?).countP ElementResult.passed
        errorCount := r.tally.errorCount
          + (verdicts.filterMap Verdict.result?).countP fun e => !e.passed
        ignoredCount := r.tally.ignoredCount + verdicts.countP fun v => v.result?.isNone }
      rejected := r.rejected ++ (verdicts.filterMap Verdict.result?).filter fun e => !e.passed } := by
  induction verdicts generalizing r with
  | nil => simp
  | cons v verdicts ih =>
    rw [List.foldl_cons, ih]
    cases v with
    | ignored =>
      have hskip : (Verdict.ignored :: verdicts).filterMap Verdict.result?
          = verdicts.filterMap Verdict.result? := rfl
      simp [hskip, Verdict.count, Verdict.result?, Result.ignore, Tally.ignore, Nat.add_assoc,
        Nat.add_comm 1]
    | judged e =>
      have hcons : (Verdict.judged e :: verdicts).filterMap Verdict.result?
          = e :: verdicts.filterMap Verdict.result? := rfl
      cases hpassed : e.passed <;>
        simp [hcons, Verdict.count, Verdict.result?, Result.add, Result.pass, Tally.pass,
          Result.reject, Tally.reject, hpassed, Nat.add_assoc, Nat.add_comm 1]

/-- The result for verdicts counts them and lists what was rejected. -/
theorem ofVerdicts_eq_resultOf (total : Nat) (found : List (Element × Verdict)) :
    Result.ofVerdicts total (found.map Prod.snd) = resultOf total found := by
  have hresults : (found.map Prod.snd).filterMap Verdict.result? = resultsOf found := by
    rw [List.filterMap_map]
    rfl
  have hignored : (found.map Prod.snd).countP (fun v => v.result?.isNone)
      = found.countP fun p => p.2.result?.isNone := by
    rw [List.countP_map]
    rfl
  rw [Result.ofVerdicts, foldl_count, hresults, hignored]
  simp [resultOf]

/-! ## The fields of an object -/

theorem forM_warn (f : String → Warning) (names : List String) (s : Session) :
    (names.forM fun name => Session.warn (f name)) s = (.ok ⟨⟩, s.warned (names.map f)) := by
  induction names generalizing s with
  | nil =>
    rw [List.map_nil, Session.warned_nil]
    rfl
  | cons name names ih =>
    rw [List.forM_eq_forM] at ih ⊢
    rw [List.forM_cons, Run.bind_of_ok (a := ⟨⟩) (rfl : Session.warn (f name) s = (.ok ⟨⟩, _)), ih]
    show (Except.ok PUnit.unit, (s.warned [f name]).warned (names.map f)) = _
    rw [Session.warned_warned, List.singleton_append, List.map_cons]

section Fields
variable {judge : Element → Session.Run ElementResult} {plan : Plan} {object : Value}

/-- An element without a gate is judged. -/
theorem look_free {e : Element} (he : e.isUnconditional = true) (s : Session) :
    (do return .judged (← judge e) : Session.Run Verdict) s
      = ((judge e (s.warned (siblingWarnings plan object e))).1.map .judged,
        (judge e (s.warned (siblingWarnings plan object e))).2) := by
  have hnone : e.gate? = none := by
    rw [Element.isUnconditional, Option.isNone_iff_eq_none] at he
    exact he
  have hwarnings : siblingWarnings plan object e = [] := by
    rw [siblingWarnings, Element.gateFields, hnone]
    rfl
  rw [hwarnings, Session.warned_nil]
  exact Run.map_eq Verdict.judged (judge e) s

/-- An element with a gate is judged if the gate is open, after its warnings. -/
theorem look_gated {first : List (Element × Verdict)} (h : FirstPass plan first)
    (hgated : plan.WellGated) {e : Element} {g : Gate} (he : e ∈ plan) (hg : e.gate? = some g)
    (s : Session) :
    judgeGated judge object (outcomesOf first) e s
      = if g.isOpen? (outcomesOf first) == some true then
          ((judge e (s.warned (siblingWarnings plan object e))).1.map .judged,
            (judge e (s.warned (siblingWarnings plan object e))).2)
        else (.ok .ignored, s.warned (siblingWarnings plan object e)) := by
  have hwarn : warnOfMissing object e g (outcomesOf first) s
      = (.ok ⟨⟩, s.warned (siblingWarnings plan object e)) := by
    rw [warnOfMissing, h.missing_eq hgated he hg]
    exact forM_warn _ _ s
  unfold judgeGated
  rw [hg, Option.getD_some, Run.bind_of_ok hwarn]
  split
  · exact Run.map_eq Verdict.judged (judge e) _
  · rfl

/-- Looking at all fields of an object comes to verdicts as their gates ask for them, those on the fields
without gates first, or judging one of the fields fails. -/
theorem completes_verdicts_inOrder (hgated : plan.WellGated)
    (hjudge : ∀ e s r s', judge e s = (.ok r, s') → r.field = e.name) (s : Session) :
    Completes judge (siblingWarnings plan object) plan s (verdicts false judge object plan s)
      fun found => GateRules plan found ∧ found.map Prod.fst
        = plan.filter Element.isUnconditional ++ plan.filter fun e => !e.isUnconditional := by
  have hfirst := completes_lookThrough judge (siblingWarnings plan object)
    (fun e => return .judged (← judge e)) (fun _ => true) (plan.filter Element.isUnconditional)
    (fun e he s => look_free (List.mem_filter.1 he).2 s) s
  unfold verdicts
  rw [List.partition_eq_filter_filter]
  dsimp only
  rcases hfirst with ⟨first, s₁, hwalk, ⟨helements, hjudged⟩, hrun⟩ |
    ⟨found, s₁, e, failure, s₂, hwalk, he, hfails, hrun⟩
  · -- the gates are asked with the outcomes of the first pass, which all of them can rely on
    have h : FirstPass plan first :=
      ⟨helements, fun p hp => (hjudged p hp).2 rfl, hwalk.fields hjudge⟩
    rw [Run.bind_of_ok hrun]
    simp only [Bool.false_and, Bool.false_eq_true, if_false]
    have hsecond := completes_lookThrough judge (siblingWarnings plan object)
      (judgeGated judge object (outcomesOf first))
      (fun e => (e.gate?.getD { fields := [] }).isOpen? (outcomesOf first) == some true)
      (plan.filter fun e => !e.isUnconditional) (fun e he s => by
        obtain ⟨he, hgate⟩ := List.mem_filter.1 he
        rw [Element.isUnconditional, Option.not_isNone] at hgate
        obtain ⟨g, hg⟩ := Option.isSome_iff_exists.1 hgate
        rw [look_gated h hgated he hg, hg, Option.getD_some]) s₁
    rcases hsecond with ⟨second, s₂, hwalk', ⟨helements', hverdicts⟩, hrun'⟩ |
      ⟨found, s₂, e, failure, s₃, hwalk', he, hfails, hrun'⟩
    · refine .inl ⟨first ++ second, s₂, hwalk.append hwalk', ⟨?_, ?_⟩, ?_⟩
      · exact h.gateRules hgated helements' hverdicts ((hwalk.append hwalk').fields hjudge)
      · rw [List.map_append, helements, helements']
      · rw [List.map_append]
        exact Run.bind_of_ok hrun'
    · refine .inr ⟨first ++ found, s₂, e, failure, s₃, hwalk.append hwalk',
        (List.mem_filter.1 he).1, hfails, ?_⟩
      exact Run.bind_of_error hrun'
  · exact .inr ⟨found, s₁, e, failure, s₂, hwalk, (List.mem_filter.1 he).1, hfails,
      Run.bind_of_error hrun⟩

theorem completes_verdicts (hgated : plan.WellGated)
    (hjudge : ∀ e s r s', judge e s = (.ok r, s') → r.field = e.name) (s : Session) :
    Completes judge (siblingWarnings plan object) plan s (verdicts false judge object plan s)
      (GateRules plan) := by
  rcases completes_verdicts_inOrder hgated hjudge s with ⟨found, s₁, hwalk, ⟨hrules, -⟩, hrun⟩ | hfails
  · exact .inl ⟨found, s₁, hwalk, hrules, hrun⟩
  · exact .inr hfails

end Fields

/-! ## Validations -/

/-- The result of a field has its name. -/
theorem field_of_judge {V : Validator} {inner : Value → Session.Run Result} {q : Request}
    {requested : Option (List String)} {object : Value} {e : Element} {s s' : Session}
    {r : ElementResult} (h : V.judge inner q requested object e s = (.ok r, s')) :
    r.field = e.name := by
  obtain ⟨label, s₁, -, h⟩ := Run.bind_eq_ok h
  obtain ⟨rejections, s₂, -, h⟩ := Run.bind_eq_ok h
  split at h
  · obtain ⟨result, s₃, -, h⟩ := Run.bind_eq_ok h
    cases h
    rfl
  · cases h
    rfl

/-- The plan of a class is well gated, whatever else is kept. -/
theorem wellGated_of_planOf {V : Validator} {c : Class} {s s₁ : Session} {plan : Plan}
    (hheld : s.PlansHave Plans.GatesHeld) (hplan : V.planOf c s = (.ok plan, s₁)) :
    plan.WellGated := by
  have hwarned := V.invariant_gatesHeld.warned s.plans s.warnings hheld
  exact (Plans.gatesHeld_compileType hwarned).2 plan (congrArg Prod.fst hplan)

/-- A validation with elements to look at comes down to the verdicts on them. -/
theorem validate_eq_verdicts {V : Validator} {q : Request} {object : Value} {s s₁ : Session}
    {plan : Plan} {requested : Option (List String)} (hobject : object ≠ .none)
    (hplan : V.planOf object.kind s = (.ok plan, s₁)) (hplan' : plan ≠ [])
    (hgroups : requestedGroups q.groups = .ok requested) :
    V.validate q object s = (do
      let found ← verdicts V.stopsAtFirst
        (V.judge (V.validateWithin q (object.height + 3)) q requested object) object plan
      finish q (.ofVerdicts plan.length found) : Session.Run Result) s₁ := by
  have hlift : (liftM (liftFault (requestedGroups q.groups) : Except Error (Option (List String))) :
      Session.Run (Option (List String))) s₁ = (.ok requested, s₁) := by
    rw [hgroups, Run.lift_eq]
    rfl
  rw [validate, depthFor, validateWithin_succ hobject, validateFields, Run.bind_of_ok hplan,
    if_neg (by simpa using hplan'), Run.bind_of_ok hlift]

/-- Validating an object whose class has been compiled, when nothing may stop early. Every element of the
class is looked at once, the gated ones by the rules for gates, and the result counts the verdicts; unless
judging one of the elements that are to be judged fails, which is then the failure of the whole. -/
theorem validate_gates {V : Validator} {q : Request} {object : Value} {s s₁ : Session} {plan : Plan}
    {requested : Option (List String)} (hmode : V.stopsAtFirst = false)
    (hheld : s.PlansHave Plans.GatesHeld) (hobject : object ≠ .none)
    (hplan : V.planOf object.kind s = (.ok plan, s₁))
    (hgroups : requestedGroups q.groups = .ok requested) :
    let judge := V.judge (V.validateWithin q (object.height + 3)) q requested object
    let warnings := siblingWarnings plan object
    (V.validate q object s).2.PlansHave Plans.GatesHeld ∧
    (plan = [] ∨
      (∃ found s₂, Walk judge warnings s₁ found s₂ ∧ GateRules plan found ∧
        V.validate q object s = finish q (resultOf plan.length found) s₂) ∨
      ∃ found s₂ e failure s₃, Walk judge warnings s₁ found s₂ ∧ e ∈ plan ∧
        judge e (s₂.warned (warnings e)) = (.error failure, s₃) ∧
        V.validate q object s = (.error failure, s₃)) := by
  intro judge warnings
  refine ⟨V.invariant_gatesHeld.validate object s hheld, ?_⟩
  rcases hempty : plan with _ | ⟨first, rest⟩
  · exact .inl rfl
  · rw [← hempty]
    refine .inr ?_
    have hgated := wellGated_of_planOf hheld hplan
    have hrun := validate_eq_verdicts (q := q) hobject hplan (by rw [hempty]; simp) hgroups
    rw [hmode] at hrun
    have hverdicts : Completes judge warnings plan s₁ (verdicts false judge object plan s₁)
        (GateRules plan) := completes_verdicts hgated (fun e s r s' => field_of_judge) s₁
    rcases hverdicts with
      ⟨found, s₂, hwalk, hrules, hverdicts⟩ | ⟨found, s₂, e, failure, s₃, hwalk, he, hfails, hverdicts⟩
    · refine .inl ⟨found, s₂, hwalk, hrules, ?_⟩
      rw [hrun, Run.bind_of_ok hverdicts, ofVerdicts_eq_resultOf]
    · refine .inr ⟨found, s₂, e, failure, s₃, hwalk, he, hfails, ?_⟩
      rw [hrun, Run.bind_of_error hverdicts]

/-! ## A form with two gates -/

/-- A form whose code is asked for if the phone number and the fax number are good, and whose city is asked
for if there is no phone number. There is no fax number. -/
def form : ClassDeclaration where
  declared := ⟨⟨"models", "Form"⟩, []⟩
  annotations :=
    [("code", .annotated (.classRef .string)
      [.constraint { name := "required" }, .gate { fields := ["phone", "fax"] }]),
     ("city", .annotated (.classRef .string)
      [.constraint { name := "required" }, .gate { fields := ["phone"], outcome := .rejected }]),
     ("phone", .annotated (.classRef .string) [.constraint { name := "required" }])]

/-- A validator that knows the form. -/
def formValidator : Validator where
  sources := { declarations := { classes := [form] } }

/-- A form that has not been filled in. -/
def blankForm : Value := .obj form.declared [] [("phone", .none)]

theorem validate_gates_blankForm : ∃ plan s₁,
    formValidator.planOf blankForm.kind {} = (.ok plan, s₁) ∧
    plan.map Element.name = ["code", "city", "phone"] ∧
    ((∃ found s₂, GateRules plan found ∧
        formValidator.validate {} blankForm {} = finish {} (resultOf 3 found) s₂) ∨
      ∃ failure s₃, formValidator.validate {} blankForm {} = (.error failure, s₃)) := by
  have hmode : formValidator.stopsAtFirst = false := rfl
  have hheld : Session.PlansHave Plans.GatesHeld {} := Held.empty
  have hobject : blankForm ≠ .none := nofun
  have hgroups : requestedGroups ({} : Request).groups = .ok none := rfl
  refine ⟨_, _, rfl, rfl, ?_⟩
  rcases (validate_gates hmode hheld hobject rfl hgroups).2 with
    hempty | ⟨found, s₂, -, hrules, hrun⟩ | ⟨found, s₂, e, failure, s₃, -, -, -, hrun⟩
  · cases hempty
  · exact .inl ⟨found, s₂, hrules, hrun⟩
  · exact .inr ⟨failure, s₃, hrun⟩

end Validator

end FieldRules
