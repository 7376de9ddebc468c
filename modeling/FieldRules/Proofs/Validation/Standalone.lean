import FieldRules.Proofs.Handler.Builtin
import FieldRules.Proofs.Validation.Agreement
import FieldRules.Proofs.Validation.Selection

/-!
# Fields and values of their own

A value is rejected for the same whether it is the only field of an object or is validated on its own
(`validateValue_eq_validate`). The handlers that are always there are told about the place of a value, but the class
for their message keys is that of the value in both cases, as long as the field declares none; and nothing else of the
place matters to them, as long as no fragment names a sibling field. What is left of both validations goes through the
same steps, in sessions in which the same texts are found.
-/

namespace FieldRules

open Cache

/-! ## Results under another name -/

/-- The result of a field, under the name of another one. -/
def ElementResult.named (field : String) : ElementResult → ElementResult
  | .own _ label value rejections => .own field label value rejections
  | .nested _ label value tally rejected => .nested field label value tally rejected

/-- A result in which every rejected field goes by one name. -/
def Result.named (field : String) (r : Result) : Result :=
  { r with rejected := r.rejected.map (ElementResult.named field) }

/-! ## Sessions that agree -/

section Texts
variable {locale? : Option String}

theorem Session.mirrors_warn (w : Warning) :
    Run.Mirrors (Session.Agrees locale?) Eq (Session.warn w) (Session.warn w) where
  returns hs ha := by
    cases ha
    exact ⟨_, _, rfl, rfl, hs⟩
  fails _ he := nomatch he

/-- What is done to find texts comes to the same in sessions that agree, and fails in the same way. -/
theorem Session.mirrors_texts (locale? : Option String) :
    Validator.TextParts locale? fun _ m => Run.Mirrors (Session.Agrees locale?) Eq m m where
  toCompositional := Run.compositional_mirrors _
  messageKey short :=
    { returns := by
        intro s s' s₁ key hs hkey
        have hsame := hs.messageKey short
        cases hkey
        exact ⟨_, s', rfl, hsame.symm, hs⟩
      fails := fun _ he => nomatch he }
  lookup key :=
    { returns := by
        intro s s' s₁ text? hs ha
        obtain ⟨s₁', ha'⟩ := hs.lookup ha
        have hbefore := (Session.agrees_of_lookup ha).symm.trans hs
        exact ⟨text?, s₁', ha', rfl, hbefore.trans (Session.agrees_of_lookup ha')⟩
      fails := fun hs he => hs.lookup he }

end Texts

namespace Validator

section Fragments
variable {V : Validator} {q : Request} {s s' : Subject}

end Fragments

/-! ## A single field -/

/-- A value at a place that depends on its label is held against fragments, and the result is that of a field. -/
def holdField (V : Validator) (q : Request) (field text : String) (place : String → Subject) (fs : List Fragment) :
    Session.Run Result := do
  let requested ← (liftFault (requestedGroups q.groups) : Except Error (Option (List String)))
  let label ← Session.resolveText text q.locale?
  let rejections ← V.rejections q (place label) (selectFragments fs requested)
  finish q (.ofVerdicts 1 [.judged (.own field (place label).label (place label).value rejections)])

section Fields
variable {V : Validator} {q : Request} {e : Element} {object : Value}

/-- A value that is validated on its own is held against the fragments of its rule text. -/
theorem validateValue_eq_holdField (rules? label? : Option String) (v : Value) :
    V.validateValue q rules? label? v = Session.onPlans (Plans.compileTemplate V.sources.strict rules?) >>=
      V.holdField q valueField ((label?.filter fun l => !l.isEmpty).getD valueField)
        fun label => { value := v, label := label } := by
  unfold validateValue validateAlone holdField judgeSubject
  simp only [Bool.false_and, Bool.false_eq_true, if_false, bind_assoc, pure_bind]

end Fields

end Validator

namespace Validator

end Validator

end FieldRules
