import FieldRules.Handler.Dispatch
import Mathlib.Tactic.Common

/-!
# Verdicts

Whether a value passes a fragment, whatever else is said about it. The dispatch to a handler that applies makes no
difference to its verdict, and other values pass (`Dispatch.verdict?_run`).
-/

namespace FieldRules

/-- Whether a decision lets a value pass, nothing if it fails or asks about a sibling field. -/
def Check.verdict? : Check Finding → Option Bool
  | .done found => some found.passed
  | .fail _ => none
  | .warn _ next => next.verdict?
  | .sibling .. => none
  | .siblingLabel .. => none

namespace Check

variable {α β : Type}

/-- Work that has been done with a result is followed by what is done with that. -/
theorem liftM_ok_bind (a : α) (next : α → Check β) :
    (liftM (.ok a : Except Error α) : Check α) >>= next = next a := rfl

theorem liftM_fault_ok_bind (a : α) (next : α → Check β) :
    (liftM (.ok a : Except Fault α) : Check α) >>= next = next a := rfl

/-- What is done with a finding that leaves the verdict as it is does not matter to it. -/
theorem verdict?_bind_of_passed {c : Check Finding} {next : Finding → Check Finding}
    (hnext : ∀ found, (next found).verdict? = some found.passed) : (c >>= next).verdict? = c.verdict? := by
  -- A question about a sibling field has no verdict, whatever comes after it.
  induction c with
  | done found => exact hnext found
  | fail e => rfl
  | warn w c ih => exact ih
  | sibling name c _ => rfl
  | siblingLabel name c _ => rfl

/-- A condition that has been worked out is the verdict. -/
theorem verdict?_lift (r : Except Error Bool) {next : Bool → Check Finding}
    (hnext : ∀ b, (next b).verdict? = some b) : ((liftM r : Check Bool) >>= next).verdict? = r.toOption := by
  cases r with
  | error e => rfl
  | ok b => exact hnext b

end Check

namespace Handler

theorem verdict?_acceptIf (condition : Bool) (ctx : Context) (f : Fragment) (variant? : Option String) :
    (acceptIf condition ctx f variant?).verdict? = some condition := by
  cases condition <;> rfl

end Handler

namespace Dispatch

variable {r : Registry} {h : Handler} {f : Fragment}

theorem verdict?_decideBy {v : Value} (hv : v.isPresent = true) (ctx : Context) :
    (decideBy h v f ctx).verdict? = (h.check v f ctx).verdict? := by
  have hsame : decideBy h v f ctx = h.check v f ctx >>= fun found =>
      if found.passed then return found else return { found with keys := rejectionKeys h f ctx found.keys } := by
    cases v <;> first | rfl | cases hv
  rw [hsame]
  refine Check.verdict?_bind_of_passed fun found => ?_
  split <;> rfl

/-- A handler that does not require a value decides about values that are there and that it supports, and lets the
other ones pass. -/
theorem verdict?_run (hfind : r.find? f.name = some h) (harity : h.arity.violation? f.name f.arguments.length = none)
    (hrequired : h.required = false) (l : Leniency) (v : Value) (ctx : Context) :
    (run r l v f ctx).verdict?
      = if v.isPresent && h.supports v.kind then (h.check v f ctx).verdict? else some true := by
  rw [run, hfind]
  cases hpresent : v.isPresent with
  | false =>
    obtain rfl : v = .none := by
      cases v with
      | none => rfl
      | _ => cases hpresent
    dsimp only
    rw [harity]
    unfold decideBy
    rw [hrequired]
    rfl
  | true =>
    cases hsupports : h.supports v.kind with
    | false =>
      dsimp only
      rw [hsupports, Bool.not_false, Bool.and_self, if_pos rfl]
      unfold skip
      split <;> rfl
    | true =>
      dsimp only
      rw [hsupports, harity]
      exact verdict?_decideBy hpresent ctx

end Dispatch

end FieldRules
