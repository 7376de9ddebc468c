import FieldRules.Proofs.Plan.Gated
import FieldRules.Proofs.Validation.Parts

/-!
# What validations keep

A validation changes the compiled plans by compiling classes and in no other way. So it keeps whatever
compiling a class keeps (`Validator.Invariant.validate`), whether it comes to a result or not; that every plan
is well gated is such an invariant.
-/

namespace FieldRules

open Cache

/-- An invariant of the compiled plans that compiling a class keeps; it does not look at warnings. -/
structure Validator.Invariant (V : Validator) (I : Plans → Prop) : Prop where
  warned : ∀ p warnings, I p → I { p with warnings := warnings }
  compiled : ∀ c, Run.Keeps I (Plans.compileType V.sources c)

theorem Validator.invariant_gatesHeld (V : Validator) : V.Invariant Plans.GatesHeld where
  warned _ _ h := h
  compiled _ _ h := (Plans.gatesHeld_compileType h).1

/-- The plans of a session have the property. -/
def Session.PlansHave (I : Plans → Prop) (s : Session) : Prop :=
  I s.plans

namespace Validator

open Session

variable {V : Validator} {I : Plans → Prop} {q : Request}

/-- Warnings and messages leave the plans alone, and compiling a class keeps the invariant. -/
theorem Invariant.parts (h : V.Invariant I) :
    V.Parts q.locale? fun _ m => Run.Keeps (PlansHave I) m where
  toCompositional := Run.compositional_keeps (PlansHave I)
  messageKey _ _ hs := hs
  lookup _ _ hs := hs
  warn _ _ hs := hs
  planOf c s hs := h.warned _ [] (h.compiled c _ (h.warned s.plans s.warnings hs))

/-- A validation keeps what compiling a class keeps. -/
theorem Invariant.validate (h : V.Invariant I) (object : Value) :
    Run.Keeps (PlansHave I) (V.validate q object) :=
  h.parts.validate object

end Validator

end FieldRules
