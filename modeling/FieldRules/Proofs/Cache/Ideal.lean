import FieldRules.Cache

/-!
# Scripts and the ideal cache

A script is all that a user can do with a cache: ask for a key with a computation that is a script in its
turn, look what is there, empty the cache, and go on with whatever comes back, an error or a result.

Two things live here:

* `Script.run`, the script on the cache of `FieldRules.Cache`, with its entries, owned keys and tickets;
* `Script.runIdeal`, the script on an ideal cache, which knows the results that are kept and the stack of
  computations that have been started, each of them live until the cache is emptied.
-/

namespace FieldRules.Cache

/-- What a user does with a cache that keeps values of type `α`, beside a memory of type `τ` that the
computations share. -/
inductive Script (κ ε α τ : Type) where
  | halt (r : Except ε α)
  | get (key : κ) (compute : Script κ ε α τ) (next : Except ε α → Script κ ε α τ)
  | contains (key : κ) (next : Bool → Script κ ε α τ)
  | size (next : Nat → Script κ ε α τ)
  | clear (next : Script κ ε α τ)
  | read (next : τ → Script κ ε α τ)
  | write (t : τ) (next : Script κ ε α τ)

variable {κ ε α τ : Type} [BEq κ]

/-- The cache beside a memory. -/
def Slot.beside : Slot (Cache κ α × τ) κ α where
  get := Prod.fst
  set c s := (c, s.2)

/-- A script on a cache. `refusal` is what a user is told who asks for a key that is being computed,
`stall` stands for a wait without end. -/
def Script.run (refusal : κ → ε) (stall : ε) : Script κ ε α τ → Run (Cache κ α × τ) ε α
  | halt r => fun s => (r, s)
  | get key compute next => fun s =>
    let (r, s) := getOrCompute Slot.beside (refusal key) key (compute.run refusal stall) stall s
    (next r).run refusal stall s
  | contains key next => fun s => (next (s.1.contains key)).run refusal stall s
  | size next => fun s => (next s.1.size).run refusal stall s
  | clear next => fun s => next.run refusal stall (s.1.clear, s.2)
  | read next => fun s => (next s.2).run refusal stall s
  | write t next => fun s => next.run refusal stall (s.1, t)

/-! ## The ideal cache -/

/-- A computation that has been started and has not come to its end. It is live until the cache is
emptied. -/
structure Opened (κ : Type) where
  key : κ
  live : Bool

/-- The results that are kept, and the computations that are open, the innermost first. -/
structure Ideal (κ α : Type) where
  kept : List (κ × α) := []
  opened : List (Opened κ) := []

namespace Ideal

/-- Whether there is a live computation for a key. -/
def isRunning (m : Ideal κ α) (key : κ) : Bool :=
  m.opened.any fun o => o.live && key == o.key

omit [BEq κ] in
/-- How many results are kept and how many computations are live. -/
def size (m : Ideal κ α) : Nat :=
  m.kept.length + m.opened.countP Opened.live

omit [BEq κ] in
/-- Forgets the results; no computation is live any more. -/
def clear (m : Ideal κ α) : Ideal κ α where
  kept := []
  opened := m.opened.map fun o => { o with live := false }

omit [BEq κ] in
/-- Starts a computation. -/
def start (m : Ideal κ α) (key : κ) : Ideal κ α :=
  { m with opened := ⟨key, true⟩ :: m.opened }

omit [BEq κ] in
/-- Ends the innermost computation. Its result is kept if it is live; an error is not kept. -/
def close (m : Ideal κ α) (r : Except ε α) : Ideal κ α :=
  match m.opened, r with
  | ⟨key, true⟩ :: rest, .ok v => { kept := m.kept ++ [(key, v)], opened := rest }
  | opened, _ => { m with opened := opened.tail }

end Ideal

/-- A script on an ideal cache. -/
def Script.runIdeal (refusal : κ → ε) :
    Script κ ε α τ → Ideal κ α × τ → Except ε α × (Ideal κ α × τ)
  | halt r, s => (r, s)
  | get key compute next, (m, t) =>
    match m.kept.lookup key with
    | some v => (next (.ok v)).runIdeal refusal (m, t)
    | none =>
      if m.isRunning key then (next (.error (refusal key))).runIdeal refusal (m, t)
      else
        let (r, (m, t)) := compute.runIdeal refusal (m.start key, t)
        (next r).runIdeal refusal (m.close r, t)
  | contains key next, (m, t) => (next (m.kept.lookup key).isSome).runIdeal refusal (m, t)
  | size next, (m, t) => (next m.size).runIdeal refusal (m, t)
  | clear next, (m, t) => next.runIdeal refusal (m.clear, t)
  | read next, (m, t) => (next t).runIdeal refusal (m, t)
  | write t next, (m, _) => next.runIdeal refusal (m, t)

end FieldRules.Cache
