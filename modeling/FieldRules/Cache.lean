/-!
# Caches

A cache keeps the results of computations under keys. A computation may use the cache it runs for: it
may ask for other keys, empty the cache, or ask for the key that is being computed, which is refused. A
computation that fails leaves nothing behind. One that was running when the cache was emptied still
gives its result, but the result is not kept.

Beside its entries a cache knows which keys are being computed by whoever uses it. An entry that has no
result yet and is computed by nobody could only be waited for, without end.
-/

namespace FieldRules

/-- What a cache holds under a key: a computation that is running, known by a ticket, or its result. -/
inductive Cache.Entry (α : Type) where
  | running (ticket : Nat)
  | done (value : α)

/-- Results of computations under keys, and the keys that are being computed. Every computation gets a
ticket of its own. -/
structure Cache (κ α : Type) where
  entries : List (κ × Cache.Entry α) := []
  owned : List κ := []
  tickets : Nat := 0

instance {κ α : Type} : Inhabited (Cache κ α) := ⟨{}⟩

namespace Cache

variable {κ α : Type} [BEq κ]

/-- What is held under a key. -/
def find? (c : Cache κ α) (key : κ) : Option (Entry α) :=
  c.entries.lookup key

/-- Whether there is a result under a key. -/
def contains (c : Cache κ α) (key : κ) : Bool :=
  match c.find? key with
  | some (.done _) => true
  | _ => false

omit [BEq κ] in
/-- How many keys there are, those of running computations among them. -/
def size (c : Cache κ α) : Nat :=
  c.entries.length

omit [BEq κ] in
/-- Forgets everything. -/
def clear (c : Cache κ α) : Cache κ α :=
  { c with entries := [], owned := [] }

omit [BEq κ] in
/-- Starts a computation for a key that is not held. -/
def start (c : Cache κ α) (key : κ) : Cache κ α :=
  { entries := c.entries ++ [(key, .running c.tickets)], owned := key :: c.owned,
    tickets := c.tickets + 1 }

/-- Whether the computation with the ticket is running for the key. -/
def isLive (c : Cache κ α) (key : κ) (ticket : Nat) : Bool :=
  match c.find? key with
  | some (.running t) => t == ticket
  | _ => false

/-- The keys that are being computed, without one of them. -/
def release (c : Cache κ α) (key : κ) : List κ :=
  c.owned.filter fun k => !(k == key)

/-- Keeps the result of a computation, unless the cache has been emptied since it started. -/
def finish (c : Cache κ α) (key : κ) (ticket : Nat) (value : α) : Cache κ α :=
  if c.isLive key ticket then
    { c with
      entries := c.entries.map fun (k, e) => if k == key then (k, .done value) else (k, e)
      owned := c.release key }
  else c

/-- Forgets a computation that has failed, unless the cache has been emptied since it started. -/
def abandon (c : Cache κ α) (key : κ) (ticket : Nat) : Cache κ α :=
  if c.isLive key ticket then
    { c with
      entries := c.entries.filter fun (k, _) => !(k == key)
      owned := c.release key }
  else c

/-- Where a state keeps a cache. -/
structure Slot (σ κ α : Type) where
  get : σ → Cache κ α
  set : Cache κ α → σ → σ

/-- A computation that may fail and works on a state, which outlives the failure. -/
abbrev Run (σ ε α : Type) := ExceptT ε (StateM σ) α

/-- Changes the cache in a slot. -/
def Slot.modify {σ : Type} (slot : Slot σ κ α) (f : Cache κ α → Cache κ α) (s : σ) : σ :=
  slot.set (f (slot.get s)) s

/-- The result under a key, computed if there is none. `refusal` is reported if the key is being
computed by whoever asks for it, `stall` instead of a wait that would not end. -/
def getOrCompute {σ ε : Type} (slot : Slot σ κ α) (refusal : ε) (key : κ) (compute : Run σ ε α)
    (stall : ε := refusal) : Run σ ε α := fun s =>
  match (slot.get s).find? key with
  | some e =>
    -- Whoever asks is computing this key further out and would wait for its own result.
    if (slot.get s).owned.contains key then (.error refusal, s)
    else match e with
      | .done v => (.ok v, s)
      | .running _ => (.error stall, s)
  | none =>
    -- The computation may empty the cache and start on the same key anew, so that what it finds under
    -- the key at its end need not be its own entry.
    let ticket := (slot.get s).tickets
    match compute (slot.modify (fun c => c.start key) s) with
    | (.ok v, s) => (.ok v, slot.modify (fun c => c.finish key ticket v) s)
    | (.error e, s) => (.error e, slot.modify (fun c => c.abandon key ticket) s)

end Cache

end FieldRules
