import FieldRules.Proofs.Cache.Quiet

/-!
# What caches hold

A property that every result has when it is computed is a property of every result that a cache holds,
whatever else goes on: computations that run at the same time, that fail, or that empty the cache.
-/

namespace FieldRules.Cache

variable {σ κ ε α : Type} [BEq κ]

/-- Every result in the cache has the property. -/
def Held (P : α → Prop) (c : Cache κ α) : Prop :=
  ∀ p ∈ c.entries, ∀ v, p.2 = .done v → P v

section Held
variable {P : α → Prop} {c : Cache κ α} {key : κ} {ticket : Nat}

omit [BEq κ] in
theorem Held.empty : Held P ({} : Cache κ α) := fun _ hp => nomatch hp

theorem Held.find? [LawfulBEq κ] (h : Held P c) {v : α} (hv : c.find? key = some (.done v)) : P v := by
  obtain ⟨before, after, heq, -⟩ := List.lookup_eq_some_iff.1 hv
  exact h (key, .done v) (heq ▸ by simp) v rfl

omit [BEq κ] in
theorem Held.start (h : Held P c) : Held P (c.start key) := by
  intro p hp v hv
  rcases List.mem_append.1 hp with hp | hp
  · exact h p hp v hv
  · rw [List.mem_singleton.1 hp] at hv
    cases hv

theorem Held.finish (h : Held P c) {v : α} (hv : P v) : Held P (c.finish key ticket v) := by
  unfold Cache.finish
  split
  · intro p hp w hw
    obtain ⟨q, hq, rfl⟩ := List.mem_map.1 hp
    dsimp only at hw
    split at hw
    · cases hw
      exact hv
    · exact h q hq w hw
  · exact h

theorem Held.abandon (h : Held P c) : Held P (c.abandon key ticket) := by
  unfold Cache.abandon
  split
  · exact fun p hp => h p (List.mem_filter.1 hp).1
  · exact h

end Held

section Slots
variable {slot : Slot σ κ α} {key : κ} {compute : Run σ ε α} {refusal stall : ε}

/-- A request leaves alone what neither the computation nor a change of the cache touches. -/
theorem Run.Keeps.getOrCompute {I : σ → Prop} (hI : ∀ c s, I s → I (slot.set c s))
    (hcompute : Run.Keeps I compute) :
    Run.Keeps I (Cache.getOrCompute slot refusal key compute stall) := by
  intro s hs
  unfold Cache.getOrCompute
  cases hfind : (slot.get s).find? key with
  | some e =>
    dsimp only
    split
    · exact hs
    · cases e <;> exact hs
  | none =>
    have hstart := hcompute _ (hI ((slot.get s).start key) s hs)
    dsimp only [Slot.modify]
    rcases hrun : compute (slot.set ((slot.get s).start key) s) with ⟨e | v, s'⟩ <;>
      rw [hrun] at hstart <;> exact hI _ _ hstart

/-- A request gives a result with the property, if the computation does, and keeps it. -/
theorem Held.getOrCompute [LawfulBEq κ] {P : α → Prop}
    (hslot : slot.Lawful)
    (hcompute : ∀ s, Held P (slot.get s) →
      Held P (slot.get (compute s).2) ∧ ∀ v, (compute s).1 = .ok v → P v)
    {s : σ} (h : Held P (slot.get s)) :
    Held P (slot.get (Cache.getOrCompute slot refusal key compute stall s).2) ∧
      ∀ v, (Cache.getOrCompute slot refusal key compute stall s).1 = .ok v → P v := by
  unfold Cache.getOrCompute
  cases hfind : (slot.get s).find? key with
  | some e =>
    dsimp only
    split
    · exact ⟨h, fun v hv => nomatch hv⟩
    · cases e with
      | running t => exact ⟨h, fun v hv => nomatch hv⟩
      | done w =>
        refine ⟨h, fun v hv => ?_⟩
        cases hv
        exact h.find? hfind
  | none =>
    -- the computation runs with the entry marked as running, which is none of the results that are held
    have hstart : Held P (slot.get (slot.set ((slot.get s).start key) s)) := by
      rw [hslot]
      exact h.start
    obtain ⟨hheld, hresult⟩ := hcompute _ hstart
    dsimp only [Slot.modify]
    rcases hrun : compute (slot.set ((slot.get s).start key) s) with ⟨e | v, s'⟩ <;>
      rw [hrun] at hheld hresult
    · refine ⟨?_, fun v hv => nomatch hv⟩
      dsimp only
      rw [hslot]
      exact hheld.abandon
    · refine ⟨?_, fun w hw => ?_⟩
      · dsimp only
        rw [hslot]
        exact hheld.finish (hresult v rfl)
      · cases hw
        exact hresult v rfl

end Slots

end FieldRules.Cache
