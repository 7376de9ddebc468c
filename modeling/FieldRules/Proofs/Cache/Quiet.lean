import FieldRules.Proofs.Run

/-!
# Caches between computations

A cache in which nothing is running holds results only. Asking it for a key whose computation leaves it
alone gives the result that is kept, or else what the computation gives by itself, and at most adds that
result. So a cache whose results are right for their keys cannot be told from no cache at all.
-/

namespace FieldRules.Cache

variable {σ κ ε α : Type} [BEq κ]

/-- The cache in a slot is the one that was put there last. -/
def Slot.Lawful (slot : Slot σ κ α) : Prop :=
  ∀ c s, slot.get (slot.set c s) = c

/-- Nothing is running, and every result is the right one for its key. -/
structure Holds (good : κ → Except ε α) (c : Cache κ α) : Prop where
  unowned : c.owned = []
  done : ∀ p ∈ c.entries, ∃ v, p.2 = .done v ∧ good p.1 = .ok v

/-- The result that is kept under a key. -/
def kept? (c : Cache κ α) (key : κ) : Option α :=
  match c.find? key with
  | some (.done v) => some v
  | _ => none

/-- The result that is kept under a key, or else the one that is new. -/
def keptOr (c : Cache κ α) (new : κ → Except ε α) (key : κ) : Except ε α :=
  match c.kept? key with
  | some v => .ok v
  | none => new key

/-- Nothing is running, and every entry is the result that is kept under its key. -/
structure Idle (c : Cache κ α) : Prop where
  unowned : c.owned = []
  done : ∀ p ∈ c.entries, ∃ v, p.2 = .done v ∧ c.kept? p.1 = some v

/-- The cache with the outcome of a computation for a key, unless there was a result before. -/
def remember (c : Cache κ α) (key : κ) (r : Except ε α) : Cache κ α :=
  match c.find? key, r with
  | none, .ok v => { c with entries := c.entries ++ [(key, .done v)], tickets := c.tickets + 1 }
  | none, .error _ => { c with tickets := c.tickets + 1 }
  | some _, _ => c

omit [BEq κ] in
theorem Holds.empty (good : κ → Except ε α) : Holds good {} where
  unowned := rfl
  done := by simp

section Lawful
variable [LawfulBEq κ] {c : Cache κ α} {good : κ → Except ε α} {key : κ}

theorem find?_isSome : (c.find? key).isSome ↔ key ∈ c.entries.map Prod.fst := by
  rw [← Option.ne_none_iff_isSome, Ne, Cache.find?, List.lookup_eq_none_iff, List.mem_map]
  constructor
  · intro h
    simp only [not_forall] at h
    obtain ⟨q, hq, hkey⟩ := h
    simp only [bne_iff_ne, ne_eq, not_not] at hkey
    exact ⟨q, hq, hkey.symm⟩
  · rintro ⟨q, hq, rfl⟩ h
    simpa using h q hq

omit [LawfulBEq κ] in
theorem Holds.remember (h : Holds good c) (key : κ) : Holds good (c.remember key (good key)) := by
  unfold Cache.remember
  split
  · next v _ hgood =>
    refine ⟨h.unowned, ?_⟩
    intro p hp
    rcases List.mem_append.1 hp with hp | hp
    · exact h.done p hp
    · rw [List.mem_singleton.1 hp]
      exact ⟨v, rfl, hgood⟩
  · exact ⟨h.unowned, h.done⟩
  · exact h

/-- What is found under a key is the right result for it. -/
theorem Holds.find? (h : Holds good c) {e : Entry α} (he : c.find? key = some e) :
    ∃ v, e = .done v ∧ good key = .ok v := by
  obtain ⟨before, after, heq, -⟩ := List.lookup_eq_some_iff.1 he
  exact h.done (key, e) (heq ▸ by simp)

theorem Holds.find?_eq (h : Holds good c) (key : κ) : c.find? key = (c.kept? key).map .done := by
  unfold kept?
  cases hfind : c.find? key with
  | none => rfl
  | some e =>
    obtain ⟨v, rfl, -⟩ := h.find? hfind
    rfl

/-- What is kept under a key is the right result for it. -/
theorem Holds.kept? (h : Holds good c) {v : α} (hv : c.kept? key = some v) : good key = .ok v := by
  have hfind := h.find?_eq key
  rw [hv] at hfind
  obtain ⟨w, hw, hgood⟩ := h.find? hfind
  cases hw
  exact hgood

/-- In such a cache every key that is there has a result. -/
theorem Holds.contains_iff (h : Holds good c) : c.contains key = true ↔ key ∈ c.entries.map Prod.fst := by
  rw [← find?_isSome, Cache.contains]
  cases hfind : c.find? key with
  | none => simp
  | some e =>
    obtain ⟨v, rfl, -⟩ := h.find? hfind
    simp

theorem Holds.idle (h : Holds good c) : Idle c := by
  refine ⟨h.unowned, fun p hp => ?_⟩
  obtain ⟨v, hv, hgood⟩ := h.done p hp
  refine ⟨v, hv, ?_⟩
  -- something is kept under the key, and it is right for the key as well
  cases hkept : c.kept? p.1 with
  | none =>
    have hfind := h.find?_eq p.1
    rw [hkept] at hfind
    have hne := List.lookup_eq_none_iff.1 hfind p hp
    simp at hne
  | some w =>
    have hw := h.kept? hkept
    rw [hgood] at hw
    cases hw
    rfl

omit [LawfulBEq κ] in
/-- In a cache in which nothing is running the results are right, if what is kept counts as right. -/
theorem Idle.holds (h : Idle c) (new : κ → Except ε α) : Holds (c.keptOr new) c := by
  refine ⟨h.unowned, fun p hp => ?_⟩
  obtain ⟨v, hv, hkept⟩ := h.done p hp
  exact ⟨v, hv, by rw [keptOr, hkept]⟩

omit [LawfulBEq κ] in
/-- What is kept is not forgotten by remembering something else. -/
theorem kept?_remember {v : α} (h : c.kept? key = some v) (other : κ) (r : Except ε α) :
    (c.remember other r).kept? key = some v := by
  unfold Cache.remember
  split
  · unfold Cache.kept? Cache.find? at h ⊢
    rw [List.lookup_append]
    cases hfind : c.entries.lookup key with
    | none => simp [hfind] at h
    | some e => simpa [hfind] using h
  · exact h
  · exact h

/-- The keys after an outcome has been remembered: those of before, and the new one unless it has failed. -/
theorem mem_keys_remember {r : Except ε α} {k : κ} :
    k ∈ (c.remember key r).entries.map Prod.fst ↔
      k ∈ c.entries.map Prod.fst ∨ k = key ∧ ∃ v, r = .ok v := by
  unfold Cache.remember
  cases hfind : c.find? key with
  | none =>
    cases r with
    | ok v => simp
    | error e => simp
  | some e =>
    have hmem : key ∈ c.entries.map Prod.fst := by
      rw [← find?_isSome, hfind]
      rfl
    dsimp only
    constructor
    · exact .inl
    · rintro (hk | ⟨rfl, -⟩)
      · exact hk
      · exact hmem

omit [LawfulBEq κ] in
theorem entries_ne {c : Cache κ α} {key : κ} (hfree : c.find? key = none) :
    ∀ p ∈ c.entries, (key == p.1) = false := by
  intro p hp
  have h := List.lookup_eq_none_iff.1 hfree p hp
  rw [bne, Bool.not_eq_true'] at h
  exact h

theorem isLive_start (hfree : c.find? key = none) : (c.start key).isLive key c.tickets = true := by
  have hfind : (c.start key).find? key = some (.running c.tickets) := by
    show List.lookup key (c.entries ++ [(key, .running c.tickets)]) = _
    rw [List.lookup_append, show c.entries.lookup key = none from hfree]
    simp
  simp [isLive, hfind]

/-- A computation that ends in the cache in which it was started leaves its result there. -/
theorem finish_start (h : c.owned = []) (hfree : c.find? key = none) (v : α) :
    (c.start key).finish key c.tickets v = c.remember key (.ok v : Except ε α) := by
  rw [finish, isLive_start hfree, if_pos rfl]
  simp only [Cache.remember, hfree, start, release, h, List.map_append, List.map_cons, List.map_nil,
    BEq.rfl, if_true, List.filter_cons, List.filter_nil, Bool.not_true, Bool.false_eq_true, if_false]
  congr 2
  refine (List.map_congr_left fun p hp => ?_).trans (List.map_id _)
  rw [BEq.comm, entries_ne hfree p hp]
  rfl

theorem abandon_start (h : c.owned = []) (hfree : c.find? key = none) (e : ε) :
    (c.start key).abandon key c.tickets = c.remember key (.error e : Except ε α) := by
  rw [abandon, isLive_start hfree, if_pos rfl]
  simp only [Cache.remember, hfree, start, release, h, List.filter_append, List.filter_cons,
    List.filter_nil, BEq.rfl, Bool.not_true, Bool.false_eq_true, if_false, List.append_nil]
  congr 1
  rw [List.filter_eq_self]
  intro p hp
  rw [BEq.comm, entries_ne hfree p hp]
  rfl

/-- A request to such a cache has the outcome that is right for the key, whether it is computed or not,
and the cache remembers it. The computation may use anything but the cache itself; it matters only if nothing
is kept under the key. -/
theorem Holds.getOrCompute (slot : Slot σ κ α) (key : κ) (hslot : slot.Lawful) {J : σ → Prop}
    (hJ : ∀ c s, J s → J (slot.set c s)) (compute : Run σ ε α) {s : σ}
    (hcompute : (slot.get s).kept? key = none →
      ∀ c, Run.Yields (fun s => J s ∧ slot.get s = c) compute (good key))
    (h : Holds good (slot.get s)) (hs : J s) (refusal stall : ε) :
    ∃ s', Cache.getOrCompute slot refusal key compute stall s = (good key, s') ∧ J s' ∧
      slot.get s' = (slot.get s).remember key (good key) := by
  unfold Cache.getOrCompute
  cases hfind : (slot.get s).find? key with
  | some e =>
    obtain ⟨v, rfl, hgood⟩ := h.find? hfind
    refine ⟨s, ?_, hs, ?_⟩
    · simp [h.unowned, hgood]
    · simp only [Cache.remember, hfind]
  | none =>
    have hstart : J (slot.modify (fun c => c.start key) s) ∧
        slot.get (slot.modify (fun c => c.start key) s) = (slot.get s).start key :=
      ⟨hJ _ _ hs, hslot _ _⟩
    have hkept : (slot.get s).kept? key = none := by rw [Cache.kept?, hfind]
    obtain ⟨houtcome, hJ', hget⟩ := hcompute hkept _ _ hstart
    -- the computation leaves the cache as it found it, so that the entry it ends is its own
    rcases hrun : compute (slot.modify (fun c => c.start key) s) with ⟨e | v, s'⟩ <;>
      rw [hrun] at houtcome hJ' hget
    · refine ⟨slot.modify (fun c => c.abandon key (slot.get s).tickets) s', ?_, hJ _ _ hJ', ?_⟩
      · rw [← houtcome]
      · rw [Slot.modify, hslot, hget, ← houtcome]
        exact abandon_start h.unowned hfind e
    · refine ⟨slot.modify (fun c => c.finish key (slot.get s).tickets v) s', ?_, hJ _ _ hJ', ?_⟩
      · rw [← houtcome]
      · rw [Slot.modify, hslot, hget, ← houtcome]
        exact finish_start h.unowned hfind v

/-- A request to such a cache cannot be told from the computation by itself. -/
theorem yields_getOrCompute (slot : Slot σ κ α) (hslot : slot.Lawful) {J : σ → Prop}
    (hJ : ∀ c s, J s → J (slot.set c s)) {compute : Run σ ε α}
    (hcompute : ∀ c, Run.Yields (fun s => J s ∧ slot.get s = c) compute (good key))
    (refusal stall : ε) :
    Run.Yields (fun s => J s ∧ Holds good (slot.get s))
      (Cache.getOrCompute slot refusal key compute stall) (good key) := by
  intro s hs
  obtain ⟨s', hrun, hJ', hget⟩ :=
    hs.2.getOrCompute slot key hslot hJ compute (fun _ => hcompute) hs.1 refusal stall
  rw [hrun]
  exact ⟨rfl, hJ', hget ▸ hs.2.remember key⟩

end Lawful

end FieldRules.Cache
