import FieldRules.Proofs.Cache.Ideal
import FieldRules.Proofs.Entries

/-!
# A cache is the ideal cache

The entries of a cache are, up to their order, the results that the ideal cache keeps and its live
computations; the owned keys are those of the live computations. `Coupled` says so, with the tickets of
all open computations beside them. Every operation keeps it, and so does every script, by induction on the
script: a nested computation gives the stack back as it found it, except that an emptied cache has left no
computation of it live.
-/

namespace FieldRules.Cache

variable {κ ε α τ : Type} [BEq κ]

/-! ## Coupled caches -/

/-- An open computation with the ticket that the cache has given it. -/
structure Ticketed (κ : Type) extends Opened κ where
  ticket : Nat

/-- The live ones among open computations. -/
def liveOnes (open_ : List (Ticketed κ)) : List (Ticketed κ) :=
  open_.filter fun o => o.live

/-- The entries for results that are kept. -/
def doneEntries (kept : List (κ × α)) : List (κ × Entry α) :=
  kept.map fun p => (p.1, .done p.2)

/-- The entries for computations that are live. -/
def liveEntries (α : Type) (open_ : List (Ticketed κ)) : List (κ × Entry α) :=
  (liveOnes open_).map fun o => (o.key, .running o.ticket)

/-- The cache holds the given results and the live ones of the given computations, and nothing else. -/
structure Coupled (c : Cache κ α) (kept : List (κ × α)) (open_ : List (Ticketed κ)) : Prop where
  entries : c.entries.Perm (doneEntries kept ++ liveEntries α open_)
  distinct : Distinct c.entries
  owned : c.owned.Perm ((liveOnes open_).map fun o => o.key)
  issued : ∀ o ∈ open_, o.ticket < c.tickets
  tickets : (open_.map Ticketed.ticket).Nodup

section Coupled
variable [EquivBEq κ] {c : Cache κ α} {kept : List (κ × α)} {open_ : List (Ticketed κ)}

omit [EquivBEq κ] in
theorem Coupled.empty : Coupled ({} : Cache κ α) [] [] where
  entries := List.Perm.nil
  distinct := List.Pairwise.nil
  owned := List.Perm.nil
  issued := by simp
  tickets := List.nodup_nil

theorem Coupled.distinct' (h : Coupled c kept open_) :
    Distinct (doneEntries kept ++ liveEntries α open_) :=
  h.distinct.perm h.entries

omit [BEq κ] [EquivBEq κ] in
theorem mem_liveEntries {key : κ} {e : Entry α} :
    (key, e) ∈ liveEntries α open_ ↔
      ∃ o ∈ open_, o.live = true ∧ o.key = key ∧ e = .running o.ticket := by
  simp only [liveEntries, liveOnes, List.mem_map, List.mem_filter, Prod.mk.injEq, and_assoc]
  constructor
  · rintro ⟨o, ho, hlive, hkey, he⟩
    exact ⟨o, ho, hlive, hkey, he.symm⟩
  · rintro ⟨o, ho, hlive, hkey, he⟩
    exact ⟨o, ho, hlive, hkey, he.symm⟩

omit [EquivBEq κ] in
theorem lookup_doneEntries (kept : List (κ × α)) (key : κ) :
    (doneEntries kept).lookup key = (kept.lookup key).map .done := by
  induction kept with
  | nil => rfl
  | cons p rest ih =>
    obtain ⟨k, v⟩ := p
    simp only [doneEntries, List.map_cons, List.lookup_cons] at ih ⊢
    cases key == k with
    | true => rfl
    | false => exact ih

/-- What is held under a key: the result that is kept, else the live computation. -/
theorem Coupled.find?_eq (h : Coupled c kept open_) (key : κ) :
    c.find? key = ((kept.lookup key).map Entry.done).or ((liveEntries α open_).lookup key) := by
  rw [find?, lookup_perm h.distinct h.entries, List.lookup_append, lookup_doneEntries]

/-- A live computation is held under its key. -/
theorem Coupled.find?_live (h : Coupled c kept open_) {o : Ticketed κ} (ho : o ∈ open_)
    (hlive : o.live = true) : c.find? o.key = some (.running o.ticket) := by
  refine lookup_of_mem h.distinct (h.entries.mem_iff.2 ?_)
  exact List.mem_append_right _ (mem_liveEntries.2 ⟨o, ho, hlive, rfl, rfl⟩)

/-- The cache knows of a computation exactly as long as it is live. -/
theorem Coupled.isLive_eq (h : Coupled c kept open_) {o : Ticketed κ} (ho : o ∈ open_) :
    c.isLive o.key o.ticket = o.live := by
  cases hlive : o.live with
  | true => simp [isLive, h.find?_live ho hlive]
  | false =>
    -- a live computation under the same ticket would be another one on the stack
    unfold isLive
    split
    · next t ht =>
      obtain ⟨k, hk, -⟩ := mem_of_lookup ht
      rcases List.mem_append.1 (h.entries.mem_iff.1 hk) with hd | hl
      · simp [doneEntries] at hd
      · obtain ⟨o', ho', hlive', -, htick⟩ := mem_liveEntries.1 hl
        have hne : t ≠ o.ticket := by
          intro heq
          have htick' : o'.ticket = o.ticket := by
            cases htick
            exact heq
          rw [List.inj_on_of_nodup_map h.tickets ho' ho htick'] at hlive'
          rw [hlive] at hlive'
          contradiction
        simpa using hne
    · rfl

omit [EquivBEq κ] in
/-- A key is owned exactly if there is a live computation for it. -/
theorem Coupled.owned_contains (h : Coupled c kept open_) (key : κ) :
    c.owned.contains key = open_.any fun o => o.live && key == o.key := by
  rw [Bool.eq_iff_iff, List.contains_iff_exists_mem_beq, List.any_eq_true]
  constructor
  · rintro ⟨k, hk, hkey⟩
    obtain ⟨o, ho, rfl⟩ := List.mem_map.1 (h.owned.mem_iff.1 hk)
    obtain ⟨ho, hlive⟩ := List.mem_filter.1 ho
    exact ⟨o, ho, by simp [hlive, hkey]⟩
  · rintro ⟨o, ho, hkey⟩
    simp only [Bool.and_eq_true] at hkey
    refine ⟨o.key, h.owned.mem_iff.2 ?_, hkey.2⟩
    exact List.mem_map.2 ⟨o, List.mem_filter.2 ⟨ho, hkey.1⟩, rfl⟩

/-! ## What the operations keep -/

omit [BEq κ] [EquivBEq κ] in
theorem liveEntries_cons (o : Ticketed κ) (open_ : List (Ticketed κ)) :
    liveEntries α (o :: open_) =
      if o.live then (o.key, Entry.running o.ticket) :: liveEntries α open_
      else liveEntries α open_ := by
  unfold liveEntries liveOnes
  rw [List.filter_cons]
  split <;> rfl

/-- A key under which nothing is held can be started. -/
theorem Coupled.start (h : Coupled c kept open_) {key : κ} (hfree : c.find? key = none) :
    Coupled (c.start key) kept (⟨⟨key, true⟩, c.tickets⟩ :: open_) where
  entries := by
    have happ : (c.start key).entries = c.entries ++ [(key, .running c.tickets)] := rfl
    rw [happ, liveEntries_cons, if_pos rfl]
    refine (h.entries.append_right _).trans ?_
    rw [List.append_assoc]
    exact (List.perm_append_singleton _ _).append_left _
  distinct := by
    refine List.pairwise_append.2 ⟨h.distinct, List.pairwise_singleton _ _, ?_⟩
    intro a ha b hb
    rw [List.mem_singleton.1 hb]
    have hne : (key != a.1) = true := List.lookup_eq_none_iff.1 hfree a ha
    rw [BEq.comm]
    rw [bne, Bool.not_eq_true'] at hne
    exact hne
  owned := by
    rw [liveOnes, List.filter_cons, if_pos rfl]
    exact h.owned.cons key
  issued := by
    intro o ho
    rcases List.mem_cons.1 ho with rfl | ho
    · exact Nat.lt_succ_self c.tickets
    · exact Nat.lt_succ_of_lt (h.issued o ho)
  tickets := by
    refine List.nodup_cons.2 ⟨?_, h.tickets⟩
    intro hmem
    obtain ⟨o, ho, htick⟩ := List.mem_map.1 hmem
    exact Nat.lt_irrefl _ (htick ▸ h.issued o ho)

omit [EquivBEq κ] in
/-- An emptied cache holds nothing, and none of the open computations is live. -/
theorem Coupled.clear (h : Coupled c kept open_) :
    Coupled c.clear [] (open_.map fun o => { o with live := false }) where
  entries := by simp [Cache.clear, doneEntries, liveEntries, liveOnes]
  distinct := List.Pairwise.nil
  owned := by simp [Cache.clear, liveOnes]
  issued := by
    intro o ho
    obtain ⟨o', ho', rfl⟩ := List.mem_map.1 ho
    exact h.issued o' ho'
  tickets := by
    have : (open_.map fun o => { o with live := false }).map Ticketed.ticket
        = open_.map Ticketed.ticket := by
      rw [List.map_map]
      rfl
    rw [this]
    exact h.tickets

omit [EquivBEq κ] in
/-- A computation that is not live can be forgotten. -/
theorem Coupled.drop {o : Ticketed κ} (h : Coupled c kept (o :: open_)) (hlive : o.live = false) :
    Coupled c kept open_ where
  entries := by
    have he := h.entries
    rw [liveEntries_cons, hlive, if_neg (by simp)] at he
    exact he
  distinct := h.distinct
  owned := by
    have ho := h.owned
    rw [liveOnes, List.filter_cons, hlive, if_neg (by simp)] at ho
    exact ho
  issued := fun o' ho' => h.issued o' (List.mem_cons_of_mem o ho')
  tickets := (List.nodup_cons.1 h.tickets).2

/-- The other entries lie under other keys than the innermost computation if that is live. -/
theorem Coupled.others {o : Ticketed κ} (h : Coupled c kept (o :: open_)) (hlive : o.live = true) :
    c.entries.Perm ((o.key, .running o.ticket) :: (doneEntries kept ++ liveEntries α open_)) ∧
      ∀ p ∈ doneEntries kept ++ liveEntries α open_, (p.1 == o.key) = false := by
  have hperm : c.entries.Perm
      ((o.key, .running o.ticket) :: (doneEntries kept ++ liveEntries α open_)) := by
    refine h.entries.trans ?_
    rw [liveEntries_cons, if_pos hlive]
    exact List.perm_middle
  refine ⟨hperm, ?_⟩
  intro p hp
  rw [BEq.comm]
  exact (List.pairwise_cons.1 (h.distinct.perm hperm)).1 p hp

/-- Without its key, the owned keys are those of the other live computations. -/
theorem Coupled.release {o : Ticketed κ} (h : Coupled c kept (o :: open_)) (hlive : o.live = true) :
    (c.release o.key).Perm ((liveOnes open_).map fun o => o.key) := by
  have howned : c.owned.Perm (o.key :: (liveOnes open_).map fun o => o.key) := by
    have ho := h.owned
    rw [liveOnes, List.filter_cons, if_pos hlive] at ho
    exact ho
  refine (howned.filter _).trans ?_
  have hother : ∀ k ∈ (liveOnes open_).map (fun o => o.key), (!(k == o.key)) = true := by
    intro k hk
    obtain ⟨o', ho', rfl⟩ := List.mem_map.1 hk
    obtain ⟨ho', hlive'⟩ := List.mem_filter.1 ho'
    have hmem : (o'.key, Entry.running o'.ticket) ∈ doneEntries kept ++ liveEntries α open_ :=
      List.mem_append_right _ (mem_liveEntries.2 ⟨o', ho', hlive', rfl, rfl⟩)
    simp [(h.others hlive).2 _ hmem]
  rw [List.filter_cons_of_neg (by simp), List.filter_eq_self.2 hother]

/-- The result of a live computation takes its place, that of another one changes nothing. -/
theorem Coupled.finish {o : Ticketed κ} (h : Coupled c kept (o :: open_)) (v : α) :
    Coupled (c.finish o.key o.ticket v) (if o.live then kept ++ [(o.key, v)] else kept) open_ := by
  unfold Cache.finish
  rw [h.isLive_eq (List.mem_cons_self ..)]
  cases hlive : o.live with
  | false => exact h.drop hlive
  | true =>
    obtain ⟨hperm, hother⟩ := h.others hlive
    -- the entry of the computation becomes the one of its result; the others have other keys and stay
    have hmap : (c.entries.map fun p => if p.1 == o.key then (p.1, .done v) else p).Perm
        ((o.key, .done v) :: (doneEntries kept ++ liveEntries α open_)) := by
      refine (hperm.map _).trans ?_
      simp only [List.map_cons, BEq.rfl, if_true]
      refine List.Perm.cons _ (List.Perm.of_eq ?_)
      refine (List.map_congr_left fun p hp => ?_).trans (List.map_id _)
      rw [hother p hp]
      rfl
    refine ⟨hmap.trans ?_, ?_, h.release hlive, fun o' ho' => ?_, ?_⟩
    · simp only [if_pos, doneEntries, List.map_append, List.map_cons, List.map_nil,
        List.append_assoc, List.singleton_append]
      exact List.perm_middle.symm
    · refine Distinct.perm (List.pairwise_cons.2 ⟨?_, ?_⟩) hmap.symm
      · intro p hp
        rw [BEq.comm]
        exact hother p hp
      · exact (List.pairwise_cons.1 (h.distinct.perm hperm)).2
    · exact h.issued o' (List.mem_cons_of_mem o ho')
    · exact (List.nodup_cons.1 h.tickets).2

/-- A computation that has failed leaves the results and the other computations as they are. -/
theorem Coupled.abandon {o : Ticketed κ} (h : Coupled c kept (o :: open_)) :
    Coupled (c.abandon o.key o.ticket) kept open_ := by
  unfold Cache.abandon
  rw [h.isLive_eq (List.mem_cons_self ..)]
  cases hlive : o.live with
  | false => exact h.drop hlive
  | true =>
    obtain ⟨hperm, hother⟩ := h.others hlive
    have hfilter : (c.entries.filter fun p => !(p.1 == o.key)).Perm
        (doneEntries kept ++ liveEntries α open_) := by
      refine (hperm.filter _).trans ?_
      rw [List.filter_cons_of_neg (by simp), List.filter_eq_self.2]
      intro p hp
      simp [hother p hp]
    refine ⟨hfilter, ?_, h.release hlive, fun o' ho' => ?_, ?_⟩
    · exact h.distinct.filter _
    · exact h.issued o' (List.mem_cons_of_mem o ho')
    · exact (List.nodup_cons.1 h.tickets).2

end Coupled

/-! ## Scripts -/

section Scripts
variable [EquivBEq κ]

/-- The ideal cache for the given results and computations. -/
def idealOf (kept : List (κ × α)) (open_ : List (Ticketed κ)) : Ideal κ α where
  kept := kept
  opened := open_.map Ticketed.toOpened

/-- The open computations are the same ones; some may not be live any more. -/
def SameStack (open_ open_' : List (Ticketed κ)) : Prop :=
  open_'.map (fun o => (o.key, o.ticket)) = open_.map fun o => (o.key, o.ticket)

omit [BEq κ] [EquivBEq κ] in
theorem SameStack.cons {o : Ticketed κ} {open_ open_' : List (Ticketed κ)}
    (h : SameStack (o :: open_) open_') :
    ∃ o' rest, open_' = o' :: rest ∧ o'.key = o.key ∧ o'.ticket = o.ticket ∧
      SameStack open_ rest := by
  cases open_' with
  | nil => simp [SameStack] at h
  | cons o' rest =>
    simp only [SameStack, List.map_cons, List.cons.injEq, Prod.mk.injEq] at h
    exact ⟨o', rest, rfl, h.1.1, h.1.2, h.2⟩

omit [EquivBEq κ] in
theorem isRunning_idealOf (kept : List (κ × α)) (open_ : List (Ticketed κ)) (key : κ) :
    (idealOf kept open_).isRunning key = open_.any fun o => o.live && key == o.key := by
  rw [Ideal.isRunning, idealOf, List.any_map]
  rfl

theorem Coupled.contains_eq {c : Cache κ α} {kept : List (κ × α)} {open_ : List (Ticketed κ)}
    (h : Coupled c kept open_) (key : κ) : c.contains key = (kept.lookup key).isSome := by
  unfold Cache.contains
  rw [h.find?_eq]
  cases kept.lookup key with
  | some v => rfl
  | none =>
    cases hl : (liveEntries α open_).lookup key with
    | none => rfl
    | some e =>
      obtain ⟨k, hk, -⟩ := mem_of_lookup hl
      obtain ⟨o, -, -, -, rfl⟩ := mem_liveEntries.1 hk
      rfl

omit [EquivBEq κ] in
theorem Coupled.size_eq {c : Cache κ α} {kept : List (κ × α)} {open_ : List (Ticketed κ)}
    (h : Coupled c kept open_) : c.size = (idealOf kept open_).size := by
  rw [Cache.size, h.entries.length_eq, Ideal.size, idealOf, List.length_append, List.countP_map,
    List.countP_eq_length_filter]
  simp only [doneEntries, liveEntries, liveOnes, List.length_map]
  rfl

/-- A key with a kept result is not owned, so its result is given. -/
theorem Coupled.not_owned_of_kept {c : Cache κ α} {kept : List (κ × α)}
    {open_ : List (Ticketed κ)} (h : Coupled c kept open_) {key : κ} {v : α}
    (hv : kept.lookup key = some v) : c.owned.contains key = false := by
  rw [h.owned_contains]
  refine eq_false_of_ne_true fun hany => ?_
  obtain ⟨o, ho, hkey⟩ := List.any_eq_true.1 hany
  simp only [Bool.and_eq_true] at hkey
  -- the entry for the result and the one for the computation would lie under the same key
  obtain ⟨k, hk, hkv⟩ := mem_of_lookup hv
  have hdone : (k, Entry.done v) ∈ doneEntries kept := List.mem_map.2 ⟨(k, v), hk, rfl⟩
  have hlive : (o.key, Entry.running o.ticket) ∈ liveEntries α open_ :=
    mem_liveEntries.2 ⟨o, ho, hkey.1, rfl, rfl⟩
  have hne := (List.pairwise_append.1 h.distinct').2.2 _ hdone _ hlive
  have heq : (k == o.key) = true := BEq.trans (BEq.symm hkv) hkey.2
  rw [heq] at hne
  contradiction

/-- Nothing is held under a key without a result and without a live computation. -/
theorem Coupled.find?_eq_none {c : Cache κ α} {kept : List (κ × α)} {open_ : List (Ticketed κ)}
    (h : Coupled c kept open_) {key : κ} (hkept : kept.lookup key = none)
    (hfree : (idealOf kept open_).isRunning key = false) : c.find? key = none := by
  rw [h.find?_eq, hkept]
  cases hl : (liveEntries α open_).lookup key with
  | none => rfl
  | some e =>
    obtain ⟨k, hk, hkey⟩ := mem_of_lookup hl
    obtain ⟨o, ho, hlive, rfl, -⟩ := mem_liveEntries.1 hk
    rw [isRunning_idealOf, List.any_eq_false] at hfree
    have := hfree o ho
    simp [hlive, hkey] at this

omit [EquivBEq κ] in
/-- Something is held under a key with a live computation. -/
theorem Coupled.find?_of_running {c : Cache κ α} {kept : List (κ × α)}
    {open_ : List (Ticketed κ)} (h : Coupled c kept open_) {key : κ}
    (hrun : (idealOf kept open_).isRunning key = true) : ∃ e, c.find? key = some e := by
  rw [isRunning_idealOf] at hrun
  obtain ⟨o, ho, hkey⟩ := List.any_eq_true.1 hrun
  simp only [Bool.and_eq_true] at hkey
  have hmem : (o.key, Entry.running o.ticket) ∈ c.entries :=
    h.entries.mem_iff.2 (List.mem_append_right _ (mem_liveEntries.2 ⟨o, ho, hkey.1, rfl, rfl⟩))
  rw [← Option.isSome_iff_exists, Cache.find?, List.lookup_isSome_iff]
  exact ⟨_, hmem, hkey.2⟩

/-! ### One request -/

/-- A request for a key with a kept result gives the result. -/
theorem Coupled.get_kept {c : Cache κ α} {kept : List (κ × α)} {open_ : List (Ticketed κ)}
    (h : Coupled c kept open_) {key : κ} {v : α} (hv : kept.lookup key = some v)
    (refusal stall : ε) (compute : Run (Cache κ α × τ) ε α) (t : τ) :
    getOrCompute Slot.beside refusal key compute stall (c, t) = (.ok v, (c, t)) := by
  have hfind : c.find? key = some (.done v) := by
    rw [h.find?_eq, hv]
    rfl
  simp only [getOrCompute, Slot.beside, hfind, h.not_owned_of_kept hv]
  rfl

omit [EquivBEq κ] in
/-- A request for a key with a live computation is refused. -/
theorem Coupled.get_running {c : Cache κ α} {kept : List (κ × α)} {open_ : List (Ticketed κ)}
    (h : Coupled c kept open_) {key : κ} (hrun : (idealOf kept open_).isRunning key = true)
    (refusal stall : ε) (compute : Run (Cache κ α × τ) ε α) (t : τ) :
    getOrCompute Slot.beside refusal key compute stall (c, t) = (.error refusal, (c, t)) := by
  obtain ⟨e, he⟩ := h.find?_of_running hrun
  have howned : c.owned.contains key = true := by
    rw [h.owned_contains, ← isRunning_idealOf kept]
    exact hrun
  simp only [getOrCompute, Slot.beside, he, howned]
  rfl

/-- What becomes of the cache when the innermost computation comes to its end. -/
def settle (c : Cache κ α) (key : κ) (ticket : Nat) : Except ε α → Cache κ α
  | .ok v => c.finish key ticket v
  | .error _ => c.abandon key ticket

omit [EquivBEq κ] in
/-- Any other request runs the computation, once. -/
theorem get_free {c : Cache κ α} {key : κ} (hfree : c.find? key = none) (refusal stall : ε)
    (compute : Run (Cache κ α × τ) ε α) (t : τ) {r : Except ε α} {c' : Cache κ α} {t' : τ}
    (hcompute : compute (c.start key, t) = (r, (c', t'))) :
    getOrCompute Slot.beside refusal key compute stall (c, t)
      = (r, (settle c' key c.tickets r, t')) := by
  simp only [getOrCompute, Slot.beside, Slot.modify, hfree, hcompute]
  cases r <;> rfl

/-- The end of the innermost computation couples the cache with the ideal one as well. -/
theorem Coupled.settle {c : Cache κ α} {kept : List (κ × α)} {open_ : List (Ticketed κ)}
    {o : Ticketed κ} (h : Coupled c kept (o :: open_)) (r : Except ε α) :
    ∃ kept', Coupled (c.settle o.key o.ticket r) kept' open_ ∧
      (idealOf kept (o :: open_)).close r = idealOf kept' open_ := by
  cases r with
  | ok v =>
    refine ⟨_, h.finish v, ?_⟩
    obtain ⟨⟨key, live⟩, ticket⟩ := o
    cases live <;> rfl
  | error e =>
    refine ⟨kept, h.abandon, ?_⟩
    obtain ⟨⟨key, live⟩, ticket⟩ := o
    cases live <;> rfl

/-! ### Whole scripts -/

/-- A script has the same outcome on coupled caches and leaves them coupled. The stack is that of the
start, so that whoever has started a computation finds it on top again when it comes to its end. -/
theorem Script.run_coupled (refusal : κ → ε) (stall : ε) (p : Script κ ε α τ) :
    ∀ {c : Cache κ α} {kept : List (κ × α)} {open_ : List (Ticketed κ)} (t : τ),
      Coupled c kept open_ →
      ∃ r c' kept' open_' t', p.run refusal stall (c, t) = (r, (c', t')) ∧
        p.runIdeal refusal (idealOf kept open_, t) = (r, (idealOf kept' open_', t')) ∧
        Coupled c' kept' open_' ∧ SameStack open_ open_' := by
  -- the caches change along the script, so they are bound again in every case
  induction p with
  | halt r =>
    intro c kept open_ t h
    exact ⟨r, c, kept, open_, t, rfl, rfl, h, rfl⟩
  | get key compute next ihCompute ihNext =>
    intro c kept open_ t h
    cases hkept : kept.lookup key with
    | some v =>
      simp only [Script.run, Script.runIdeal, h.get_kept hkept]
      have hideal : (idealOf kept open_).kept.lookup key = some v := hkept
      rw [hideal]
      exact ihNext (.ok v) t h
    | none =>
      have hideal : (idealOf kept open_).kept.lookup key = none := hkept
      cases hrun : (idealOf kept open_).isRunning key with
      | true =>
        simp only [Script.run, Script.runIdeal, h.get_running hrun, hideal, hrun, if_true]
        exact ihNext (.error (refusal key)) t h
      | false =>
        have hfree := h.find?_eq_none hkept hrun
        obtain ⟨r, c₁, kept₁, open₁, t₁, hcode, hspec, h₁, hstack⟩ := ihCompute t (h.start hfree)
        -- the computation may have emptied the cache, so it is on top of the stack but perhaps not live
        obtain ⟨o, rest, rfl, hkey, htick, hrest⟩ := hstack.cons
        obtain ⟨kept₂, h₂, hclose⟩ := h₁.settle r
        obtain ⟨r', c₃, kept₃, open₃, t₃, hcode', hspec', h₃, hstack'⟩ := ihNext r t₁ h₂
        have hstart : (idealOf kept open_).start key
            = idealOf kept (⟨⟨key, true⟩, c.tickets⟩ :: open_) := rfl
        refine ⟨r', c₃, kept₃, open₃, t₃, ?_, ?_, h₃, hstack'.trans hrest⟩
        · rw [hkey, htick] at hcode'
          simp only [Script.run, get_free hfree _ _ _ _ hcode]
          exact hcode'
        · simp only [Script.runIdeal, hideal, hrun, hstart, hspec, hclose]
          exact hspec'
  | contains key next ih =>
    intro c kept open_ t h
    simp only [Script.run, Script.runIdeal, h.contains_eq]
    exact ih _ t h
  | size next ih =>
    intro c kept open_ t h
    simp only [Script.run, Script.runIdeal, h.size_eq]
    exact ih _ t h
  | clear next ih =>
    intro c kept open_ t h
    obtain ⟨r, c', kept', open_', t', hcode, hspec, h', hstack⟩ := ih t h.clear
    refine ⟨r, c', kept', open_', t', hcode, ?_, h', ?_⟩
    · have hclear : (idealOf kept open_).clear
          = idealOf ([] : List (κ × α)) (open_.map fun o => { o with live := false }) := by
        simp only [Ideal.clear, idealOf, List.map_map]
        rfl
      rw [Script.runIdeal, hclear]
      exact hspec
    · rw [SameStack, List.map_map] at hstack
      exact hstack
  | read next ih =>
    intro c kept open_ t h
    exact ih t t h
  | write t' next ih =>
    intro c kept open_ _ h
    exact ih t' h

/-- Every script has the outcome on a new cache that it has on the ideal one, leaves the same memory, and
ends with the same keys. The ideal cache knows no `stall`, so no request ever waits. -/
theorem Script.run_eq_runIdeal (refusal : κ → ε) (stall : ε) (p : Script κ ε α τ) (t : τ) :
    let (r, c, t₁) := p.run refusal stall ({}, t)
    let (r', m, t₂) := p.runIdeal refusal ({}, t)
    r = r' ∧ t₁ = t₂ ∧ (∀ key, c.contains key = (m.kept.lookup key).isSome) ∧ c.size = m.size := by
  obtain ⟨r, c, kept, open_, t', hcode, hspec, h, -⟩ :=
    p.run_coupled refusal stall t Coupled.empty
  have hempty : (idealOf [] [] : Ideal κ α) = {} := rfl
  rw [hempty] at hspec
  rw [hcode, hspec]
  exact ⟨rfl, rfl, h.contains_eq, h.size_eq⟩

/-- A computation that asks for its own key, empties the cache, and has its key computed anew. -/
def reopened : Script Nat String Nat Unit :=
  .get 1
    (.get 1 (.halt (.ok 0)) fun _ => .clear
      (.get 1 (.halt (.ok 5)) fun _ => .halt (.ok 7)))
    fun _ => .get 1 (.halt (.ok 9)) .halt

/-- The result of the computation that was started last is kept, the one of the first is not. -/
theorem reopened_run :
    (reopened.run (fun _ => "refused") "stalled" ({}, ())).1 = .ok 5 ∧
      (reopened.run (fun _ => "refused") "stalled" ({}, ())).2.1.size = 1 := by
  have h := Script.run_eq_runIdeal (fun _ : Nat => "refused") "stalled" reopened ()
  exact ⟨h.1.trans rfl, h.2.2.2.trans rfl⟩

end Scripts

end FieldRules.Cache
