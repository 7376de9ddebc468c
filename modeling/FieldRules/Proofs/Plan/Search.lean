import FieldRules.Proofs.Plan.Kinds
import Mathlib.Logic.Relation

/-!
# The search through nested types

Compiling a class is a depth-first search through the types nested in it. The search does not enter a type
whose plan is kept, it keeps every plan that it comes to, and it ends with the first type that has none.
`visit` is the search without caches (`searches_compileTypeWithin`).

* A search that fails has come to a type without a plan (`reaches_of_visit_eq_some`);
* one that does not has come to everything there was to come to (`plan_of_reaches`), as long as it may go
  as deep as there are types that can be nested;
* types that were searched before to the end do not change what is found (`visit_union`).
-/

namespace FieldRules.Plans

open Cache

/-! ## The search -/

/-- The types whose plans are kept. -/
def keptTypes (p : Plans) : List Class :=
  p.types.entries.map Prod.fst

/-- The known types with one more, unless that is among them. -/
def note (known : List Class) (c : Class) : List Class :=
  if c ∈ known then known else known ++ [c]

/-- Visits the unknown ones of the given types until one of them fails. -/
def visitAll (visit : List Class → Class → Option Error × List Class) :
    List Class → List Class → Option Error × List Class
  | known, [] => (none, known)
  | known, c :: cs =>
    if c ∈ known then visitAll visit known cs
    else match visit known c with
      | (none, known) => visitAll visit known cs
      | (some e, known) => (some e, known)

/-- Visits a type and then, down to the given depth, the unknown types nested in it. Gives the failure that
has ended the search and the types that are known then. -/
def visit (s : Sources) : Nat → List Class → Class → Option Error × List Class
  | 0, known, c =>
    match planFor s c with
    | .ok _ => (none, note known c)
    | .error e => (some e, known)
  | depth + 1, known, c =>
    match planFor s c with
    | .ok plan => visitAll (visit s depth) (note known c) (nestedKinds plan)
    | .error e => (some e, known)

/-- The failure that ends the search from a type, if it does not come to its end. -/
def firstFailure (s : Sources) (known : List Class) (c : Class) : Option Error :=
  (visit s (fieldCount s) known c).1

theorem mem_note {known : List Class} {c k : Class} : k ∈ note known c ↔ k ∈ known ∨ k = c := by
  unfold note
  split
  · next h => exact ⟨.inl, fun hk => hk.elim id fun hk => hk ▸ h⟩
  · rw [List.mem_append, List.mem_singleton]

/-! ## Compiling is searching -/

section Coupling
variable {s : Sources} {p : Plans}

theorem keptTypes_remember (types : Cache Class Plan) (c : Class) (plan : Plan) :
    (types.remember c (.ok plan : Except Error Plan)).entries.map Prod.fst
      = note (types.entries.map Prod.fst) c := by
  unfold Cache.remember note
  cases hfind : types.find? c with
  | none =>
    have hmem : c ∉ types.entries.map Prod.fst := by
      rw [← find?_isSome, hfind]
      simp
    rw [if_neg hmem, List.map_append]
    rfl
  | some e =>
    have hmem : c ∈ types.entries.map Prod.fst := by
      rw [← find?_isSome, hfind]
      rfl
    rw [if_pos hmem]

theorem Settled.contains_iff (h : Settled s p) {c : Class} :
    p.types.contains c = true ↔ c ∈ keptTypes p :=
  h.types.contains_iff

/-- What a type comes to once the search from it has ended. -/
def outcome (s : Sources) (c : Class) : Option Error → Except Error Plan
  | none => planFor s c
  | some e => .error e

/-- A request for a plan fails or adds the type to those that are kept. -/
theorem Settled.planOf (h : Settled s p) (c : Class) :
    ∃ p', Plans.planOf s c p = (planFor s c, p') ∧ Settled s p' ∧
      keptTypes p' = match planFor s c with
        | .ok _ => note (keptTypes p) c
        | .error _ => keptTypes p := by
  obtain ⟨p', hrun, hsettled, htypes⟩ := planOf_eq h c
  refine ⟨p', hrun, hsettled, ?_⟩
  unfold keptTypes
  rw [htypes]
  cases hplan : planFor s c with
  | ok plan => exact keptTypes_remember _ _ _
  | error e =>
    unfold Cache.remember
    cases hfind : p.types.find? c with
    | none => rfl
    | some e' =>
      rfl

/-- A search that comes to its end has found the plan of the type that it started from. -/
theorem plan_of_visit_eq_none {depth : Nat} {known : List Class} {c : Class}
    (h : (visit s depth known c).1 = none) : ∃ plan, planFor s c = .ok plan := by
  cases hplan : planFor s c with
  | ok plan => exact ⟨plan, rfl⟩
  | error e => cases depth <;> simp [visit, hplan] at h

/-- Compiling one class of a search, from wherever the search has come. -/
def Searches (s : Sources) (visit : List Class → Class → Option Error × List Class)
    (compile : Class → Plans.Run Plan) : Prop :=
  ∀ ⦃p : Plans⦄, Settled s p → ∀ c, ∃ p',
    compile c p = (outcome s c (visit (keptTypes p) c).1, p') ∧ Settled s p' ∧
      keptTypes p' = (visit (keptTypes p) c).2

theorem compileNested_eq (compile : Class → Plans.Run Plan) (e : Element) (p : Plans) :
    (do
      if e.nested && !(← get).types.contains e.kind then
        discard (compile e.kind) : Plans.Run PUnit) p
    = if e.nested && !p.types.contains e.kind then
        ((compile e.kind p).1.map fun _ => ⟨⟩, (compile e.kind p).2)
      else (.ok ⟨⟩, p) := by
  rw [Run.bind_of_ok (Run.get_eq p)]
  split
  · exact Run.map_eq _ _ _
  · rfl

/-- Compiling what is nested in a plan is visiting all of it. -/
theorem Searches.forM {compile : Class → Plans.Run Plan} {depth : Nat}
    (hcompile : Searches s (visit s depth) compile) (rest : Plan) (h : Settled s p) :
    ∃ p', (rest.forM fun e => do
        if e.nested && !(← get).types.contains e.kind then
          discard (compile e.kind) : Plans.Run PUnit) p
      = (match (visitAll (visit s depth) (keptTypes p) (nestedKinds rest)).1 with
          | none => .ok ⟨⟩
          | some e => .error e, p') ∧ Settled s p' ∧
      keptTypes p' = (visitAll (visit s depth) (keptTypes p) (nestedKinds rest)).2 := by
  induction rest generalizing p with
  | nil => exact ⟨p, rfl, h, rfl⟩
  | cons e rest ih =>
    rw [List.forM_eq_forM] at ih ⊢
    rw [List.forM_cons, Run.bind_eq, compileNested_eq, nestedKinds_cons]
    cases e.nested with
    | false => exact ih h
    | true =>
      rw [if_pos rfl, visitAll]
      -- a type is passed by exactly if its plan is kept, since what is kept is what the search knows
      by_cases hknown : e.kind ∈ keptTypes p
      · rw [if_pos hknown, h.contains_iff.2 hknown]
        exact ih h
      · have hcontains : p.types.contains e.kind = false := by
          rw [← Bool.not_eq_true, h.contains_iff]
          exact hknown
        rw [if_neg hknown, hcontains]
        obtain ⟨p₁, hrun, hsettled, hkept⟩ := hcompile h e.kind
        simp only [Bool.not_false, Bool.and_self, if_true, hrun]
        rcases hvisit : visit s depth (keptTypes p) e.kind with ⟨_ | failure, known⟩
        -- the loop goes on from the types that are kept after this one
        · obtain ⟨plan, hplan⟩ := plan_of_visit_eq_none (congrArg Prod.fst hvisit)
          rw [hvisit] at hkept
          dsimp only at hkept
          simp only [outcome, hplan, Except.map]
          rw [← hkept]
          exact ih hsettled
        · rw [hvisit] at hkept
          exact ⟨p₁, rfl, hsettled, hkept⟩

/-- Compiling a class is the search from it. -/
theorem searches_compileTypeWithin (s : Sources) (depth : Nat) :
    Searches s (visit s depth) (compileTypeWithin s depth) := by
  induction depth with
  | zero =>
    intro p h c
    obtain ⟨p', hrun, hsettled, hkept⟩ := h.planOf c
    unfold compileTypeWithin visit
    refine ⟨p', ?_, hsettled, ?_⟩
    · rw [hrun]
      cases hplan : planFor s c <;> simp [outcome, hplan]
    · rw [hkept]
      cases planFor s c <;> rfl
  | succ depth ih =>
    intro p h c
    obtain ⟨p₁, hrun, hsettled, hkept⟩ := h.planOf c
    unfold compileTypeWithin visit
    cases hplan : planFor s c with
    | error e =>
      rw [hplan] at hrun hkept
      exact ⟨p₁, Run.bind_of_error hrun, hsettled, hkept⟩
    | ok plan =>
      rw [hplan] at hrun hkept
      rw [Run.bind_of_ok hrun]
      dsimp only at hkept ⊢
      rw [← hkept]
      -- the class is kept by now, and the search goes on with what is nested in its plan
      obtain ⟨p', hloop, hrest⟩ := ih.forM plan hsettled
      refine ⟨p', ?_, hrest⟩
      rw [Run.bind_eq, hloop]
      cases (visitAll (visit s depth) (keptTypes p₁) (nestedKinds plan)).1 with
      | none => rw [outcome, hplan]; rfl
      | some e => rfl

end Coupling

/-! ## What a search comes to -/

section Reach
variable {s : Sources} {known : List Class} {b c k : Class}

/-- The type is nested in the plan of another one, and the search may enter it. -/
def Leads (s : Sources) (known : List Class) (b c : Class) : Prop :=
  (∃ plan, planFor s b = .ok plan ∧ c ∈ nestedKinds plan) ∧ c ∉ known

/-- The search may come from one type to the other. -/
def Reaches (s : Sources) (known : List Class) : Class → Class → Prop :=
  Relation.ReflTransGen (Leads s known)

theorem Reaches.of_subset {more : List Class} (hsub : known ⊆ more) (h : Reaches s more b c) :
    Reaches s known b c :=
  Relation.ReflTransGen.mono (fun _ _ hlead => ⟨hlead.1, fun hc => hlead.2 (hsub hc)⟩) _ _ h

/-- A search never forgets a type. -/
theorem subset_visitAll {v : List Class → Class → Option Error × List Class}
    (hv : ∀ known c, known ⊆ (v known c).2) (kinds known : List Class) :
    known ⊆ (visitAll v known kinds).2 := by
  induction kinds generalizing known with
  | nil => exact List.Subset.refl _
  | cons k kinds ih =>
    rw [visitAll]
    split
    · exact ih known
    · have hk := hv known k
      rcases hvisit : v known k with ⟨_ | e, known'⟩ <;> rw [hvisit] at hk
      · exact List.Subset.trans hk (ih known')
      · exact hk

theorem subset_note : known ⊆ note known c := fun _ hk => mem_note.2 (.inl hk)

theorem subset_visit (depth : Nat) (known : List Class) (c : Class) :
    known ⊆ (visit s depth known c).2 := by
  induction depth generalizing known c with
  | zero =>
    rw [visit]
    cases planFor s c with
    | ok plan => exact subset_note
    | error e => exact List.Subset.refl _
  | succ depth ih =>
    rw [visit]
    cases planFor s c with
    | ok plan => exact List.Subset.trans subset_note (subset_visitAll ih _ _)
    | error e => exact List.Subset.refl _

/-- A failure among several types is that of one of them. -/
theorem visitAll_eq_some {v : List Class → Class → Option Error × List Class}
    (hv : ∀ known c, known ⊆ (v known c).2) {kinds : List Class} {e : Error}
    (h : (visitAll v known kinds).1 = some e) :
    ∃ k ∈ kinds, k ∉ known ∧ ∃ more, known ⊆ more ∧ (v more k).1 = some e := by
  induction kinds generalizing known with
  | nil => cases h
  | cons k kinds ih =>
    rw [visitAll] at h
    split at h
    · obtain ⟨k', hk', hrest⟩ := ih h
      exact ⟨k', List.mem_cons_of_mem _ hk', hrest⟩
    · next hunknown =>
      have hk := hv known k
      rcases hvisit : v known k with ⟨_ | e', known'⟩ <;> rw [hvisit] at h hk
      · obtain ⟨k', hk', hunknown', more, hsub, hfail⟩ := ih h
        exact ⟨k', List.mem_cons_of_mem _ hk', fun h => hunknown' (hk h), more,
          List.Subset.trans hk hsub, hfail⟩
      · exact ⟨k, List.mem_cons_self .., hunknown, known, List.Subset.refl _, by rw [hvisit]; exact h⟩

/-- A search that fails has come to a type without a plan, and its failure is that of this type. -/
theorem reaches_of_visit_eq_some {depth : Nat} {e : Error} (h : (visit s depth known c).1 = some e) :
    ∃ b, Reaches s known c b ∧ planFor s b = .error e := by
  induction depth generalizing known c with
  | zero =>
    rw [visit] at h
    cases hplan : planFor s c with
    | ok plan =>
      rw [hplan] at h
      cases h
    | error e' =>
      rw [hplan] at h
      cases h
      exact ⟨c, .refl, hplan⟩
  | succ depth ih =>
    rw [visit] at h
    cases hplan : planFor s c with
    | ok plan =>
      rw [hplan] at h
      obtain ⟨k, hk, hunknown, more, hsub, hfail⟩ := visitAll_eq_some (subset_visit depth) h
      obtain ⟨b, hreach, hb⟩ := ih hfail
      -- the deeper search knows more types, so what it reaches is reached from here too
      have hlead : Leads s known c k :=
        ⟨⟨plan, hplan, hk⟩, fun hmem => hunknown (subset_note hmem)⟩
      exact ⟨b, .head hlead (hreach.of_subset (List.Subset.trans subset_note hsub)), hb⟩
    | error e' =>
      rw [hplan] at h
      cases h
      exact ⟨c, .refl, hplan⟩

/-! ## What a search leaves out -/

/-- How many of the types that can be nested are not known. -/
def unknownKinds (s : Sources) (known : List Class) : Nat :=
  ((possibleKinds s).filter fun k => k ∉ known).length

theorem unknownKinds_le_of_subset {more : List Class} (hsub : known ⊆ more) :
    unknownKinds s more ≤ unknownKinds s known := by
  refine List.Sublist.length_le (List.monotone_filter_right _ fun k hk => ?_)
  simp only [decide_eq_true_eq] at hk ⊢
  exact fun hmem => hk (hsub hmem)

/-- Every type that is visited for the first time is one less. -/
theorem unknownKinds_note_lt (hk : k ∈ possibleKinds s) (hunknown : k ∉ known) :
    unknownKinds s (note known k) < unknownKinds s known := by
  have hfilter : (possibleKinds s).filter (fun c => c ∉ note known k)
      = ((possibleKinds s).filter fun c => c ∉ known).filter fun c => c ≠ k := by
    rw [List.filter_filter]
    refine List.filter_congr fun c _ => ?_
    simp [mem_note, and_comm]
  unfold unknownKinds
  rw [hfilter, List.length_filter_lt_length_iff_exists]
  exact ⟨k, by simp [hk, hunknown], by simp⟩

/-- Whatever is known now and was not before has a plan, and what is nested in it is known. -/
def Explored (s : Sources) (before now : List Class) : Prop :=
  ∀ b ∈ now, b ∉ before → ∃ plan, planFor s b = .ok plan ∧ nestedKinds plan ⊆ now

theorem Explored.trans {before now later : List Class} (h₁ : Explored s before now)
    (h₂ : Explored s now later) (hsub : now ⊆ later) : Explored s before later := by
  intro b hb hbefore
  by_cases hnow : b ∈ now
  · obtain ⟨plan, hplan, hkinds⟩ := h₁ b hnow hbefore
    exact ⟨plan, hplan, List.Subset.trans hkinds hsub⟩
  · exact h₂ b hb hnow

/-- A type with a plan may count as unknown, once what is nested in it is known. -/
theorem Explored.of_note {now : List Class} {plan : Plan} (h : Explored s (note known c) now)
    (hplan : planFor s c = .ok plan) (hkinds : nestedKinds plan ⊆ now) : Explored s known now := by
  intro b hb hbefore
  by_cases hbc : b = c
  · rw [hbc]
    exact ⟨plan, hplan, hkinds⟩
  · exact h b hb fun hmem => (mem_note.1 hmem).elim hbefore hbc

/-- Types that have been visited one after the other are known, and all beneath them is explored. -/
theorem explored_visitAll {depth : Nat}
    (hv : ∀ known k, unknownKinds s (note known k) ≤ depth → (visit s depth known k).1 = none →
      Explored s known (visit s depth known k).2 ∧ k ∈ (visit s depth known k).2)
    {kinds : List Class} (hkinds : kinds ⊆ possibleKinds s)
    (hdepth : unknownKinds s known ≤ depth + 1)
    (h : (visitAll (visit s depth) known kinds).1 = none) :
    Explored s known (visitAll (visit s depth) known kinds).2 ∧
      kinds ⊆ (visitAll (visit s depth) known kinds).2 := by
  induction kinds generalizing known with
  | nil => exact ⟨fun b hb hbefore => absurd hb hbefore, by simp⟩
  | cons k kinds ih =>
    obtain ⟨hk, hkinds⟩ := List.cons_subset.1 hkinds
    rw [visitAll] at h ⊢
    split
    · next hknown =>
      rw [if_pos hknown] at h
      obtain ⟨hexplored, hsub⟩ := ih hkinds hdepth h
      exact ⟨hexplored, List.cons_subset.2 ⟨subset_visitAll (subset_visit depth) _ _ hknown, hsub⟩⟩
    · next hunknown =>
      rw [if_neg hunknown] at h
      have hlt := unknownKinds_note_lt hk hunknown
      have hfirst := hv known k (by omega)
      have hgrow := subset_visit (s := s) depth known k
      -- what the first visit has found counts as known for the others, and only makes their task smaller
      rcases hvisit : visit s depth known k with ⟨_ | e, known'⟩ <;> rw [hvisit] at h hfirst hgrow
      · obtain ⟨hexplored, hmem⟩ := hfirst rfl
        have hle := unknownKinds_le_of_subset (s := s) hgrow
        obtain ⟨hexplored', hsub⟩ := ih hkinds (by dsimp only at hle; omega) h
        have hgrow' := subset_visitAll (subset_visit (s := s) depth) kinds known'
        exact ⟨hexplored.trans hexplored' hgrow', List.cons_subset.2 ⟨hgrow' hmem, hsub⟩⟩
      · cases h

/-- A search that comes to its end has explored everything, if it may go deep enough. -/
theorem explored_visit {depth : Nat} (hdepth : unknownKinds s (note known c) ≤ depth)
    (h : (visit s depth known c).1 = none) :
    Explored s known (visit s depth known c).2 ∧ c ∈ (visit s depth known c).2 ∧
      ∃ plan, planFor s c = .ok plan ∧ nestedKinds plan ⊆ (visit s depth known c).2 := by
  obtain ⟨plan, hplan⟩ := plan_of_visit_eq_none h
  have hpossible : nestedKinds plan ⊆ possibleKinds s :=
    fun k hk => mem_possibleKinds_of_nested hplan hk
  have hmem : c ∈ note known c := mem_note.2 (.inr rfl)
  induction depth generalizing known c plan with
  | zero =>
    have hvisit : visit s 0 known c = (none, note known c) := by
      rw [visit, hplan]
    -- no depth is left only when no type that can be nested is unknown
    have hkinds : nestedKinds plan ⊆ note known c := by
      intro k hk
      by_contra hunknown
      have hlt := unknownKinds_note_lt (hpossible hk) hunknown
      omega
    rw [hvisit]
    have hexplored : Explored s (note known c) (note known c) := fun b hb hbefore =>
      absurd hb hbefore
    exact ⟨hexplored.of_note hplan hkinds, hmem, plan, hplan, hkinds⟩
  | succ depth ih =>
    have hvisit : visit s (depth + 1) known c
        = visitAll (visit s depth) (note known c) (nestedKinds plan) := by
      rw [visit, hplan]
    rw [hvisit] at h ⊢
    have hall := explored_visitAll (fun known k hdepth hk => by
      obtain ⟨plan, hplan⟩ := plan_of_visit_eq_none hk
      obtain ⟨hexplored, hmem, -⟩ := ih hdepth hk plan hplan
        (fun k hk => mem_possibleKinds_of_nested hplan hk) (mem_note.2 (.inr rfl))
      exact ⟨hexplored, hmem⟩) hpossible hdepth h
    have hgrow := subset_visitAll (subset_visit (s := s) depth) (nestedKinds plan) (note known c)
    exact ⟨hall.1.of_note hplan hall.2, hgrow hmem, plan, hplan, hall.2⟩

/-- A search that comes to its end has found the plans of all that could be reached. -/
theorem plan_of_reaches {depth : Nat} (hdepth : unknownKinds s (note known c) ≤ depth)
    (h : (visit s depth known c).1 = none) (hreach : Reaches s known c b) :
    ∃ plan, planFor s b = .ok plan ∧ nestedKinds plan ⊆ (visit s depth known c).2 := by
  obtain ⟨hexplored, -, hroot⟩ := explored_visit hdepth h
  -- on the way from the start every type has a plan, and everything nested in it has been come to
  induction hreach with
  | refl => exact hroot
  | @tail b k _ hlead ih =>
    obtain ⟨plan, hplan, hkinds⟩ := ih
    obtain ⟨⟨plan', hplan', hk⟩, hunknown⟩ := hlead
    rw [hplan] at hplan'
    cases hplan'
    exact hexplored k (hkinds hk) hunknown

/-- The fields that are declared are enough for every search to go as deep as it has to. -/
theorem unknownKinds_le_fieldCount (s : Sources) (known : List Class) :
    unknownKinds s known ≤ fieldCount s :=
  Nat.le_trans (List.length_filter_le _ _) (length_possibleKinds s)

/-- A search fails exactly if it can reach a type without a plan. -/
theorem firstFailure_isSome : (firstFailure s known c).isSome ↔
    ∃ b, Reaches s known c b ∧ ∃ e, planFor s b = .error e := by
  constructor
  · intro h
    obtain ⟨e, he⟩ := Option.isSome_iff_exists.1 h
    obtain ⟨b, hreach, hb⟩ := reaches_of_visit_eq_some he
    exact ⟨b, hreach, e, hb⟩
  · rintro ⟨b, hreach, e, he⟩
    rw [← Option.ne_none_iff_isSome]
    intro hnone
    obtain ⟨plan, hplan, -⟩ := plan_of_reaches (unknownKinds_le_fieldCount s _) hnone hreach
    rw [he] at hplan
    cases hplan

end Reach

/-! ## Types that need not be searched again -/

section Union
variable {s : Sources}

/-- All the types have plans, and whatever is nested in one of them is one of them. -/
def Finished (s : Sources) (done : List Class) : Prop :=
  ∀ b ∈ done, ∃ plan, planFor s b = .ok plan ∧ nestedKinds plan ⊆ done

theorem visitAll_finished {done : List Class} {v : List Class → Class → Option Error × List Class}
    (hv : ∀ known, ∀ k ∈ done, (v known k).1 = none ∧ (v known k).2 ⊆ known ++ done)
    {kinds : List Class} (hkinds : kinds ⊆ done) (known : List Class) :
    (visitAll v known kinds).1 = none ∧ (visitAll v known kinds).2 ⊆ known ++ done := by
  induction kinds generalizing known with
  | nil => exact ⟨rfl, List.subset_append_left _ _⟩
  | cons k kinds ih =>
    obtain ⟨hk, hkinds⟩ := List.cons_subset.1 hkinds
    rw [visitAll]
    split
    · exact ih hkinds known
    · obtain ⟨hnone, hsub⟩ := hv known k hk
      rcases hvisit : v known k with ⟨_ | e, known'⟩ <;> rw [hvisit] at hnone hsub
      · obtain ⟨hrest, hsub'⟩ := ih hkinds known'
        refine ⟨hrest, fun x hx => ?_⟩
        rcases List.mem_append.1 (hsub' hx) with hx | hx
        · exact hsub hx
        · exact List.mem_append_right _ hx
      · cases hnone

/-- Nothing fails in a search among finished types, and nothing else is entered. -/
theorem visit_finished {done : List Class} (hdone : Finished s done) (depth : Nat)
    (known : List Class) {c : Class} (hc : c ∈ done) :
    (visit s depth known c).1 = none ∧ (visit s depth known c).2 ⊆ known ++ done := by
  obtain ⟨plan, hplan, hkinds⟩ := hdone c hc
  have hnote : note known c ⊆ known ++ done := fun k hk => by
    rcases mem_note.1 hk with hk | rfl
    · exact List.mem_append_left _ hk
    · exact List.mem_append_right _ hc
  -- a search among finished types may stop anywhere, so nothing is asked of the depth
  induction depth generalizing known c plan with
  | zero =>
    rw [visit, hplan]
    exact ⟨rfl, hnote⟩
  | succ depth ih =>
    rw [visit, hplan]
    obtain ⟨hnone, hsub⟩ := visitAll_finished (fun known k hk => by
      obtain ⟨plan, hplan, hkinds⟩ := hdone k hk
      refine ih known hk plan hplan hkinds fun x hx => ?_
      rcases mem_note.1 hx with hx | rfl
      · exact List.mem_append_left _ hx
      · exact List.mem_append_right _ hk) hkinds (note known c)
    refine ⟨hnone, fun x hx => ?_⟩
    rcases List.mem_append.1 (hsub hx) with hx | hx
    · exact hnote hx
    · exact List.mem_append_right _ hx

/-- The second list has the types of the first one and the finished ones. -/
def Extends (done known more : List Class) : Prop :=
  ∀ k, k ∈ more ↔ k ∈ known ∨ k ∈ done

theorem Extends.note {done known more : List Class} (h : Extends done known more) (c : Class) :
    Extends done (note known c) (note more c) := by
  intro k
  rw [mem_note, mem_note, h k, or_right_comm]

theorem visitAll_union {done : List Class} (hdone : Finished s done) {depth : Nat}
    (hv : ∀ known more c, Extends done known more →
      (visit s depth more c).1 = (visit s depth known c).1 ∧
        Extends done (visit s depth known c).2 (visit s depth more c).2)
    (kinds : List Class) {known more : List Class} (h : Extends done known more) :
    (visitAll (visit s depth) more kinds).1 = (visitAll (visit s depth) known kinds).1 ∧
      Extends done (visitAll (visit s depth) known kinds).2
        (visitAll (visit s depth) more kinds).2 := by
  induction kinds generalizing known more with
  | nil => exact ⟨rfl, h⟩
  | cons k kinds ih =>
    rw [visitAll, visitAll]
    by_cases hknown : k ∈ known
    · rw [if_pos ((h k).2 (.inl hknown)), if_pos hknown]
      exact ih h
    · rw [if_neg hknown]
      by_cases hfinished : k ∈ done
      · -- only the search that does not know the finished types goes through them
        rw [if_pos ((h k).2 (.inr hfinished))]
        obtain ⟨hnone, hsub⟩ := visit_finished hdone depth known hfinished
        have hgrow := subset_visit (s := s) depth known k
        rcases hvisit : visit s depth known k with ⟨_ | e, known'⟩ <;> rw [hvisit] at hnone hsub hgrow
        · refine ih fun x => ?_
          rw [h x]
          constructor
          · exact fun hx => hx.imp (fun hx => hgrow hx) id
          · exact fun hx => hx.elim (fun hx => List.mem_append.1 (hsub hx)) .inr
        · cases hnone
      -- both searches enter the type
      · have hmore : k ∉ more := fun hk => ((h k).1 hk).elim hknown hfinished
        rw [if_neg hmore]
        obtain ⟨hsame, hext⟩ := hv known more k h
        rcases hvisit : visit s depth known k with ⟨r, known'⟩
        rcases hvisit' : visit s depth more k with ⟨r', more'⟩
        rw [hvisit, hvisit'] at hsame hext
        dsimp only at hsame hext
        rw [hsame]
        cases r with
        | none => exact ih hext
        | some e => exact ⟨rfl, hext⟩

/-- A search that knows finished types in addition comes to the same failure, or to its end as well. -/
theorem visit_union {done : List Class} (hdone : Finished s done) (depth : Nat)
    (known more : List Class) (c : Class) (h : Extends done known more) :
    (visit s depth more c).1 = (visit s depth known c).1 ∧
      Extends done (visit s depth known c).2 (visit s depth more c).2 := by
  induction depth generalizing known more c with
  | zero =>
    rw [visit, visit]
    cases planFor s c with
    | ok plan => exact ⟨rfl, h.note c⟩
    | error e => exact ⟨rfl, h⟩
  | succ depth ih =>
    rw [visit, visit]
    cases planFor s c with
    | ok plan => exact visitAll_union hdone ih _ (h.note c)
    | error e => exact ⟨rfl, h⟩

/-- Finished types do not change what a search fails with. -/
theorem firstFailure_of_finished {done : List Class} (hdone : Finished s done) (c : Class) :
    firstFailure s done c = firstFailure s [] c :=
  (visit_union hdone (fieldCount s) [] done c fun k => by simp).1

/-- A search that comes to its end from where all was finished leaves all finished. -/
theorem Finished.visit {known : List Class} (h : Finished s known) {c : Class}
    (hnone : firstFailure s known c = none) :
    Finished s (visit s (fieldCount s) known c).2 := by
  have hgrow := subset_visit (s := s) (fieldCount s) known c
  obtain ⟨hexplored, -⟩ := explored_visit (unknownKinds_le_fieldCount s _) hnone
  intro b hb
  by_cases hknown : b ∈ known
  · obtain ⟨plan, hplan, hkinds⟩ := h b hknown
    exact ⟨plan, hplan, List.Subset.trans hkinds hgrow⟩
  · exact hexplored b hb hknown

end Union

end FieldRules.Plans
