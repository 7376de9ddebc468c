import FieldRules.Proofs.Plan.Search

/-!
# Compiling all that is nested

Compiling a class goes into the types nested in it, without a bound on the depth. `Performs` says what this comes
to, with the types whose plans are computed on the way. A plan is kept before the types nested in it are entered,
so a type that is come to again is passed by, and the way has an end even if types refer to each other
(`exists_performs`).

A kept type may be one whose nested types are still being compiled, further out on the same way. So what is kept
is not closed under nesting on the way; but among types that can all be compiled nothing stops the way, and
whoever has kept a type goes through all that is nested in it (`Performs.closes`). Hence, whatever was compiled
before, a class ends up with everything that is reached from it, each plan of which is computed once
(`compileType_closed`).
-/

namespace FieldRules.Plans

open Cache

/-! ## The way through nested types -/

/-- What is to be done: to compile a class, or to go through the elements of a plan for the types nested there. -/
inductive Job where
  | compile (c : Class)
  | walk (rest : Plan)

/-- The types whose plans a request computes: the one that is asked for, unless it is found in the cache. -/
def computed (p : Plans) (c : Class) : List Class :=
  if (p.types.find? c).isNone then [c] else []

/-- Whether a walk enters the type of an element. -/
def enters (p : Plans) (e : Element) : Bool :=
  e.nested && !p.types.contains e.kind

/-- Jobs that are done from one state to another, with the types whose plans are computed, in their order, and
the failure that may have ended the job. -/
inductive Performs (s : Sources) : Job → Plans → List Class → Except Error Unit → Plans → Prop
  | fails {c : Class} {p p₁ : Plans} {e : Error} : planOf s c p = (.error e, p₁) →
      Performs s (.compile c) p (computed p c) (.error e) p₁
  | compiles {c : Class} {p p₁ p₂ : Plans} {plan : Plan} {log : List Class} {r : Except Error Unit} :
      planOf s c p = (.ok plan, p₁) → Performs s (.walk plan) p₁ log r p₂ →
      Performs s (.compile c) p (computed p c ++ log) r p₂
  | done {p : Plans} : Performs s (.walk []) p [] (.ok ()) p
  | passes {e : Element} {rest : Plan} {p p₁ : Plans} {log : List Class} {r : Except Error Unit} :
      enters p e = false → Performs s (.walk rest) p log r p₁ → Performs s (.walk (e :: rest)) p log r p₁
  | enters {e : Element} {rest : Plan} {p p₁ p₂ : Plans} {log log' : List Class} {r : Except Error Unit} :
      Plans.enters p e = true → Performs s (.compile e.kind) p log (.ok ()) p₁ →
      Performs s (.walk rest) p₁ log' r p₂ → Performs s (.walk (e :: rest)) p (log ++ log') r p₂
  | stops {e : Element} {rest : Plan} {p p₁ : Plans} {log : List Class} {err : Error} :
      Plans.enters p e = true → Performs s (.compile e.kind) p log (.error err) p₁ →
      Performs s (.walk (e :: rest)) p log (.error err) p₁

/-- Classes that are compiled one after the other, whether they fail or not. -/
inductive Calls (s : Sources) : List Class → Plans → List Class → Plans → Prop
  | done {p : Plans} : Calls s [] p [] p
  | call {c : Class} {cs : List Class} {p p₁ p₂ : Plans} {log log' : List Class} {r : Except Error Unit} :
      Performs s (.compile c) p log r p₁ → Calls s cs p₁ log' p₂ → Calls s (c :: cs) p (log ++ log') p₂

/-- A type is nested in the plan that another one has. -/
def NestedIn (s : Sources) (p₀ : Plans) (b k : Class) : Prop :=
  ∃ plan, planFrom s p₀ b = .ok plan ∧ k ∈ nestedKinds plan

/-- A type is reached from another one through types nested in each other. -/
def Nests (s : Sources) (p₀ : Plans) : Class → Class → Prop :=
  Relation.ReflTransGen (NestedIn s p₀)

/-! ## Requests for plans -/

section Requests
variable {s : Sources} {p₀ p p₁ : Plans} {b c : Class}

theorem computed_eq (p : Plans) (c : Class) : computed p c = if c ∈ keptTypes p then [] else [c] := by
  unfold computed keptTypes
  cases hfind : p.types.find? c with
  | none =>
    have hmem : c ∉ p.types.entries.map Prod.fst := by
      rw [← find?_isSome, hfind]
      simp
    rw [if_neg hmem, Option.isNone_none, if_pos rfl]
  | some e =>
    have hmem : c ∈ p.types.entries.map Prod.fst := by
      rw [← find?_isSome, hfind]
      rfl
    rw [if_pos hmem, Option.isNone_some, if_neg Bool.false_ne_true]

/-- A request has the outcome that was known, and keeps the type if it has a plan. -/
theorem planFrom_of_planOf (h : Follows s p₀ p) {r : Except Error Plan} (hrun : planOf s c p = (r, p₁)) :
    planFrom s p₀ c = r ∧ Follows s p₀ p₁ ∧
      ∀ k, k ∈ keptTypes p₁ ↔ k ∈ keptTypes p ∨ k = c ∧ ∃ plan, r = .ok plan := by
  obtain ⟨p', hrun', hfollows, htypes⟩ := h.planOf_eq c
  rw [hrun] at hrun'
  cases hrun'
  refine ⟨rfl, hfollows, fun k => ?_⟩
  unfold keptTypes
  rw [htypes, mem_keys_remember]

/-- A type that is entered is nested, and it is not kept yet. -/
theorem unknown_of_enters (hp : Follows s p₀ p) {e : Element} (h : enters p e = true) :
    e.nested = true ∧ e.kind ∉ keptTypes p := by
  obtain ⟨hnested, hcontains⟩ := Bool.and_eq_true_iff.1 h
  refine ⟨hnested, fun hmem => ?_⟩
  rw [hp.types.contains_iff.2 hmem] at hcontains
  cases hcontains

end Requests

/-! ## What jobs keep -/

section Jobs
variable {s : Sources} {p₀ p p' : Plans} {job : Job} {log : List Class} {r : Except Error Unit} {b : Class}

/-- A job leads on, and nothing that is kept is forgotten. -/
theorem Performs.follows (h : Performs s job p log r p') (hp : Follows s p₀ p) :
    Follows s p₀ p' ∧ keptTypes p ⊆ keptTypes p' := by
  induction h with
  | fails hrun =>
    obtain ⟨-, hfollows, hkept⟩ := planFrom_of_planOf hp hrun
    exact ⟨hfollows, fun k hk => (hkept k).2 (.inl hk)⟩
  | compiles hrun _ ih =>
    obtain ⟨-, hfollows, hkept⟩ := planFrom_of_planOf hp hrun
    obtain ⟨hfollows', hsub⟩ := ih hfollows
    exact ⟨hfollows', fun k hk => hsub ((hkept k).2 (.inl hk))⟩
  | done => exact ⟨hp, List.Subset.refl _⟩
  | passes _ _ ih => exact ih hp
  | enters _ _ _ ihEnter ihRest =>
    obtain ⟨hfollows, hsub⟩ := ihEnter hp
    obtain ⟨hfollows', hsub'⟩ := ihRest hfollows
    exact ⟨hfollows', List.Subset.trans hsub hsub'⟩
  | stops _ _ ih => exact ih hp

/-- What a request computes is counted where the type is kept by it. -/
theorem count_planOf {p₁ : Plans} {c : Class} {r : Except Error Plan} (hp : Follows s p₀ p)
    (hrun : planOf s c p = (r, p₁)) (hb : ∃ plan, planFrom s p₀ b = .ok plan) :
    (computed p c).count b + (if b ∈ keptTypes p then 1 else 0) = if b ∈ keptTypes p₁ then 1 else 0 := by
  obtain ⟨hplan, -, hkept⟩ := planFrom_of_planOf hp hrun
  rw [computed_eq]
  by_cases hbc : b = c
  · subst hbc
    have hnow : b ∈ keptTypes p₁ := (hkept b).2 (.inr ⟨rfl, hplan ▸ hb⟩)
    by_cases hbefore : b ∈ keptTypes p
    · simp [hnow, hbefore]
    · simp [hnow, hbefore]
  · -- a request for another type neither computes this one nor changes whether it is kept
    have hsame : b ∈ keptTypes p₁ ↔ b ∈ keptTypes p := by
      rw [hkept]
      simp [hbc]
    have hcount : (if c ∈ keptTypes p then [] else [c]).count b = 0 := by
      split
      · rfl
      · simp [Ne.symm hbc]
    simp only [hsame, hcount, Nat.zero_add]

/-- The plan of a type that has one is computed when the type is kept, and never again. -/
theorem Performs.count (h : Performs s job p log r p') (hp : Follows s p₀ p)
    (hb : ∃ plan, planFrom s p₀ b = .ok plan) :
    log.count b + (if b ∈ keptTypes p then 1 else 0) = if b ∈ keptTypes p' then 1 else 0 := by
  induction h with
  | fails hrun => exact count_planOf hp hrun hb
  | compiles hrun _ ih =>
    have hfirst := count_planOf hp hrun hb
    have hrest := ih (planFrom_of_planOf hp hrun).2.1
    rw [List.count_append]
    omega
  | done => simp
  | passes _ _ ih => exact ih hp
  | enters _ henter _ ihEnter ihRest =>
    have hfirst := ihEnter hp
    have hrest := ihRest (henter.follows hp).1
    rw [List.count_append]
    omega
  | stops _ _ ih => exact ih hp

theorem tickets_planOf {p₁ : Plans} {c : Class} {r : Except Error Plan} (hp : Follows s p₀ p)
    (hrun : planOf s c p = (r, p₁)) : p₁.types.tickets = p.types.tickets + (computed p c).length := by
  obtain ⟨p', hrun', -, htypes⟩ := hp.planOf_eq c
  rw [hrun] at hrun'
  cases hrun'
  rw [htypes]
  unfold Cache.remember computed
  cases p.types.find? c with
  | some e => rfl
  | none => cases planFrom s p₀ c <;> rfl

/-- For every plan that is computed the cache of types has given a ticket, and for nothing else. -/
theorem Performs.tickets (h : Performs s job p log r p') (hp : Follows s p₀ p) :
    p'.types.tickets = p.types.tickets + log.length := by
  induction h with
  | fails hrun => exact tickets_planOf hp hrun
  | compiles hrun _ ih =>
    rw [ih (planFrom_of_planOf hp hrun).2.1, tickets_planOf hp hrun, List.length_append, Nat.add_assoc]
  | done => rfl
  | passes _ _ ih | stops _ _ ih => exact ih hp
  | enters _ henter _ ihEnter ihRest =>
    rw [ihRest (henter.follows hp).1, ihEnter hp, List.length_append, Nat.add_assoc]

/-- A job is done in one way only. -/
theorem Performs.unique (h : Performs s job p log r p') {log' : List Class} {r' : Except Error Unit}
    {p'' : Plans} (h' : Performs s job p log' r' p'') : log = log' ∧ r = r' ∧ p' = p'' := by
  -- the request and the question whether an element is entered each have one answer, which leaves one constructor
  induction h generalizing log' r' p'' with
  | fails hrun =>
    cases h' with
    | fails hrun' =>
      rw [hrun] at hrun'
      cases hrun'
      exact ⟨rfl, rfl, rfl⟩
    | compiles hrun' _ =>
      rw [hrun] at hrun'
      cases hrun'
  | compiles hrun _ ih =>
    cases h' with
    | fails hrun' =>
      rw [hrun] at hrun'
      cases hrun'
    | compiles hrun' hwalk' =>
      rw [hrun] at hrun'
      cases hrun'
      obtain ⟨rfl, rfl, rfl⟩ := ih hwalk'
      exact ⟨rfl, rfl, rfl⟩
  | done =>
    cases h'
    exact ⟨rfl, rfl, rfl⟩
  | passes hpass _ ih =>
    cases h' with
    | passes _ hwalk' => exact ih hwalk'
    | enters henters' _ _ | stops henters' _ =>
      rw [hpass] at henters'
      cases henters'
  | enters henters _ _ ihEnter ihRest =>
    cases h' with
    | passes hpass' _ =>
      rw [henters] at hpass'
      cases hpass'
    | enters _ hcompile' hwalk' =>
      obtain ⟨rfl, -, rfl⟩ := ihEnter hcompile'
      obtain ⟨rfl, rfl, rfl⟩ := ihRest hwalk'
      exact ⟨rfl, rfl, rfl⟩
    | stops _ hcompile' => cases (ihEnter hcompile').2.1
  | stops henters _ ih =>
    cases h' with
    | passes hpass' _ =>
      rw [henters] at hpass'
      cases hpass'
    | enters _ hcompile' _ => cases (ih hcompile').2.1
    | stops _ hcompile' => exact ih hcompile'

/-- Types that all have plans, with all that is nested in them. -/
def Closed (s : Sources) (p₀ : Plans) (S : Class → Prop) : Prop :=
  ∀ b, S b → ∃ plan, planFrom s p₀ b = .ok plan ∧ ∀ k ∈ nestedKinds plan, S k

/-- What a job is about: the class, or the types nested in the elements. -/
def Job.targets : Job → List Class
  | .compile c => [c]
  | .walk rest => nestedKinds rest

/-- Of the types in the set, those that are kept now and were not before have what is nested in them kept. -/
def Finishes (s : Sources) (p₀ : Plans) (S : Class → Prop) (p p' : Plans) : Prop :=
  ∀ b ∈ keptTypes p', S b → b ∉ keptTypes p → ∀ k, NestedIn s p₀ b k → k ∈ keptTypes p'

theorem Finishes.trans {S : Class → Prop} {p p₁ p₂ : Plans} (h : Finishes s p₀ S p p₁)
    (h' : Finishes s p₀ S p₁ p₂) (hsub : keptTypes p₁ ⊆ keptTypes p₂) : Finishes s p₀ S p p₂ := by
  intro b hb hS hbefore k hk
  by_cases hnow : b ∈ keptTypes p₁
  · exact hsub (h b hnow hS hbefore k hk)
  · exact h' b hb hS hnow k hk

/-- A call that keeps the plan of a class finishes what the walk through the plan finishes, and the class itself
if the walk keeps all that is nested in it. -/
theorem Finishes.of_planOf {S : Class → Prop} {c : Class} {p p₁ p₂ : Plans} {plan : Plan} (hp : Follows s p₀ p)
    (hrun : planOf s c p = (.ok plan, p₁)) (hwalk : Finishes s p₀ S p₁ p₂)
    (hnested : S c → nestedKinds plan ⊆ keptTypes p₂) : Finishes s p₀ S p p₂ := by
  obtain ⟨hplan, -, hkept⟩ := planFrom_of_planOf hp hrun
  intro b hb hSb hbefore k hk
  by_cases hnow : b ∈ keptTypes p₁
  · rcases (hkept b).1 hnow with hold | ⟨rfl, -⟩
    · exact absurd hold hbefore
    · obtain ⟨plan', hplan', hk⟩ := hk
      rw [hplan] at hplan'
      cases hplan'
      exact hnested hSb hk
  · exact hwalk b hb hSb hnow k hk

/-- Among types that can all be compiled a job comes to its end with all that it is about, and any job finishes
those of these types that it keeps. -/
theorem Performs.closes {S : Class → Prop} (hS : Closed s p₀ S) (h : Performs s job p log r p')
    (hp : Follows s p₀ p) :
    ((∀ k ∈ job.targets, S k) → r = .ok () ∧ job.targets ⊆ keptTypes p') ∧ Finishes s p₀ S p p' := by
  induction h with
  | @fails c p p₁ e hrun =>
    obtain ⟨hplan, -, hkept⟩ := planFrom_of_planOf hp hrun
    constructor
    · intro hc
      obtain ⟨plan, hplan', -⟩ := hS c (hc c (List.mem_singleton_self c))
      rw [hplan] at hplan'
      cases hplan'
    · intro b hb _ hbefore
      rcases (hkept b).1 hb with hb | ⟨-, plan, hplan⟩
      · exact absurd hb hbefore
      · cases hplan
  | @compiles c p p₁ p₂ plan log r hrun hwalk ih =>
    obtain ⟨hplan, hfollows, hkept⟩ := planFrom_of_planOf hp hrun
    obtain ⟨hends, hfinishes⟩ := ih hfollows
    obtain ⟨-, hsub⟩ := hwalk.follows hfollows
    have hmem : c ∈ keptTypes p₁ := (hkept c).2 (.inr ⟨rfl, plan, rfl⟩)
    -- the walk goes through what is nested in the class
    have hnested : S c → r = .ok () ∧ nestedKinds plan ⊆ keptTypes p₂ := by
      intro hc
      obtain ⟨plan', hplan', hkinds⟩ := hS c hc
      rw [hplan] at hplan'
      cases hplan'
      exact hends hkinds
    refine ⟨fun hc => ⟨(hnested (hc c (List.mem_singleton_self c))).1, ?_⟩,
      Finishes.of_planOf hp hrun hfinishes fun hc => (hnested hc).2⟩
    intro k hk
    rw [List.mem_singleton.1 hk]
    exact hsub hmem
  | done => exact ⟨fun _ => ⟨rfl, List.nil_subset _⟩, fun b hb _ hbefore => absurd hb hbefore⟩
  | @passes e rest p p₁ log r hpass hwalk ih =>
    obtain ⟨hends, hfinishes⟩ := ih hp
    refine ⟨fun hall => ?_, hfinishes⟩
    simp only [Job.targets, nestedKinds_cons] at hall hends ⊢
    cases hnested : e.nested with
    | false =>
      rw [hnested, if_neg Bool.false_ne_true] at hall
      rw [if_neg Bool.false_ne_true]
      exact hends hall
    | true =>
      rw [hnested, if_pos rfl] at hall
      rw [if_pos rfl]
      obtain ⟨hr, hrest⟩ := hends fun k hk => hall k (List.mem_cons_of_mem _ hk)
      -- a nested type is passed by because it is kept
      have hcontains : p.types.contains e.kind = true := by
        simpa [Plans.enters, hnested] using hpass
      exact ⟨hr, List.cons_subset.2 ⟨(hwalk.follows hp).2 (hp.types.contains_iff.1 hcontains), hrest⟩⟩
  | @enters e rest p p₁ p₂ log log' r henters hcompile hwalk ihCompile ihWalk =>
    obtain ⟨hfollows, -⟩ := hcompile.follows hp
    obtain ⟨-, hsub⟩ := hwalk.follows hfollows
    obtain ⟨hends, hfinishes⟩ := ihCompile hp
    obtain ⟨hends', hfinishes'⟩ := ihWalk hfollows
    refine ⟨fun hall => ?_, hfinishes.trans hfinishes' hsub⟩
    obtain ⟨hnested, -⟩ := unknown_of_enters hp henters
    simp only [Job.targets, nestedKinds_cons, hnested, if_true, List.forall_mem_cons] at hall hends hends' ⊢
    obtain ⟨-, hkind⟩ := hends ⟨hall.1, List.forall_mem_nil _⟩
    obtain ⟨hr, hrest⟩ := hends' hall.2
    exact ⟨hr, List.cons_subset.2 ⟨hsub (hkind (List.mem_singleton_self _)), hrest⟩⟩
  | @stops e rest p p₁ log err henters hcompile ih =>
    obtain ⟨hends, hfinishes⟩ := ih hp
    refine ⟨fun hall => ?_, hfinishes⟩
    obtain ⟨hnested, -⟩ := unknown_of_enters hp henters
    simp only [Job.targets, nestedKinds_cons, hnested, if_true, List.forall_mem_cons] at hall hends
    obtain ⟨hr, -⟩ := hends ⟨hall.1, List.forall_mem_nil _⟩
    cases hr

end Jobs

/-! ## Every way has an end -/

section Ends
variable {s : Sources} {p₀ p : Plans}

theorem performs_walk_of_kept {rest : Plan} (h : ∀ e ∈ rest, enters p e = false) :
    Performs s (.walk rest) p [] (.ok ()) p := by
  induction rest with
  | nil => exact .done
  | cons e rest ih =>
    exact .passes (h e (List.mem_cons_self ..)) (ih fun e' he' => h e' (List.mem_cons_of_mem e he'))

/-- The outcome of compiling a class, without the plan. -/
def ending (r : Except Error Plan) : Except Error Unit :=
  r.map fun _ => ()

/-- Compiling with a bound on the depth is compiling without one, where the bound is high enough. -/
def WithinBound (s : Sources) (p₀ : Plans) (depth : Nat) : Prop :=
  ∀ p c, Follows s p₀ p → unknownKinds s (note (keptTypes p) c) ≤ depth →
    ∃ log, Performs s (.compile c) p log (ending (compileTypeWithin s depth c p).1)
      (compileTypeWithin s depth c p).2

/-- Going through a plan with a bound on the depth is going through it without one. -/
theorem exists_performs_walk {depth : Nat} (hbound : WithinBound s p₀ depth) {rest : Plan}
    (hkinds : nestedKinds rest ⊆ possibleKinds s) (hp : Follows s p₀ p)
    (hdepth : unknownKinds s (keptTypes p) ≤ depth + 1) :
    ∃ r log p', (rest.forM fun e => do
        if e.nested && !(← get).types.contains e.kind then
          discard (compileTypeWithin s depth e.kind) : Plans.Run PUnit) p = (r, p') ∧
      Performs s (.walk rest) p log r p' := by
  induction rest generalizing p with
  | nil => exact ⟨.ok (), [], p, rfl, .done⟩
  | cons e rest ih =>
    rw [nestedKinds_cons] at hkinds
    rw [List.forM_eq_forM] at ih ⊢
    rw [List.forM_cons, Run.bind_eq, compileNested_eq]
    cases henters : enters p e with
    | false =>
      have hrest : nestedKinds rest ⊆ possibleKinds s := by
        split at hkinds
        · exact fun k hk => hkinds (List.mem_cons_of_mem _ hk)
        · exact hkinds
      obtain ⟨r, log, p', hrun, hwalk⟩ := ih hrest hp hdepth
      rw [if_neg (by rw [← enters, henters]; exact Bool.false_ne_true)]
      exact ⟨r, log, p', hrun, .passes henters hwalk⟩
    | true =>
      obtain ⟨hnested, hunknown⟩ := unknown_of_enters hp henters
      rw [if_pos hnested] at hkinds
      obtain ⟨hkind, hrest⟩ := List.cons_subset.1 hkinds
      -- the type is not kept yet, so one unknown type less is left for the way beneath it
      have hlt := unknownKinds_note_lt hkind hunknown
      obtain ⟨log, hcompile⟩ := hbound p e.kind hp (by omega)
      obtain ⟨hfollows, hsub⟩ := hcompile.follows hp
      have hcond : (e.nested && !p.types.contains e.kind) = true := henters
      rw [if_pos hcond]
      rcases hrun : compileTypeWithin s depth e.kind p with ⟨err | plan, p₁⟩ <;>
        rw [hrun] at hcompile hfollows hsub
      · exact ⟨.error err, log, p₁, rfl, .stops henters hcompile⟩
      · have hle := unknownKinds_le_of_subset (s := s) hsub
        obtain ⟨r, log', p', hrest, hwalk⟩ := ih hrest hfollows (Nat.le_trans hle hdepth)
        exact ⟨r, log ++ log', p', hrest, .enters henters hcompile hwalk⟩

theorem planFrom_of_empty (hempty : p₀.types.entries = []) (c : Class) :
    planFrom s p₀ c = newPlanFrom s p₀ c := by
  unfold planFrom Cache.keptOr Cache.kept? Cache.find?
  rw [hempty]
  rfl

theorem nestedKinds_subset (hempty : p₀.types.entries = []) {c : Class} {plan : Plan}
    (hplan : planFrom s p₀ c = .ok plan) : nestedKinds plan ⊆ possibleKinds s := by
  intro k hk
  rw [planFrom_of_empty hempty] at hplan
  exact mem_possibleKinds_of_newPlanFrom hplan hk

/-- A request that gives a plan makes its class known. -/
theorem unknownKinds_planOf {p₁ : Plans} {c : Class} {plan : Plan} (hp : Follows s p₀ p)
    (hrun : planOf s c p = (.ok plan, p₁)) :
    unknownKinds s (keptTypes p₁) ≤ unknownKinds s (note (keptTypes p) c) := by
  obtain ⟨-, -, hkept⟩ := planFrom_of_planOf hp hrun
  refine unknownKinds_le_of_subset fun k hk => (hkept k).2 ?_
  exact (mem_note.1 hk).imp id fun hk => ⟨hk, plan, rfl⟩

/-- The bound is high enough if it is the number of types that can be nested and are not known. -/
theorem withinBound (hempty : p₀.types.entries = []) (depth : Nat) : WithinBound s p₀ depth := by
  induction depth with
  | zero =>
    intro p c hp hdepth
    unfold compileTypeWithin
    rcases hrun : planOf s c p with ⟨e | plan, p₁⟩
    · exact ⟨_, .fails hrun⟩
    · obtain ⟨hplan, hfollows, -⟩ := planFrom_of_planOf hp hrun
      have hle := unknownKinds_planOf hp hrun
      -- nothing that can be nested is unknown, so nothing is entered
      refine ⟨_, .compiles hrun (performs_walk_of_kept fun e he => ?_)⟩
      by_contra henters
      obtain ⟨hnested, hunknown⟩ := unknown_of_enters hfollows (by simpa using henters)
      have hkind : e.kind ∈ nestedKinds plan :=
        List.mem_map.2 ⟨e, List.mem_filter.2 ⟨he, hnested⟩, rfl⟩
      have hlt := unknownKinds_note_lt (nestedKinds_subset hempty hplan hkind) hunknown
      omega
  | succ depth ih =>
    intro p c hp hdepth
    unfold compileTypeWithin
    rcases hrun : planOf s c p with ⟨e | plan, p₁⟩
    · rw [Run.bind_of_error hrun]
      exact ⟨_, .fails hrun⟩
    · obtain ⟨hplan, hfollows, -⟩ := planFrom_of_planOf hp hrun
      obtain ⟨r, log, p₂, hloop, hwalk⟩ := exists_performs_walk ih (nestedKinds_subset hempty hplan) hfollows
        (Nat.le_trans (unknownKinds_planOf hp hrun) hdepth)
      refine ⟨computed p c ++ log, ?_⟩
      rw [Run.bind_of_ok hrun, Run.bind_eq, hloop]
      cases r with
      | error e => exact .compiles hrun hwalk
      | ok u => exact .compiles hrun hwalk

/-- **Compiling a class comes to an end**: its outcome is that of the way through nested types without a bound on
the depth. -/
theorem exists_performs (hempty : p₀.types.entries = []) (hp : Follows s p₀ p) (c : Class) :
    ∃ log, Performs s (.compile c) p log (ending (compileType s c p).1) (compileType s c p).2 :=
  withinBound hempty (fieldCount s) p c hp (unknownKinds_le_fieldCount s _)

/-- A higher bound on the depth changes nothing. -/
theorem compileTypeWithin_eq (hempty : p₀.types.entries = []) (hp : Follows s p₀ p) {depth : Nat}
    (hdepth : fieldCount s ≤ depth) (c : Class) : compileTypeWithin s depth c p = compileType s c p := by
  have hunknown := unknownKinds_le_fieldCount s (note (keptTypes p) c)
  obtain ⟨log, hwithin⟩ := withinBound hempty depth p c hp (Nat.le_trans hunknown hdepth)
  obtain ⟨log', hcompile⟩ := exists_performs hempty hp c
  obtain ⟨-, hending, hstate⟩ := hwithin.unique hcompile
  refine Prod.ext ?_ hstate
  -- the plan of a class that is compiled is the one that was requested first
  cases hr : (compileTypeWithin s depth c p).1 with
  | error e =>
    cases hr' : (compileType s c p).1 with
    | error e' =>
      rw [hr, hr'] at hending
      cases hending
      rfl
    | ok plan =>
      rw [hr, hr'] at hending
      cases hending
  | ok plan =>
    cases hr' : (compileType s c p).1 with
    | error e =>
      rw [hr, hr'] at hending
      cases hending
    | ok plan' =>
      rw [← planOf_of_compileTypeWithin hr, ← planOf_of_compileTypeWithin hr']

end Ends

/-! ## Sequences of calls -/

section Calls
variable {s : Sources} {p₀ p p' : Plans} {cs : List Class} {log : List Class} {b c : Class}

/-- What is kept after classes were compiled one after the other, from what was kept at the beginning. -/
def afterFrom (s : Sources) (p : Plans) (cs : List Class) : Plans :=
  cs.foldl (fun p c => (compileType s c p).2) p

theorem exists_calls (hempty : p₀.types.entries = []) (hp : Follows s p₀ p) (cs : List Class) :
    ∃ log, Calls s cs p log (afterFrom s p cs) := by
  induction cs generalizing p with
  | nil => exact ⟨[], .done⟩
  | cons c cs ih =>
    obtain ⟨log, hcompile⟩ := exists_performs hempty hp c
    obtain ⟨log', hcalls⟩ := ih (hcompile.follows hp).1
    exact ⟨log ++ log', .call hcompile hcalls⟩

theorem Calls.follows (h : Calls s cs p log p') (hp : Follows s p₀ p) :
    Follows s p₀ p' ∧ keptTypes p ⊆ keptTypes p' := by
  induction h with
  | done => exact ⟨hp, List.Subset.refl _⟩
  | call hcompile _ ih =>
    obtain ⟨hfollows, hsub⟩ := hcompile.follows hp
    obtain ⟨hfollows', hsub'⟩ := ih hfollows
    exact ⟨hfollows', List.Subset.trans hsub hsub'⟩

theorem Calls.count (h : Calls s cs p log p') (hp : Follows s p₀ p)
    (hb : ∃ plan, planFrom s p₀ b = .ok plan) :
    log.count b + (if b ∈ keptTypes p then 1 else 0) = if b ∈ keptTypes p' then 1 else 0 := by
  induction h with
  | done => simp
  | call hcompile _ ih =>
    have hfirst := hcompile.count hp hb
    have hrest := ih (hcompile.follows hp).1
    rw [List.count_append]
    omega

theorem Calls.tickets (h : Calls s cs p log p') (hp : Follows s p₀ p) :
    p'.types.tickets = p.types.tickets + log.length := by
  induction h with
  | done => rfl
  | call hcompile _ ih =>
    rw [ih (hcompile.follows hp).1, hcompile.tickets hp, List.length_append, Nat.add_assoc]

/-- Calls finish those types that can all be compiled, and keep the ones among these that they are for. -/
theorem Calls.closes {S : Class → Prop} (hS : Closed s p₀ S) (h : Calls s cs p log p') (hp : Follows s p₀ p) :
    Finishes s p₀ S p p' ∧ ∀ c ∈ cs, S c → c ∈ keptTypes p' := by
  induction h with
  | done => exact ⟨fun b hb _ hbefore => absurd hb hbefore, fun c hc => nomatch hc⟩
  | @call c cs p p₁ p₂ log log' r hcompile hcalls ih =>
    obtain ⟨hends, hfinishes⟩ := hcompile.closes hS hp
    obtain ⟨hfollows, -⟩ := hcompile.follows hp
    obtain ⟨hfinishes', hmem⟩ := ih hfollows
    have hsub := (hcalls.follows hfollows).2
    refine ⟨hfinishes.trans hfinishes' hsub, fun c' hc' hSc' => ?_⟩
    rcases List.mem_cons.1 hc' with rfl | hc'
    · have htargets : ∀ k ∈ (Job.compile c').targets, S k := fun k hk => by
        rw [List.mem_singleton.1 hk]
        exact hSc'
      exact hsub ((hends htargets).2 (List.mem_singleton_self _))
    · exact hmem c' hc' hSc'

/-- The types that are reached from a class, if each of them has a plan. -/
theorem closed_nests (h : ∀ b, Nests s p₀ c b → ∃ plan, planFrom s p₀ b = .ok plan) :
    Closed s p₀ (Nests s p₀ c) := by
  intro b hb
  obtain ⟨plan, hplan⟩ := h b hb
  exact ⟨plan, hplan, fun k hk => hb.tail ⟨plan, hplan, hk⟩⟩

/-- After calls from where no type was kept, whatever is reached from a class that was called for is kept. -/
theorem Calls.nests_subset (h : Calls s cs p₀ log p') (hquiet : Quiet s.strict p₀)
    (hempty : p₀.types.entries = []) (hplans : ∀ b, Nests s p₀ c b → ∃ plan, planFrom s p₀ b = .ok plan)
    (hc : c ∈ cs) (hb : Nests s p₀ c b) : b ∈ keptTypes p' := by
  obtain ⟨hfinishes, hmem⟩ := h.closes (closed_nests hplans) hquiet.follows
  have hnone : ∀ k, k ∉ keptTypes p₀ := by
    intro k
    rw [keptTypes, hempty]
    exact List.not_mem_nil
  induction hb with
  | refl => exact hmem c hc .refl
  | @tail b k hb hk ih => exact hfinishes b ih hb (hnone b) k hk

/-- **Compiling all that is nested.** Calls start from where no type is kept, and every type that is reached from a
class has a plan. Then, whatever else is compiled before or after it:

* compiling the class gives its plan, and fails in no way;
* the way through nested types, which has no bound on its depth, has an end;
* on return every type that is reached from the class is kept;
* over all the calls, of which each has an end, the plan of every such type is computed once, where the plans
  that are computed are as many as the computations that the cache of types has started. -/
theorem compileType_closed (hquiet : Quiet s.strict p₀) (hempty : p₀.types.entries = [])
    (hplans : ∀ b, Nests s p₀ c b → ∃ plan, planFrom s p₀ b = .ok plan) (earlier later : List Class) :
    (∃ plan, (compileType s c (afterFrom s p₀ earlier)).1 = .ok plan ∧ planFrom s p₀ c = .ok plan) ∧
    (∃ log, Performs s (.compile c) (afterFrom s p₀ earlier) log (.ok ())
      (compileType s c (afterFrom s p₀ earlier)).2) ∧
    (∀ b, Nests s p₀ c b → (compileType s c (afterFrom s p₀ earlier)).2.types.contains b = true) ∧
    (∃ log, Calls s (earlier ++ c :: later) p₀ log (afterFrom s p₀ (earlier ++ c :: later))) ∧
    ∀ log p', Calls s (earlier ++ c :: later) p₀ log p' →
      p'.types.tickets = p₀.types.tickets + log.length ∧ ∀ b, Nests s p₀ c b → log.count b = 1 := by
  have hstart := hquiet.follows
  obtain ⟨log, hcalls⟩ := exists_calls hempty hstart earlier
  have hp := (hcalls.follows hstart).1
  obtain ⟨log', hcompile⟩ := exists_performs hempty hp c
  have htargets : ∀ k ∈ (Job.compile c).targets, Nests s p₀ c k := fun k hk => by
    rw [List.mem_singleton.1 hk]
    exact .refl
  obtain ⟨hends, -⟩ := hcompile.closes (closed_nests hplans) hp
  obtain ⟨hok, -⟩ := hends htargets
  refine ⟨?_, ⟨log', hok ▸ hcompile⟩, fun b hb => ?_, exists_calls hempty hstart _, ?_⟩
  · cases hrun : (compileType s c (afterFrom s p₀ earlier)).1 with
    | error e =>
      rw [hrun] at hok
      cases hok
    | ok plan => exact ⟨plan, rfl, (hp.compileType c).2 plan hrun⟩
  · -- The calls up to this one are calls from the start, after which all that they lead to is kept.
    obtain ⟨hfollows, hsub⟩ := hcompile.follows hp
    obtain ⟨log, hall⟩ := exists_calls hempty hstart (earlier ++ [c])
    have hafter : afterFrom s p₀ (earlier ++ [c]) = (compileType s c (afterFrom s p₀ earlier)).2 := by
      rw [afterFrom, List.foldl_append]
      rfl
    rw [hafter] at hall
    exact hfollows.types.contains_iff.2 (hall.nests_subset hquiet hempty hplans (by simp) hb)
  · -- A plan is computed once for a type that was not kept before and is kept in the end.
    intro log p' hall
    refine ⟨hall.tickets hstart, fun b hb => ?_⟩
    have hkept := hall.nests_subset hquiet hempty hplans (by simp) hb
    have hcount := hall.count hstart (hplans b hb)
    have hnone : b ∉ keptTypes p₀ := by
      rw [keptTypes, hempty]
      exact List.not_mem_nil
    rw [if_pos hkept, if_neg hnone] at hcount
    exact hcount

end Calls

/-! ## Types that are nested in each other -/

/-- Two classes, either of them nested in the other one. -/
def circle : Sources where
  declarations :=
    { classes :=
        [{ declared := ⟨⟨"models", "Parent"⟩, []⟩,
           annotations := [("child", .annotated (.classRef ⟨⟨"models", "Child"⟩, []⟩) [.nested])] },
         { declared := ⟨⟨"models", "Child"⟩, []⟩,
           annotations := [("parent", .annotated (.classRef ⟨⟨"models", "Parent"⟩, []⟩) [.nested])] }] }

theorem circle_closed :
    (∀ b, Nests circle {} ⟨⟨"models", "Parent"⟩, []⟩ b → ∃ plan, planFrom circle {} b = .ok plan) ∧
    ∀ log p', Calls circle [⟨⟨"models", "Child"⟩, []⟩, ⟨⟨"models", "Parent"⟩, []⟩] {} log p' →
      log.count ⟨⟨"models", "Parent"⟩, []⟩ = 1 := by
  have hplans : ∀ b, Nests circle {} ⟨⟨"models", "Parent"⟩, []⟩ b → ∃ plan, planFrom circle {} b = .ok plan := by
    intro b hb
    suffices hcases : b = ⟨⟨"models", "Parent"⟩, []⟩ ∨ b = ⟨⟨"models", "Child"⟩, []⟩ by
      rcases hcases with rfl | rfl <;> exact ⟨_, rfl⟩
    induction hb with
    | refl => exact .inl rfl
    | tail _ hk ih =>
      obtain ⟨plan, hplan, hk⟩ := hk
      rcases ih with rfl | rfl <;> cases hplan
      · exact .inr (List.mem_singleton.1 hk)
      · exact .inl (List.mem_singleton.1 hk)
  have hclosed := compileType_closed (Quiet.empty circle.strict) rfl hplans [⟨⟨"models", "Child"⟩, []⟩] []
  exact ⟨hplans, fun log p' hcalls => (hclosed.2.2.2.2 log p' hcalls).2 _ .refl⟩

end FieldRules.Plans
