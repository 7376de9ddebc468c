import FieldRules.Proofs.Plan.History

/-!
# Compiling between registrations

A class may be compiled, with any outcome, before entries are added to the rule table, and another class, or
the same one, after that. A plan that is not kept is made of the fields as they are then, with their labels
and their gates; but the fragments of a field are kept under the class that declares it and its name, whatever
its tags have become since (`compileType_registrations`). So the first plan of a class may put the new label
of a field beside its old fragments (`keeps_old_fragments`).
-/

namespace FieldRules.Plans

open Cache

/-! ## Registrations and compilations in turn -/

/-- An entry is added to the rule table, or a class is compiled. -/
inductive Act where
  | register (type : TypeName) (rule : FieldRule)
  | compile (c : Class)

/-- The sources as they stand, and what has been compiled from them and from earlier ones. -/
structure Compiler where
  sources : Sources
  plans : Plans := {}

namespace Compiler

/-- Goes on by one act. A compilation may fail, and keeps then what it has come to. -/
def act (k : Compiler) : Act → Compiler
  | .register type rule =>
    { k with sources := { k.sources with table := k.sources.table.add type rule } }
  | .compile c => { k with plans := (compileType k.sources c k.plans).2 }

/-- The compiler after some acts, from nothing compiled. -/
def after (s : Sources) (acts : List Act) : Compiler :=
  acts.foldl act ⟨s, {}⟩

theorem after_concat (s : Sources) (acts : List Act) (a : Act) :
    after s (acts ++ [a]) = (after s acts).act a := by
  unfold after
  rw [List.foldl_append]
  rfl

/-- Registrations change the rule table and nothing else of the sources. -/
theorem strict_after (s : Sources) (acts : List Act) : (after s acts).sources.strict = s.strict := by
  induction acts using List.reverseRecOn with
  | nil => rfl
  | append_singleton acts a ih =>
    rw [after_concat, ← ih]
    cases a <;> rfl

/-- The fragments that are kept for a member are not those of its tags. -/
def Stale (k : Compiler) (m : Member) : Prop :=
  ∃ fragments, k.plans.members.kept? m.key = some fragments ∧
    fragmentsOf k.sources.strict m.tags ≠ .ok fragments

end Compiler

/-! ## Where it comes from what is kept -/

/-- What is kept was right for the sources at the beginning of some compilation. -/
structure Dated (s : Sources) (acts : List Act) : Prop where
  quiet : Quiet s.strict (Compiler.after s acts).plans
  members : ∀ key fragments, (Compiler.after s acts).plans.members.kept? key = some fragments →
    ∃ before b, before ++ [.compile b] <+: acts ∧
      memberFor (Compiler.after s before).sources key = .ok fragments
  types : ∀ c plan, (Compiler.after s acts).plans.types.kept? c = some plan →
    ∃ before b, before ++ [.compile b] <+: acts ∧
      planFrom (Compiler.after s before).sources (Compiler.after s before).plans c = .ok plan

section Dated
variable {s : Sources} {acts : List Act}

theorem Dated.register (h : Dated s acts) (type : TypeName) (rule : FieldRule) :
    Dated s (acts ++ [.register type rule]) := by
  have hplans : (Compiler.after s (acts ++ [.register type rule])).plans = (Compiler.after s acts).plans := by
    rw [Compiler.after_concat]
    rfl
  constructor
  · rw [hplans]
    exact h.quiet
  · rw [hplans]
    intro key fragments hkept
    obtain ⟨before, b, hcut, hfragments⟩ := h.members key fragments hkept
    exact ⟨before, b, hcut.trans (List.prefix_append ..), hfragments⟩
  · rw [hplans]
    intro c plan hkept
    obtain ⟨before, b, hcut, hplan⟩ := h.types c plan hkept
    exact ⟨before, b, hcut.trans (List.prefix_append ..), hplan⟩

theorem Dated.compile (h : Dated s acts) (c : Class) : Dated s (acts ++ [.compile c]) := by
  have hplans : (Compiler.after s (acts ++ [.compile c])).plans
      = (compileType (Compiler.after s acts).sources c (Compiler.after s acts).plans).2 := by
    rw [Compiler.after_concat]
    rfl
  have hquiet := h.quiet
  rw [← Compiler.strict_after s acts] at hquiet
  have hfollows := (hquiet.follows.compileType c).1
  rw [← hplans] at hfollows
  -- what is kept now was kept before, or is right for the sources of this compilation
  constructor
  · have hquiet' := hfollows.quiet
    rwa [Compiler.strict_after] at hquiet'
  · intro key fragments hkept
    have hgood := hfollows.members.kept? hkept
    unfold keptOr at hgood
    split at hgood
    · next fragments' hbefore =>
      cases hgood
      obtain ⟨before, b, hcut, hfragments⟩ := h.members key fragments hbefore
      exact ⟨before, b, hcut.trans (List.prefix_append ..), hfragments⟩
    · exact ⟨acts, c, List.prefix_refl _, hgood⟩
  · intro b plan hkept
    exact ⟨acts, c, List.prefix_refl _, hfollows.types.kept? hkept⟩

theorem dated_after (s : Sources) (acts : List Act) : Dated s acts := by
  induction acts using List.reverseRecOn with
  | nil =>
    refine ⟨.empty _, ?_, ?_⟩
    · intro key fragments hkept
      cases hkept
    · intro c plan hkept
      cases hkept
  | append_singleton acts a ih =>
    cases a with
    | register type rule => exact ih.register type rule
    | compile c => exact ih.compile c

/-- As long as classes have been compiled from the same sources only, what is kept is right for these. -/
theorem settled_of_compiled (sources : Sources)
    (h : ∀ before b, before ++ [.compile b] <+: acts → (Compiler.after s before).sources = sources) :
    Settled sources (Compiler.after s acts).plans := by
  induction acts using List.reverseRecOn with
  | nil => exact .empty sources
  | append_singleton acts a ih =>
    have hbefore : Settled sources (Compiler.after s acts).plans := by
      apply ih
      intro before b hcut
      exact h before b (hcut.trans (List.prefix_append ..))
    rw [Compiler.after_concat]
    cases a with
    | register type rule => exact hbefore
    | compile c =>
      have hsources : (Compiler.after s acts).sources = sources := h acts c (List.prefix_refl _)
      show Settled sources (compileType (Compiler.after s acts).sources c (Compiler.after s acts).plans).2
      rw [hsources]
      exact (compileType_eq hbefore c).2.1

end Dated

/-! ## The elements of a plan that is made -/

section Elements
variable {s : Sources} {c : Class} {p₀ : Plans} {m : Member} {plan : Plan}

theorem name_of_elementOf {nested : Bool} {fragments : List Fragment} {e : Element}
    (h : elementOf m nested fragments = some e) : e.name = m.name := by
  unfold elementOf at h
  split at h
  · cases h
  · cases h
    rfl

/-- An element, or that there is none, tells the fragments. -/
theorem elementOf_injective {nested : Bool} {fragments fragments' : List Fragment}
    (h : elementOf m nested fragments = elementOf m nested fragments') : fragments = fragments' := by
  unfold elementOf at h
  split at h
  · next hnone =>
    split at h
    · next hnone' =>
      simp only [Bool.and_eq_true, List.isEmpty_iff] at hnone hnone'
      rw [hnone.2, hnone'.2]
    · cases h
  · split at h
    · cases h
    · cases h
      rfl

theorem name_of_elementFrom {e : Element} (he : elementFrom s p₀ m = .ok (some e)) : e.name = m.name := by
  obtain ⟨fragments, -, helement⟩ := elementFrom_eq_ok he
  exact name_of_elementOf helement.symm

/-- No element has a name that no field has. -/
theorem find?_elements_eq_none {members : List Member} {elements : List (Option Element)}
    (h : List.Forall₂ (fun m e? => elementFrom s p₀ m = .ok e?) members elements) {n : String}
    (hn : n ∉ members.map Member.name) : (elements.filterMap id).find? (fun e => e.name == n) = none := by
  simp only [List.find?_eq_none, beq_iff_eq]
  intro e hmem heq
  simp only [List.mem_filterMap, id_eq, exists_eq_right] at hmem
  obtain ⟨m, hm, he⟩ := exists_of_forall₂_right h hmem
  apply hn
  rw [← heq, name_of_elementFrom he]
  exact List.mem_map_of_mem hm

/-- The element of a field is the one in the plan that has its name. -/
theorem elementFrom_eq_find? {members : List Member} {elements : List (Option Element)}
    (h : List.Forall₂ (fun m e? => elementFrom s p₀ m = .ok e?) members elements)
    (hnames : (members.map Member.name).Nodup) :
    ∀ m ∈ members, elementFrom s p₀ m = .ok ((elements.filterMap id).find? fun e => e.name == m.name) := by
  induction h with
  | nil =>
    intro m hm
    cases hm
  | @cons m₀ e? members elements he hrest ih =>
    rw [List.map_cons, List.nodup_cons] at hnames
    intro m hm
    rcases List.mem_cons.1 hm with rfl | hm
    · cases e? with
      | none =>
        -- no element further on has the name, as it occurs once
        rw [List.filterMap_cons_none rfl, find?_elements_eq_none hrest hnames.1]
        exact he
      | some e =>
        have hfound : (e.name == m.name) = true := by
          rw [name_of_elementFrom he]
          exact beq_self_eq_true _
        simp only [List.filterMap_cons, id_eq, List.find?_cons, hfound]
        exact he
    · rw [ih hnames.2 m hm]
      cases e? with
      | none => rfl
      | some e =>
        have hother : (e.name == m.name) = false := by
          rw [beq_eq_false_iff_ne, name_of_elementFrom he]
          intro heq
          apply hnames.1
          rw [heq]
          exact List.mem_map_of_mem hm
        simp only [List.filterMap_cons, id_eq, List.find?_cons, hother]

/-- Every element of a plan that is made is that of a field with its fragments. -/
theorem exists_member_of_mem_newPlanFrom {members : List Member}
    (hfields : Member.fields s.declarations s.table c = .ok members)
    (h : newPlanFrom s p₀ c = .ok plan) {e : Element} (he : e ∈ plan) :
    ∃ m ∈ members, ∃ fragments, fragmentsFrom s p₀ m = .ok fragments ∧
      elementOf m (Tag.isNested m.tags && !m.kind.isPlain) fragments = some e := by
  obtain ⟨members', hfields', m, hm, hmem⟩ := exists_elementFrom_of_mem h he
  rw [hfields] at hfields'
  cases hfields'
  obtain ⟨fragments, hfragments, helement⟩ := elementFrom_eq_ok hmem
  exact ⟨m, hm, fragments, hfragments, helement.symm⟩

/-- Where the fields have the fragments of their tags, the plan that is made is the one of the sources. -/
theorem newPlanFrom_eq_planFor {members : List Member}
    (hfields : Member.fields s.declarations s.table c = .ok members)
    (h : ∀ m ∈ members, fragmentsFrom s p₀ m = fragmentsOf s.strict m.tags) :
    newPlanFrom s p₀ c = planFor s c := by
  have helements : members.mapM (elementFrom s p₀) = members.mapM (elementFor s.strict) := by
    clear hfields
    induction members with
    | nil => rfl
    | cons m members ih =>
      have hhead : elementFrom s p₀ m = elementFor s.strict m := by
        unfold elementFrom elementFor
        rw [h m (List.mem_cons_self ..)]
      have htail := ih fun m' hm' => h m' (List.mem_cons_of_mem m hm')
      rw [List.mapM_cons, List.mapM_cons, hhead, htail]
  unfold newPlanFrom planFor
  rw [hfields]
  show Except.bind (members.mapM (elementFrom s p₀)) _ = Except.bind (members.mapM (elementFor s.strict)) _
  rw [helements]

/-- The plan that is made is the one of the sources exactly if what is kept for the fields is what their tags
stand for. -/
theorem planFor_eq_newPlan_iff {k : Compiler} {members : List Member}
    (hfields : Member.fields k.sources.declarations k.sources.table c = .ok members)
    (h : newPlanFrom k.sources k.plans c = .ok plan) :
    planFor k.sources c = .ok plan ↔ ∀ m ∈ members, ¬ k.Stale m := by
  have hnames := (Member.fields_declared hfields).1
  constructor
  · rintro hfresh m hm ⟨fragments, hkept, hne⟩
    obtain ⟨members₁, elements₁, hfields₁, helements₁, rfl, -⟩ := newPlanFrom_eq_ok h
    rw [hfields] at hfields₁
    cases hfields₁
    rw [← newPlanFrom_empty] at hfresh
    obtain ⟨members₂, elements₂, hfields₂, helements₂, hplans, -⟩ := newPlanFrom_eq_ok hfresh
    rw [hfields] at hfields₂
    cases hfields₂
    -- both times the element of the field is the one in the plan with its name
    have hmade := elementFrom_eq_find? helements₁ hnames m hm
    have hfresh := elementFrom_eq_find? helements₂ hnames m hm
    rw [← hplans] at hfresh
    obtain ⟨fragments₁, hfragments₁, helement₁⟩ := elementFrom_eq_ok hmade
    obtain ⟨fragments₂, hfragments₂, helement₂⟩ := elementFrom_eq_ok hfresh
    have hsame : fragments₁ = fragments₂ := elementOf_injective (helement₁.symm.trans helement₂)
    unfold fragmentsFrom keptOr at hfragments₁
    rw [hkept] at hfragments₁
    cases hfragments₁
    apply hne
    rw [hsame]
    exact hfragments₂
  · intro hstale
    rw [← newPlanFrom_eq_planFor hfields, h]
    intro m hm
    unfold fragmentsFrom keptOr
    split
    · next fragments hkept =>
      by_contra hne
      exact hstale m hm ⟨fragments, hkept, Ne.symm hne⟩
    · rfl

end Elements

/-! ## Compiling a class after registrations -/

/-- From nothing compiled a class has the plan that the sources give it, as long as all types that it leads
to have plans. -/
theorem compileType_empty_eq_ok {s : Sources} {c : Class} {plan : Plan} :
    (compileType s c {}).1 = .ok plan ↔
      planFor s c = .ok plan ∧ ∀ b, Reaches s [] c b → ∃ plan', planFor s b = .ok plan' := by
  have houtcome : (compileType s c {}).1 = outcome s c (firstFailure s [] c) :=
    (compileType_eq (Settled.empty s) c).1
  have hreach : firstFailure s [] c = none ↔
      ∀ b, Reaches s [] c b → ∃ plan', planFor s b = .ok plan' := by
    rw [← Option.not_isSome_iff_eq_none, firstFailure_isSome]
    constructor
    · intro h b hb
      cases hplan : planFor s b with
      | ok plan' => exact ⟨plan', rfl⟩
      | error e => exact absurd ⟨b, hb, e, hplan⟩ h
    · rintro h ⟨b, hb, e, he⟩
      obtain ⟨plan', hplan⟩ := h b hb
      rw [he] at hplan
      cases hplan
  rw [houtcome, ← hreach]
  cases hfirst : firstFailure s [] c with
  | none => simp [outcome]
  | some e => simp [outcome]

/-- Compiling a class after registrations and compilations, where it succeeds.

* A fresh compiler gives the same plan if that is the plan of the sources and all types that the class leads
  to have plans;
* where a plan is kept for the class, it is that one, made from the sources and the fragments at an earlier
  compilation;
* where none is kept, every element has the label, the gate and the nesting that its field has now, the
  fragments that are kept for a field were those of its tags at an earlier compilation, and the plan is that
  of the sources exactly if none of them has become stale;
* nothing has, if the classes before were compiled from the same sources. -/
theorem compileType_registrations (s : Sources) (acts : List Act) (c : Class) {plan : Plan}
    (h : (compileType (Compiler.after s acts).sources c (Compiler.after s acts).plans).1 = .ok plan) :
    ((compileType (Compiler.after s acts).sources c {}).1 = .ok plan ↔
      planFor (Compiler.after s acts).sources c = .ok plan ∧
        ∀ b, Reaches (Compiler.after s acts).sources [] c b →
          ∃ plan', planFor (Compiler.after s acts).sources b = .ok plan') ∧
    (∀ kept, (Compiler.after s acts).plans.types.kept? c = some kept →
      plan = kept ∧ ∃ before b, before ++ [.compile b] <+: acts ∧
        planFrom (Compiler.after s before).sources (Compiler.after s before).plans c = .ok plan) ∧
    ((Compiler.after s acts).plans.types.kept? c = none →
      ∃ members, Member.fields (Compiler.after s acts).sources.declarations
          (Compiler.after s acts).sources.table c = .ok members ∧
        (∀ e ∈ plan, ∃ m ∈ members, ∃ fragments,
          fragmentsFrom (Compiler.after s acts).sources (Compiler.after s acts).plans m = .ok fragments ∧
          elementOf m (Tag.isNested m.tags && !m.kind.isPlain) fragments = some e) ∧
        (∀ m ∈ members, ∀ fragments,
          (Compiler.after s acts).plans.members.kept? m.key = some fragments →
          ∃ before b, before ++ [.compile b] <+: acts ∧
            memberFor (Compiler.after s before).sources m.key = .ok fragments) ∧
        (planFor (Compiler.after s acts).sources c = .ok plan ↔
          ∀ m ∈ members, ¬ (Compiler.after s acts).Stale m)) ∧
    ((∀ before b, before ++ [.compile b] <+: acts →
        (Compiler.after s before).sources = (Compiler.after s acts).sources) →
      planFor (Compiler.after s acts).sources c = .ok plan) := by
  have hdated : Dated s acts := dated_after s acts
  have hquiet := hdated.quiet
  rw [← Compiler.strict_after s acts] at hquiet
  have hplan : planFrom (Compiler.after s acts).sources (Compiler.after s acts).plans c = .ok plan :=
    (hquiet.follows.compileType c).2 plan h
  refine ⟨compileType_empty_eq_ok, ?_, ?_, ?_⟩
  · -- A plan that is kept is given as it is, whatever the sources are by now.
    intro kept hkept
    have hsame : plan = kept := by
      unfold planFrom keptOr at hplan
      rw [hkept] at hplan
      cases hplan
      rfl
    subst hsame
    exact ⟨rfl, hdated.types c plan hkept⟩
  · -- A new plan is made of members as they are now, and of fragments that may be older than these.
    intro hkept
    have hnew : newPlanFrom (Compiler.after s acts).sources (Compiler.after s acts).plans c = .ok plan := by
      unfold planFrom keptOr at hplan
      rwa [hkept] at hplan
    obtain ⟨members, elements, hfields, -⟩ := newPlanFrom_eq_ok hnew
    refine ⟨members, hfields, ?_, ?_, planFor_eq_newPlan_iff hfields hnew⟩
    · intro e he
      exact exists_member_of_mem_newPlanFrom hfields hnew he
    · intro m hm fragments hfragments
      exact hdated.members m.key fragments hfragments
  · -- With the same sources at all compilations nothing is kept that these do not give.
    intro hcompiled
    have hsettled := settled_of_compiled (Compiler.after s acts).sources hcompiled
    obtain ⟨p', hrun, -, -⟩ := planOf_eq hsettled c
    rw [← planOf_of_compileTypeWithin h, hrun]

/-- Two classes without annotations that are derived from a third one. -/
def relatives : Sources where
  declarations :=
    { classes :=
        [{ declared := ⟨⟨"models", "Party"⟩, []⟩ },
         { declared := ⟨⟨"models", "Person"⟩, [⟨"models", "Party"⟩]⟩ },
         { declared := ⟨⟨"models", "Company"⟩, [⟨"models", "Party"⟩]⟩ }] }

/-- The second one of the two classes. -/
def company : Class := ⟨⟨"models", "Company"⟩, [⟨"models", "Party"⟩]⟩

/-- A field of the third class gets other rules, and a label, after one of the two has been compiled. -/
def retitled : List Act :=
  [.register ⟨"models", "Party"⟩ { name := "title", rules? := some "required" },
   .compile ⟨⟨"models", "Person"⟩, [⟨"models", "Party"⟩]⟩,
   .register ⟨"models", "Party"⟩ { name := "title", rules? := some "not-blank", label? := some "Title" }]

theorem compileType_registrations_retitled : ∃ plan members,
    (compileType (Compiler.after relatives retitled).sources company
      (Compiler.after relatives retitled).plans).1 = .ok plan ∧
    Member.fields (Compiler.after relatives retitled).sources.declarations
      (Compiler.after relatives retitled).sources.table company = .ok members ∧
    (planFor (Compiler.after relatives retitled).sources company = .ok plan ↔
      ∀ m ∈ members, ¬ (Compiler.after relatives retitled).Stale m) := by
  have hcompiled : (compileType (Compiler.after relatives retitled).sources company
      (Compiler.after relatives retitled).plans).1.toOption.isSome := by
    decide +kernel
  cases hplan : (compileType (Compiler.after relatives retitled).sources company
      (Compiler.after relatives retitled).plans).1 with
  | error e =>
    rw [hplan] at hcompiled
    cases hcompiled
  | ok plan =>
    have hkept : (Compiler.after relatives retitled).plans.types.kept? company = none := by
      rw [← Option.isNone_iff_eq_none]
      decide +kernel
    obtain ⟨members, hfields, -, -, hstale⟩ :=
      (compileType_registrations relatives retitled company hplan).2.2.1 hkept
    exact ⟨plan, members, rfl, hfields, hstale⟩

/-- The first plan of the other class has the new label and the old fragments of the field, where that of a
fresh compiler has the new fragments. -/
theorem keeps_old_fragments :
    (compileType (Compiler.after relatives retitled).sources company
      (Compiler.after relatives retitled).plans).1.toOption.map
        (List.map fun e => (e.label, e.fragments.map Fragment.name)) = some [("Title", ["required"])] ∧
    (compileType (Compiler.after relatives retitled).sources company {}).1.toOption.map
        (List.map fun e => (e.label, e.fragments.map Fragment.name)) = some [("Title", ["not-blank"])] := by
  decide +kernel

end FieldRules.Plans
