import FieldRules.Proofs.Cache.Held
import FieldRules.Proofs.Plan.Purity

/-!
# Gates of a plan

Every plan that compiling gives is well gated: its elements have names of their own, and no gate names an
element that has a gate itself. This does not depend on what was compiled before, nor on what is being
compiled at the time, so it is true of whatever plan a cache of types holds.
-/

namespace FieldRules

open Cache

/-- The fields that the gate of an element names, if it has one. -/
def Element.gateFields (e : Element) : List String :=
  (e.gate?.map Gate.fields).getD []

/-- Elements have different names, and gates name no elements with gates. -/
structure Plan.WellGated (plan : Plan) : Prop where
  names : (plan.map Element.name).Nodup
  ungated : ∀ e ∈ plan, ∀ name ∈ e.gateFields, ∀ other ∈ plan, other.name = name →
    other.isUnconditional = true

namespace Plans

variable {s : Sources} {c : Class} {plan : Plan} {p p' : Plans}

/-! ## Plans that have been checked -/

theorem ungated_of_checkGates {rest : Plan}
    (h : rest.forM (fun e => match gatedFields plan e with
      | [] => (pure () : Except SetupError Unit)
      | gated => throw (SetupError.nestedConditions e.name c.simpleName gated)) = .ok ()) :
    ∀ e ∈ rest, gatedFields plan e = [] := by
  induction rest with
  | nil => exact fun e he => nomatch he
  | cons e rest ih =>
    rw [List.forM_eq_forM] at h ih
    rw [List.forM_cons] at h
    cases hgated : gatedFields plan e with
    | cons name names =>
      rw [hgated] at h
      cases h
    | nil =>
      rw [hgated] at h
      intro e' he'
      rcases List.mem_cons.1 he' with rfl | he'
      · exact hgated
      · exact ih h e' he'

/-- The element that is compiled from a field has the name of the field. -/
theorem name_of_compileField {strict : Bool} {m : Member} {e : Element}
    (h : compileField strict c m p = (.ok (some e), p')) : e.name = m.name := by
  obtain ⟨fragments, p₁, -, h⟩ := Run.bind_eq_ok h
  have helement : ∃ nested, elementOf m nested fragments = some e := by
    dsimp only at h
    split at h
    · obtain ⟨u, p₂, -, h⟩ := Run.bind_eq_ok h
      exact ⟨_, Except.ok.inj (congrArg Prod.fst h)⟩
    · exact ⟨_, Except.ok.inj (congrArg Prod.fst h)⟩
  obtain ⟨nested, helement⟩ := helement
  unfold elementOf at helement
  split at helement
  · cases helement
  · cases helement
    rfl

/-- Elements that are compiled from fields have the names of some of them, in their order. -/
theorem names_sublist {members : List Member} {elements : List (Option Element)}
    (h : List.Forall₂ (fun m e? => ∀ e, e? = some e → e.name = m.name) members elements) :
    ((elements.filterMap id).map Element.name).Sublist (members.map Member.name) := by
  induction h with
  | nil => exact List.Sublist.refl _
  | @cons m e? ms es hme _ ih =>
    cases e? with
    | none => exact ih.cons m.name
    | some e =>
      simp only [List.filterMap_cons, id_eq, List.map_cons]
      rw [hme e rfl]
      exact ih.cons_cons m.name

/-- A plan that has just been compiled is well gated. -/
theorem wellGated_of_compilePlan (h : compilePlan s c p = (.ok plan, p')) : plan.WellGated := by
  obtain ⟨members, p₁, hfields, h⟩ := Run.bind_eq_ok h
  obtain ⟨elements, p₂, helements, h⟩ := Run.bind_eq_ok h
  obtain ⟨u, p₃, hgates, h⟩ := Run.bind_eq_ok h
  cases h
  constructor
  · have hnames : List.Forall₂ (fun m e? => ∀ e, e? = some e → e.name = m.name) members elements := by
      refine (Run.mapM_eq_ok helements).imp fun m e? hrun e he => ?_
      obtain ⟨p₁, p₂, hrun⟩ := hrun
      rw [he] at hrun
      exact name_of_compileField hrun
    refine (names_sublist hnames).nodup ?_
    rw [compilePlan.liftSetup, Run.lift_eq] at hfields
    exact (Member.fields_declared (Run.eq_ok_of_mapError (congrArg Prod.fst hfields))).1
  · rw [compilePlan.liftSetup, Run.lift_eq] at hgates
    have hchecked : checkGates c (elements.filterMap id) = .ok () :=
      Run.eq_ok_of_mapError (congrArg Prod.fst hgates)
    intro e he name hname other hother hnamed
    have hempty := ungated_of_checkGates hchecked e he
    by_contra hconditional
    have hmem : name ∈ gatedFields (elements.filterMap id) e := by
      refine List.mem_filter.2 ⟨hname, List.any_eq_true.2 ⟨other, hother, ?_⟩⟩
      rw [hnamed, Bool.eq_false_iff.2 hconditional]
      simp
    rw [hempty] at hmem
    cases hmem

/-! ## Plans that are held -/

/-- Every plan that is kept is well gated. -/
def GatesHeld (p : Plans) : Prop :=
  Held Plan.WellGated p.types

theorem keeps_compileTemplate (strict : Bool) (text? : Option String) :
    Run.Keeps GatesHeld (compileTemplate strict text?) := by
  refine Run.Keeps.bind (.lift _) fun key => Run.Keeps.getOrCompute (fun _ _ h => h) ?_
  refine Rule.compositional_parseBy (Run.compositional_keeps GatesHeld) (fun list => ?_) (some key)
  exact Run.Keeps.getOrCompute (fun _ _ h => h) (.lift _)

theorem keeps_compileMember (strict : Bool) (m : Member) :
    Run.Keeps GatesHeld (compileMember strict m) := by
  refine Run.Keeps.getOrCompute (fun _ _ h => h) ?_
  unfold tagFragments
  cases Tag.rules? m.tags with
  | some text => exact keeps_compileTemplate strict (some text)
  | none => exact .pure _

theorem keeps_compileField (strict : Bool) (c : Class) (m : Member) :
    Run.Keeps GatesHeld (compileField strict c m) := by
  refine (keeps_compileMember strict m).bind fun fragments => ?_
  intro p hp
  dsimp only
  split <;> exact hp

theorem keeps_compilePlan (s : Sources) (c : Class) : Run.Keeps GatesHeld (compilePlan s c) := by
  refine Run.Keeps.bind (.lift _) fun members => ?_
  refine (Run.Keeps.mapM fun m => keeps_compileField s.strict c m).bind fun elements => ?_
  exact Run.Keeps.bind (.lift _) fun _ => .pure _

/-- A request for a plan gives a well gated one. -/
theorem gatesHeld_planOf (h : GatesHeld p) :
    GatesHeld (planOf s c p).2 ∧ ∀ plan, (planOf s c p).1 = .ok plan → plan.WellGated := by
  have hslot : typeSlot.Lawful := fun _ _ => rfl
  refine Held.getOrCompute hslot (fun p hp => ?_) h
  refine ⟨keeps_compilePlan s c p hp, fun plan hplan => ?_⟩
  exact wellGated_of_compilePlan (Prod.ext hplan rfl)

/-- Whatever was compiled before, compiling a class gives a well gated plan. -/
theorem gatesHeld_compileType (h : GatesHeld p) :
    GatesHeld (compileType s c p).2 ∧ ∀ plan, (compileType s c p).1 = .ok plan → plan.WellGated := by
  have hplanOf : ∀ c, Run.Keeps GatesHeld (planOf s c) := fun c p hp => (gatesHeld_planOf hp).1
  refine ⟨keeps_compileTypeWithin hplanOf (fieldCount s) c p h, ?_⟩
  exact fun plan hplan => (gatesHeld_planOf h).2 plan (planOf_of_compileTypeWithin hplan)

end Plans

end FieldRules
