import FieldRules.Proofs.Entries
import FieldRules.Proofs.Plan.Purity
import Mathlib.Data.List.Basic

/-!
# The elements of a plan

Where the elements of a plan come from: from the fields of the class, one element for a field at most. The
types nested in a plan are written in a hint, of a declaration or of an entry in the rule table, so there
are no more of them than fields are declared (`length_possibleKinds`).
-/

namespace FieldRules

open Cache

namespace Plans

variable {s : Sources} {c : Class} {plan : Plan}

/-! ## From fields to elements -/

/-- A plan that is made holds the elements of the fields, and its gates have been checked. -/
theorem newPlanFrom_eq_ok {p₀ : Plans} (h : newPlanFrom s p₀ c = .ok plan) :
    ∃ members elements, Member.fields s.declarations s.table c = .ok members ∧
      List.Forall₂ (fun m e? => elementFrom s p₀ m = .ok e?) members elements ∧
      plan = elements.filterMap id ∧ checkGates c plan = .ok () := by
  unfold newPlanFrom at h
  obtain ⟨members, hfields, h⟩ := bind_eq_ok h
  obtain ⟨elements, helements, h⟩ := bind_eq_ok h
  obtain ⟨u, hgates, hplan⟩ := bind_eq_ok h
  cases hplan
  exact ⟨members, elements, Run.eq_ok_of_mapError hfields, forall₂_of_mapM_eq_ok helements, rfl,
    Run.eq_ok_of_mapError hgates⟩

/-- Where nothing is kept, the plan that is made is the one that the sources give. -/
theorem newPlanFrom_empty (s : Sources) (c : Class) : newPlanFrom s {} c = planFor s c := rfl

/-- The element of a field has its name and its type; it is nested only if the type is composite. -/
theorem elementOf_eq_some {m : Member} {fragments : List Fragment} {e : Element}
    (h : elementOf m (Tag.isNested m.tags && !m.kind.isPlain) fragments = some e) :
    e.name = m.name ∧ e.kind = m.kind ∧ (e.nested = true → m.kind.isPlain = false) := by
  unfold elementOf at h
  split at h
  · cases h
  · cases h
    refine ⟨rfl, rfl, fun hnested => ?_⟩
    simp only [Bool.and_eq_true, Bool.not_eq_true'] at hnested
    exact hnested.2

theorem elementFrom_eq_ok {p₀ : Plans} {m : Member} {e? : Option Element} (h : elementFrom s p₀ m = .ok e?) :
    ∃ fragments, fragmentsFrom s p₀ m = .ok fragments ∧
      e? = elementOf m (Tag.isNested m.tags && !m.kind.isPlain) fragments := by
  unfold elementFrom at h
  obtain ⟨fragments, hfragments, rfl⟩ := exists_of_bind_pure h
  exact ⟨fragments, hfragments, rfl⟩

theorem elementFrom_eq_some {p₀ : Plans} {m : Member} {e : Element}
    (h : elementFrom s p₀ m = .ok (some e)) :
    e.name = m.name ∧ e.kind = m.kind ∧ (e.nested = true → m.kind.isPlain = false) := by
  obtain ⟨fragments, -, helement⟩ := elementFrom_eq_ok h
  exact elementOf_eq_some helement.symm

/-- Every element of a plan that is made is that of a field. -/
theorem exists_elementFrom_of_mem {p₀ : Plans} (h : newPlanFrom s p₀ c = .ok plan) {e : Element}
    (he : e ∈ plan) : ∃ members, Member.fields s.declarations s.table c = .ok members ∧
      ∃ m ∈ members, elementFrom s p₀ m = .ok (some e) := by
  obtain ⟨members, elements, hfields, helements, rfl, -⟩ := newPlanFrom_eq_ok h
  simp only [List.mem_filterMap, id_eq, exists_eq_right] at he
  exact ⟨members, hfields, exists_of_forall₂_right helements he⟩

/-! ## The types that may be nested -/

/-- The class that the hint of an annotation stands for in a module, if its names can be resolved. -/
def kindOfHint? (d : Declarations) (home : String) (h : Hint) : Option Class :=
  match h.resolve (d.classNamed? home) with
  | .ok h => some h.unwrap
  | .error _ => none

/-- The classes that hints stand for: those of the declarations and those in the rule table. -/
def possibleKinds (s : Sources) : List Class :=
  (s.declarations.classes.flatMap fun decl => decl.annotations.filterMap fun p =>
      kindOfHint? s.declarations decl.declared.name.home p.2)
    ++ s.table.flatMap fun p => p.2.filterMap fun r => r.hint?.map Hint.unwrap

/-- Lists that are put together stay in the lengths of their parts. -/
theorem length_flatMap_le {α β γ : Type} {f : α → List β} {g : α → List γ} {xs : List α}
    (h : ∀ x ∈ xs, (f x).length ≤ (g x).length) :
    (xs.flatMap f).length ≤ (xs.flatMap g).length := by
  induction xs with
  | nil => exact Nat.le_refl _
  | cons x xs ih =>
    rw [List.flatMap_cons, List.flatMap_cons, List.length_append, List.length_append]
    exact Nat.add_le_add (h x (List.mem_cons_self ..)) (ih fun y hy => h y (List.mem_cons_of_mem _ hy))

theorem length_possibleKinds (s : Sources) : (possibleKinds s).length ≤ fieldCount s := by
  unfold possibleKinds fieldCount
  rw [List.length_append]
  refine Nat.add_le_add (length_flatMap_le fun decl _ => ?_) (length_flatMap_le fun p _ => ?_)
  · exact List.length_filterMap_le _ _
  · exact List.length_filterMap_le _ _

theorem mem_possibleKinds_of_hint {type : TypeName} {p : String × Hint}
    (hp : p ∈ Member.fieldHints s.declarations type) : p.2.unwrap ∈ possibleKinds s := by
  unfold Member.fieldHints at hp
  cases hresolved : Member.resolvedHints s.declarations type with
  | error e =>
    rw [hresolved] at hp
    cases hp
  | ok hints =>
    rw [hresolved] at hp
    have hforall := forall₂_of_mapM_eq_ok hresolved
    -- the resolved hint goes back to the hint as it was written
    obtain ⟨q, hq, hqp⟩ := exists_of_forall₂_right hforall (List.mem_filter.1 hp).1
    have hresolve : q.2.resolve (s.declarations.classNamed? type.home) = .ok p.2 := by
      obtain ⟨h, hr, rfl⟩ := exists_of_bind_pure hqp
      exact hr
    unfold Declarations.annotations at hq
    cases hfind : s.declarations.find? type with
    | none =>
      rw [hfind] at hq
      cases hq
    | some decl =>
      rw [hfind] at hq
      unfold Declarations.find? at hfind
      have hname := List.find?_some hfind
      rw [beq_iff_eq] at hname
      refine List.mem_append_left _ (List.mem_flatMap.2 ⟨decl, List.mem_of_find?_eq_some hfind, ?_⟩)
      refine List.mem_filterMap.2 ⟨q, hq, ?_⟩
      rw [kindOfHint?, hname, hresolve]

theorem mem_possibleKinds_of_rule {type : TypeName} {r : FieldRule} {h : Hint}
    (hr : r ∈ s.table.fields type) (hh : r.hint? = some h) : h.unwrap ∈ possibleKinds s := by
  unfold RuleTable.fields at hr
  cases hlookup : s.table.lookup type with
  | none =>
    rw [hlookup] at hr
    cases hr
  | some rules =>
    rw [hlookup] at hr
    obtain ⟨before, after, htable, -⟩ := List.lookup_eq_some_iff.1 hlookup
    have hmem : (type, rules) ∈ s.table := by
      rw [htable]
      simp
    refine List.mem_append_right _ (List.mem_flatMap.2 ⟨(type, rules), hmem, ?_⟩)
    exact List.mem_filterMap.2 ⟨r, hr, by rw [hh]; rfl⟩

/-- The type of a field is written in a hint, if it is not the class of everything. -/
theorem kind_of_mem_fields {members : List Member}
    (h : Member.fields s.declarations s.table c = .ok members) :
    ∀ m ∈ members, m.kind ∈ possibleKinds s ∨ m.kind = .object := by
  refine Member.foldlM_addClass_induction
    (P := fun ms => ∀ m ∈ ms, m.kind ∈ possibleKinds s ∨ m.kind = .object) ?_ _ (by simp) h
  intro c' known members hknown hadd
  rw [Member.addClass_eq hadd]
  refine Member.forall_putAll _ ?_ (Member.forall_putAll _ ?_ hknown)
  · intro r hr before hbefore
    unfold Member.ofRule
    cases hh : r.hint? with
    | some h => exact .inl (mem_possibleKinds_of_rule hr hh)
    | none =>
      cases hfind : before.find? fun m => m.name == r.name with
      | none => exact .inr rfl
      | some m => exact hbefore m (List.mem_of_find?_eq_some hfind)
  · intro p hp _ _
    exact .inl (mem_possibleKinds_of_hint hp)

/-- The types that are nested in a plan, in the order of their elements. -/
def nestedKinds (plan : Plan) : List Class :=
  (plan.filter Element.nested).map Element.kind

theorem nestedKinds_cons (e : Element) (rest : Plan) :
    nestedKinds (e :: rest) = if e.nested then e.kind :: nestedKinds rest else nestedKinds rest := by
  unfold nestedKinds
  cases hnested : e.nested <;> simp [hnested]

theorem mem_possibleKinds_of_newPlanFrom {p₀ : Plans} (h : newPlanFrom s p₀ c = .ok plan) {k : Class}
    (hk : k ∈ nestedKinds plan) : k ∈ possibleKinds s := by
  obtain ⟨e, he, rfl⟩ := List.mem_map.1 hk
  obtain ⟨he, hnested⟩ := List.mem_filter.1 he
  obtain ⟨members, hfields, m, hm, helement⟩ := exists_elementFrom_of_mem h he
  obtain ⟨-, hkind, hplain⟩ := elementFrom_eq_some helement
  rw [hkind]
  rcases kind_of_mem_fields hfields m hm with hmem | hobject
  · exact hmem
  -- the class of everything is plain, and a plain type is never nested
  · have := hplain hnested
    rw [hobject] at this
    exact absurd this (by decide)

theorem mem_possibleKinds_of_nested (h : planFor s c = .ok plan) {k : Class}
    (hk : k ∈ nestedKinds plan) : k ∈ possibleKinds s :=
  mem_possibleKinds_of_newPlanFrom ((newPlanFrom_empty s c).trans h) hk

end Plans

end FieldRules
