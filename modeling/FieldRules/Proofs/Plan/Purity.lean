import FieldRules.Proofs.Cache.Quiet
import FieldRules.Proofs.Plan.Members
import FieldRules.Proofs.Rule.Compiled

/-!
# What compiling comes to

Compiling works on four caches. Those of texts cannot be told from reading every text anew. What compiling
comes to is a function of the sources and of what was kept when it began: a class has the plan that is kept
for it, or else the one that its fields have now, and a field has the fragments that are kept for it, or else
those of its tags. `Plans.planFrom` is that function, and `Follows`
says of the caches that they hold what they held at the beginning and nothing but its values and those of its
parts. From empty caches the outcome is `planFor`, a function of the sources alone.
-/

namespace FieldRules.Plans

open Cache

/-! ## Plans without caches -/

/-- The fragments of a rule text that has been cleaned. -/
def templateFor (strict : Bool) (key : String) : Except Error (List Fragment) :=
  Rule.parse strict (some key)

/-- The fragments of a rule text. -/
def templateOf (strict : Bool) (text? : Option String) : Except Error (List Fragment) := do
  let key ← Rule.clean text?
  templateFor strict key

/-- The fragments that tags stand for. -/
def fragmentsOf (strict : Bool) (tags : List Tag) : Except Error (List Fragment) :=
  match Tag.rules? tags with
  | some text => templateOf strict (some text)
  | none => pure (Tag.constraints tags)

/-- The element of a field, unless nothing is asked of it. -/
def elementFor (strict : Bool) (m : Member) : Except Error (Option Element) := do
  let fragments ← fragmentsOf strict m.tags
  return elementOf m (Tag.isNested m.tags && !m.kind.isPlain) fragments

/-- The plan of a class. -/
def planFor (s : Sources) (c : Class) : Except Error Plan := do
  let members ← (Member.fields s.declarations s.table c).mapError Error.setup
  let elements ← members.mapM (elementFor s.strict)
  let plan := elements.filterMap id
  (checkGates c plan).mapError Error.setup
  return plan

/-! ## Plans from what is kept -/

/-- The fragments that are kept for a field, or else those of its tags. -/
def fragmentsFrom (s : Sources) (p₀ : Plans) (m : Member) : Except Error (List Fragment) :=
  p₀.members.keptOr (fun _ => fragmentsOf s.strict m.tags) m.key

/-- The element of a field with these fragments. -/
def elementFrom (s : Sources) (p₀ : Plans) (m : Member) : Except Error (Option Element) := do
  let fragments ← fragmentsFrom s p₀ m
  return elementOf m (Tag.isNested m.tags && !m.kind.isPlain) fragments

/-- The plan of a class that is made of these elements. -/
def newPlanFrom (s : Sources) (p₀ : Plans) (c : Class) : Except Error Plan := do
  let members ← (Member.fields s.declarations s.table c).mapError Error.setup
  let elements ← members.mapM (elementFrom s p₀)
  let plan := elements.filterMap id
  (checkGates c plan).mapError Error.setup
  return plan

/-- The plan that is kept for a class, or else the one that is made. -/
def planFrom (s : Sources) (p₀ : Plans) (c : Class) : Except Error Plan :=
  p₀.types.keptOr (newPlanFrom s p₀) c

/-- The fragments of a member with the given key. -/
def memberFor (s : Sources) (key : MemberKey) : Except Error (List Fragment) :=
  fragmentsOf s.strict (Member.declaredTags s.declarations s.table key)

/-- The texts that are kept, of rules and of argument lists, were read rightly, and none is being read. -/
structure TextsHold (strict : Bool) (p : Plans) : Prop where
  arguments : Holds compileArguments p.arguments
  templates : Holds (templateFor strict) p.templates

/-- Nothing is being compiled, and the texts that are kept were read rightly. -/
structure Quiet (strict : Bool) (p : Plans) : Prop where
  texts : TextsHold strict p
  members : Idle p.members
  types : Idle p.types

/-- Nothing is being compiled. What was kept at the beginning is kept, and what has been kept since is right
for the sources and for that. -/
structure Follows (s : Sources) (p₀ p : Plans) : Prop where
  texts : TextsHold s.strict p
  members : Holds (p₀.members.keptOr (memberFor s)) p.members
  types : Holds (planFrom s p₀) p.types
  keptMembers : ∀ key v, p₀.members.kept? key = some v → p.members.kept? key = some v
  keptTypes : ∀ c v, p₀.types.kept? c = some v → p.types.kept? c = some v

theorem TextsHold.empty (strict : Bool) : TextsHold strict {} where
  arguments := .empty _
  templates := .empty _

theorem Quiet.empty (strict : Bool) : Quiet strict {} where
  texts := .empty strict
  members := ⟨rfl, by simp⟩
  types := ⟨rfl, by simp⟩

theorem Quiet.follows {s : Sources} {p : Plans} (h : Quiet s.strict p) : Follows s p p where
  texts := h.texts
  members := h.members.holds _
  types := h.types.holds _
  keptMembers _ _ hv := hv
  keptTypes _ _ hv := hv

theorem Follows.quiet {s : Sources} {p₀ p : Plans} (h : Follows s p₀ p) : Quiet s.strict p where
  texts := h.texts
  members := h.members.idle
  types := h.types.idle

/-! ## Plans from caches -/

section Compile
variable {s : Sources} {p₀ p : Plans}

section Texts
variable {J : Plans → Prop} (hlists : ∀ c p, J p → J (argumentSlot.set c p))
include hlists

/-- Reading an argument list is the same with and without the cache of lists. -/
theorem yields_compileList (list : String) :
    Run.Yields (fun p => J p ∧ Holds compileArguments p.arguments) (compileList list)
      (compileArguments list) :=
  yields_getOrCompute argumentSlot (fun _ _ => rfl) hlists (fun _ => .lift _) _ _

variable (htexts : ∀ c p, J p → J (templateSlot.set c p))
include htexts

/-- Reading a rule text is the same with and without the caches of texts and lists. -/
theorem yields_compileTemplate (strict : Bool) (text? : Option String) :
    Run.Yields (fun p => J p ∧ TextsHold strict p) (compileTemplate strict text?)
      (templateOf strict text?) := by
  refine (Run.Yields.lift (Rule.clean text?)).bind fun key _ => ?_
  refine Run.Yields.congr (I := fun p : Plans =>
    (J p ∧ Holds compileArguments p.arguments) ∧ Holds (templateFor strict) p.templates) ?_ ?_
  · exact fun p => ⟨fun h => ⟨⟨h.1, h.2.arguments⟩, h.2.templates⟩, fun h => ⟨h.1.1, h.1.2, h.2⟩⟩
  refine yields_getOrCompute templateSlot (fun _ _ => rfl)
    (fun c p h => ⟨htexts c p h.1, h.2⟩) (fun c => ?_) _ _
  -- reading the text asks for lists only, so what is kept of texts stays as it is
  refine Rule.yields_parseBy (fun list => ?_) (some key)
  refine Run.Yields.congr (I := fun p : Plans =>
    (J p ∧ p.templates = c) ∧ Holds compileArguments p.arguments) (fun p => and_right_comm) ?_
  exact yields_compileList (fun c p h => ⟨hlists c p h.1, h.2⟩) list

theorem yields_tagFragments (strict : Bool) (tags : List Tag) :
    Run.Yields (fun p => J p ∧ TextsHold strict p) (tagFragments strict tags)
      (fragmentsOf strict tags) := by
  unfold tagFragments fragmentsOf
  cases Tag.rules? tags with
  | some text => exact yields_compileTemplate hlists htexts strict (some text)
  | none => exact .pure _

end Texts

/-- The part of `Follows` that is about texts and members, while the kept types are these. -/
structure PartsFollow (s : Sources) (p₀ : Plans) (types : Cache Class Plan) (p : Plans) : Prop where
  types : p.types = types
  texts : TextsHold s.strict p
  members : Holds (p₀.members.keptOr (memberFor s)) p.members
  keptMembers : ∀ key v, p₀.members.kept? key = some v → p.members.kept? key = some v

/-- The fragments of a declared member are those that are kept for it, or else those of its tags. -/
theorem yields_compileMember {m : Member} (hm : Member.Declared s.declarations s.table m)
    (types : Cache Class Plan) :
    Run.Yields (PartsFollow s p₀ types) (compileMember s.strict m) (fragmentsFrom s p₀ m) := by
  have hfrom : fragmentsFrom s p₀ m = p₀.members.keptOr (memberFor s) m.key := by
    rw [fragmentsFrom, keptOr, keptOr, memberFor, ← hm.1]
  intro p hp
  rw [hfrom]
  obtain ⟨p', hrun, ⟨htypes, htexts⟩, hmembers⟩ := hp.members.getOrCompute memberSlot m.key
    (J := fun p : Plans => p.types = types ∧ TextsHold s.strict p)
    (fun _ _ => rfl) (fun _ _ h => ⟨h.1, h.2.arguments, h.2.templates⟩) (tagFragments s.strict m.tags)
    (fun hnew c => by
      -- what was kept at the beginning is kept now, so the tags count
      have hnone : p₀.members.kept? m.key = none := by
        refine Option.eq_none_iff_forall_ne_some.2 fun v hv => ?_
        have hkept := hp.keptMembers _ v hv
        rw [show p.members.kept? m.key = none from hnew] at hkept
        cases hkept
      rw [keptOr, hnone]
      dsimp only
      rw [memberFor, ← hm.1]
      refine Run.Yields.congr (I := fun p : Plans => (p.types = types ∧ p.members = c) ∧
        TextsHold s.strict p) (fun p => and_right_comm) ?_
      exact yields_tagFragments (fun _ _ h => h) (fun _ _ h => h) _ _)
    ⟨hp.types, hp.texts⟩ (.setup (.recursive m.key.qualified "member-cache"))
    (.setup (.recursive m.key.qualified "member-cache"))
  have hremember : p'.members = p.members.remember m.key (p₀.members.keptOr (memberFor s) m.key) := hmembers
  rw [compileMember, hrun]
  refine ⟨rfl, htypes, htexts, ?_, fun key v hv => ?_⟩
  · rw [hremember]
    exact hp.members.remember m.key
  · rw [hremember]
    exact kept?_remember (hp.keptMembers key v hv) _ _

theorem yields_compileField {m : Member} (hm : Member.Declared s.declarations s.table m) (c : Class)
    (types : Cache Class Plan) :
    Run.Yields (PartsFollow s p₀ types) (compileField s.strict c m) (elementFrom s p₀ m) := by
  unfold compileField elementFrom
  refine (yields_compileMember hm types).bind fun fragments _ => ?_
  -- a warning changes neither the caches nor the element
  intro p hp
  dsimp only
  split
  · exact ⟨rfl, hp.types, ⟨hp.texts.arguments, hp.texts.templates⟩, hp.members, hp.keptMembers⟩
  · exact ⟨rfl, hp⟩

/-- Compiling a plan has the outcome that the sources give it, and leaves the kept types alone. -/
theorem yields_compilePlan (c : Class) (types : Cache Class Plan) :
    Run.Yields (PartsFollow s p₀ types) (compilePlan s c) (newPlanFrom s p₀ c) := by
  refine (Run.Yields.lift _).bind fun members hmembers => ?_
  have hdecl := (Member.fields_declared (Run.eq_ok_of_mapError hmembers)).2
  refine (Run.Yields.mapM fun m hm => yields_compileField (hdecl m hm) c types).bind
    fun elements _ => ?_
  exact (Run.Yields.lift _).bind fun _ _ => .pure _

/-- A request for a plan has the outcome that the sources and what is kept give it, and the plan is kept. -/
theorem Follows.planOf_eq (h : Follows s p₀ p) (c : Class) :
    ∃ p', planOf s c p = (planFrom s p₀ c, p') ∧ Follows s p₀ p' ∧
      p'.types = p.types.remember c (planFrom s p₀ c) := by
  obtain ⟨p', hrun, ⟨htexts, hmembers, hkept⟩, htypes⟩ := h.types.getOrCompute typeSlot c
    (J := fun p => TextsHold s.strict p ∧
      Holds (p₀.members.keptOr (memberFor s)) p.members ∧
      ∀ key v, p₀.members.kept? key = some v → p.members.kept? key = some v)
    (fun _ _ => rfl) (fun _ _ hJ => ⟨⟨hJ.1.arguments, hJ.1.templates⟩, hJ.2⟩) (compilePlan s c)
    (fun hnew types => by
      have hnone : p₀.types.kept? c = none := by
        refine Option.eq_none_iff_forall_ne_some.2 fun v hv => ?_
        have hkept := h.keptTypes c v hv
        rw [show p.types.kept? c = none from hnew] at hkept
        cases hkept
      rw [planFrom, keptOr, hnone]
      refine (yields_compilePlan c types).congr fun p => ?_
      constructor
      · exact fun hp => ⟨hp.2, hp.1.1, hp.1.2.1, hp.1.2.2⟩
      · exact fun hp => ⟨⟨hp.texts, hp.members, hp.keptMembers⟩, hp.types⟩)
    ⟨h.texts, h.members, h.keptMembers⟩ (.setup (.recursive (Value.writeClass c) "type-cache"))
    (.setup (.recursive (Value.writeClass c) "type-cache"))
  have htypes' : p'.types = p.types.remember c (planFrom s p₀ c) := htypes
  refine ⟨p', hrun, ⟨htexts, hmembers, ?_, hkept, fun c' v hv => ?_⟩, htypes⟩
  · rw [htypes']
    exact h.types.remember c
  · rw [htypes']
    exact kept?_remember (h.keptTypes c' v hv) _ _

end Compile

/-! ## Plans with the types nested in them -/

section Nested
variable {s : Sources} {c : Class} {p₀ p : Plans}

/-- What requests for plans keep, compiling a class with the types nested in it keeps. -/
theorem keeps_compileTypeWithin {I : Plans → Prop} (h : ∀ c, Run.Keeps I (planOf s c)) (depth : Nat)
    (c : Class) : Run.Keeps I (compileTypeWithin s depth c) := by
  induction depth generalizing c with
  | zero => exact h c
  | succ depth ih =>
    refine (h c).bind fun plan => Run.Keeps.bind ?_ fun _ => .pure _
    refine Run.Keeps.forM fun e => Run.Keeps.bind .get fun p => ?_
    split
    · exact Run.Keeps.map _ (ih e.kind)
    · exact .pure _

/-- What compiling a class comes to, if it does not fail, is the plan that was requested first. -/
theorem planOf_of_compileTypeWithin {depth : Nat} {plan : Plan}
    (h : (compileTypeWithin s depth c p).1 = .ok plan) : (planOf s c p).1 = .ok plan := by
  cases depth with
  | zero => exact h
  | succ depth =>
    obtain ⟨plan', p₁, hplan, hrest⟩ := Run.bind_eq_ok (Prod.ext h rfl)
    obtain ⟨_, p₂, -, hdone⟩ := Run.bind_eq_ok hrest
    cases hdone
    rw [hplan]

/-- Compiling a class keeps what is kept; if it does not fail, the class has the plan that is kept for it, or
else the one that is made. -/
theorem Follows.compileType (h : Follows s p₀ p) (c : Class) :
    Follows s p₀ (Plans.compileType s c p).2 ∧
      ∀ plan, (Plans.compileType s c p).1 = .ok plan → planFrom s p₀ c = .ok plan := by
  have hkeeps : ∀ c, Run.Keeps (Follows s p₀) (planOf s c) := by
    intro c p hp
    obtain ⟨p', hrun, hfollows, -⟩ := hp.planOf_eq c
    rw [hrun]
    exact hfollows
  refine ⟨keeps_compileTypeWithin hkeeps (fieldCount s) c p h, fun plan hplan => ?_⟩
  obtain ⟨p', hrun, -, -⟩ := h.planOf_eq c
  rw [← planOf_of_compileTypeWithin hplan, hrun]

end Nested

/-! ## Plans from sources alone -/

/-- Nothing is being compiled, and what has been kept is right for the sources. -/
structure Settled (s : Sources) (p : Plans) : Prop where
  texts : TextsHold s.strict p
  members : Holds (memberFor s) p.members
  types : Holds (planFor s) p.types

section Settled
variable {s : Sources} {p : Plans}

theorem Settled.empty (s : Sources) : Settled s {} where
  texts := .empty s.strict
  members := .empty _
  types := .empty _

/-- What follows when nothing is kept is settled. -/
theorem follows_empty_iff : Follows s {} p ↔ Settled s p := by
  constructor
  · exact fun h => ⟨h.texts, h.members, h.types⟩
  · exact fun h => ⟨h.texts, h.members, h.types, fun _ _ => nofun, fun _ _ => nofun⟩

/-- A request for a plan has the outcome that the sources give it, and the plan is kept. -/
theorem planOf_eq (h : Settled s p) (c : Class) :
    ∃ p', planOf s c p = (planFor s c, p') ∧ Settled s p' ∧
      p'.types = p.types.remember c (planFor s c) := by
  obtain ⟨p', hrun, hfollows, htypes⟩ := (follows_empty_iff.2 h).planOf_eq c
  exact ⟨p', hrun, follows_empty_iff.1 hfollows, htypes⟩

end Settled

end FieldRules.Plans
