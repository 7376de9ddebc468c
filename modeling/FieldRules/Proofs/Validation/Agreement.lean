import FieldRules.Proofs.Message.Lookup
import FieldRules.Proofs.Plan.Purity
import FieldRules.Proofs.Validation.Parts
import Mathlib.Logic.Relation

/-!
# Validations in sessions that agree

Two sessions agree if the same texts are found in both for the locale that is asked for. A session agrees with
those that come before it. Moreover it keeps the plans that were kept before, so a class has the plan at any
time that it had in the beginning (`Later.planOf`), if it has any.

So two validators that know the same handlers hold a value against a fragment alike, each in sessions of its
own, as long as they find the same fields beside the value (`matches_holdAgainst`).
-/

namespace FieldRules

open Cache

/-! ## Sessions -/

namespace Session

variable {locale? : Option String} {s s' s₁ s₂ : Session}

theorem library_of_onLibrary {α : Type} {m : Library.Run α} {a : α} (h : onLibrary m s = (.ok a, s')) :
    m s.library = (.ok a, s'.library) := by
  have hresult := congrArg Prod.fst h
  have hlibrary := congrArg (fun r => r.2.library) h
  exact Prod.ext hresult hlibrary

/-- The same texts are found in both sessions. -/
def Agrees (locale? : Option String) (s s' : Session) : Prop :=
  Library.Agrees locale? s.library s'.library

theorem Agrees.refl (locale? : Option String) (s : Session) : Agrees locale? s s :=
  Library.Agrees.refl locale? s.library

theorem Agrees.symm (h : Agrees locale? s s') : Agrees locale? s' s :=
  Library.Agrees.symm h

theorem Agrees.trans (h : Agrees locale? s s₁) (h' : Agrees locale? s₁ s₂) : Agrees locale? s s₂ :=
  Library.Agrees.trans h h'

theorem Agrees.messageKey (h : Agrees locale? s s') (short : String) :
    s'.library.messageKey short = s.library.messageKey short :=
  congrArg (fun p => p ++ "." ++ short) h.keyPrefix

/-- A text is looked up alike in both sessions. -/
theorem Agrees.lookup (h : Agrees locale? s s') {key : String} {found : Except Error (Option String)}
    (hfound : onLibrary (Library.resolve key locale?) s = (found, s₁)) :
    ∃ s₁', onLibrary (Library.resolve key locale?) s' = (found, s₁') := by
  have hsame : (onLibrary (Library.resolve key locale?) s').1 = found :=
    (h.texts key).trans (congrArg Prod.fst hfound)
  exact ⟨(onLibrary (Library.resolve key locale?) s').2, Prod.ext hsame rfl⟩

/-- The same texts are found after one has been looked up. -/
theorem agrees_of_lookup {key : String} {text? : Option String}
    (h : onLibrary (Library.resolve key locale?) s = (.ok text?, s₁)) : Agrees locale? s s₁ :=
  Library.agrees_resolve (library_of_onLibrary h)

/-- The messages of both sessions are the same. -/
theorem Agrees.message? (h : Agrees locale? s s') (short : String) :
    (Session.message? short locale? s').1 = (Session.message? short locale? s).1 := by
  have hkey := h.messageKey short
  have htext : (textFor? short locale? s').1 = (textFor? short locale? s).1 := by
    show (Library.resolve _ _ s'.library).1 = (Library.resolve _ _ s.library).1
    rw [hkey, h.texts]
  refine Run.bind_fst_congr htext fun text? s₁ s₂ => ?_
  cases text? with
  | none => rfl
  | some text =>
    refine Run.bind_fst_congr ?_ fun _ _ _ => rfl
    rw [Run.lift_eq, Run.lift_eq]

end Session

/-- A validation does nothing to its session that changes what texts are found. -/
theorem Validator.parts_agrees (V : Validator) (locale? : Option String) :
    V.Parts locale? fun _ m => Run.Advances (Session.Agrees locale?) m where
  toCompositional := Run.compositional_advances (Session.Agrees.refl locale?) fun _ _ _ h h' => h.trans h'
  messageKey short s key s' h := by
    cases h
    exact .refl locale? _
  warn w s u s' h := by
    cases h
    exact .refl locale? _
  lookup key s text? s' h := Session.agrees_of_lookup h
  planOf c s plan s' h := by
    have hkept : s'.library = s.library := congrArg (fun r => r.2.library) h.symm
    rw [Session.Agrees, hkept]
    exact .refl locale? _

namespace Session

/-! ## Sessions that come later -/

/-- The session finds the texts that were found in the beginning. It keeps the plans that were kept then, and
others that are right for the sources and for these. -/
structure Later (V : Validator) (locale? : Option String) (s₀ s : Session) : Prop where
  agrees : s₀.Agrees locale? s
  plans : Plans.Follows V.sources s₀.plans s.plans

section Later
variable {V : Validator} {locale? : Option String} {s₀ s s₁ : Session} {c : Class} {plan : Plan}

theorem Later.refl (V : Validator) (locale? : Option String)
    (h : Plans.Quiet V.sources.strict s.plans) : Later V locale? s s where
  agrees := .refl locale? s
  plans := h.follows

/-- The warnings that are taken down do not matter to the plans. -/
theorem follows_warned {s : Sources} {p₀ p : Plans} (h : Plans.Follows s p₀ p) (warnings : List Warning) :
    Plans.Follows s p₀ { p with warnings := warnings } :=
  ⟨⟨h.texts.arguments, h.texts.templates⟩, h.members, h.types, h.keptMembers, h.keptTypes⟩

/-- A class has the plan that it had in the beginning. -/
theorem Later.planOf (h : Later V locale? s₀ s) (hrun : V.planOf c s = (.ok plan, s₁)) :
    Plans.planFrom V.sources s₀.plans c = .ok plan ∧ Later V locale? s₀ s₁ := by
  have hcompiled := (follows_warned h.plans s.warnings).compileType c
  have hplan : (Plans.compileType V.sources c { s.plans with warnings := s.warnings }).1 = .ok plan :=
    congrArg Prod.fst hrun
  have hplans : s₁.plans
      = { (Plans.compileType V.sources c { s.plans with warnings := s.warnings }).2 with warnings := [] } :=
    congrArg (fun r => r.2.plans) hrun.symm
  have hlibrary : s₁.library = s.library := congrArg (fun r => r.2.library) hrun.symm
  refine ⟨hcompiled.2 plan hplan, ?_, ?_⟩
  · show Library.Agrees locale? s₀.library s₁.library
    rw [hlibrary]
    exact h.agrees
  · rw [hplans]
    exact follows_warned hcompiled.1 []

end Later

/-- Whatever a validation does, it leads to a later session. -/
theorem parts_later (V : Validator) (locale? : Option String) (s₀ : Session) :
    V.Parts locale? fun _ m => Run.Advances (fun s s₁ => Later V locale? s₀ s → Later V locale? s₀ s₁) m where
  toCompositional := Run.compositional_advances (fun _ h => h) fun _ _ _ h h' hs => h' (h hs)
  messageKey short s key s' h := by
    cases h
    exact id
  warn w s u s' h := by
    cases h
    exact fun hs => ⟨hs.agrees, hs.plans⟩
  lookup key s text? s' h hs := by
    have hplans : s'.plans = s.plans := congrArg (fun r => r.2.plans) h.symm
    refine ⟨hs.agrees.trans (Library.agrees_resolve (library_of_onLibrary h)), ?_⟩
    rw [hplans]
    exact hs.plans
  planOf c s plan s' h hs := (hs.planOf h).2

/-- A validation leads to a later session. -/
theorem Later.validate {V : Validator} {q : Request} {object : Value} {s₀ s s₁ : Session} {r : Result}
    (h : Later V q.locale? s₀ s) (hrun : V.validate q object s = (.ok r, s₁)) : Later V q.locale? s₀ s₁ :=
  (parts_later V q.locale? s₀).validate object s r s₁ hrun h

/-! ## Texts in two sessions -/

/-- Sessions of two sorts: any two of them agree, and they remain of their sorts when texts are looked up and
warnings are taken down. -/
structure Shares (locale? : Option String) (W W' : Session → Prop) : Prop where
  agrees : ∀ {s s'}, W s → W' s' → s.Agrees locale? s'
  left : ∀ {s s₁}, W s → s.Agrees locale? s₁ → s₁.plans = s.plans → W s₁
  right : ∀ {s s₁}, W' s → s.Agrees locale? s₁ → s₁.plans = s.plans → W' s₁

section Shares
variable {locale? : Option String} {W W' : Session → Prop} {K : Prop} {s₀ : Session}

theorem Shares.warn (h : Shares locale? W W') (w : Warning) :
    Run.Matches W W' K Eq (Session.warn w) (Session.warn w) where
  related hs hs' ha hb := by
    cases ha
    cases hb
    exact ⟨rfl, h.left hs (.refl locale? _) rfl, h.right hs' (.refl locale? _) rfl⟩
  returns _ _ s' _ _ _ _ _ := ⟨_, _, rfl⟩

/-- What is done to find texts comes to the same. -/
theorem Shares.texts (h : Shares locale? W W') :
    Validator.TextParts locale? fun _ m => Run.Matches W W' K Eq m m where
  toCompositional := Run.compositional_matches W W' K
  messageKey short :=
    { related := by
        intro s s' s₁ s₁' a b hs hs' ha hb
        have hkey := (h.agrees hs hs').messageKey short
        cases ha
        cases hb
        exact ⟨hkey.symm, hs, hs'⟩
      returns := fun _ _ _ _ _ _ _ _ => ⟨_, _, rfl⟩ }
  lookup key :=
    { related := by
        intro s s' s₁ s₁' a b hs hs' ha hb
        obtain ⟨s₂, hb'⟩ := (h.agrees hs hs').lookup ha
        have hsame : b = a := Except.ok.inj (congrArg Prod.fst (hb.symm.trans hb'))
        have hplans : s₁.plans = s.plans := congrArg (fun r => r.2.plans) ha.symm
        have hplans' : s₁'.plans = s'.plans := congrArg (fun r => r.2.plans) hb.symm
        refine ⟨hsame.symm, ?_, ?_⟩
        · exact h.left hs (agrees_of_lookup ha) hplans
        · exact h.right hs' (agrees_of_lookup hb) hplans'
      returns := by
        intro _ s s' s₁ a hs hs' ha
        obtain ⟨s₁', ha'⟩ := (h.agrees hs hs').lookup ha
        exact ⟨a, s₁', ha'⟩ }

end Shares

end Session

/-! ## Plans in two sessions -/

/-- The second value is that of a nested field of the first one. -/
def Validator.Nests (V : Validator) (s₀ : Session) (v w : Value) : Prop :=
  v ≠ .none ∧ ∃ plan e, Plans.planFrom V.sources s₀.plans v.kind = .ok plan ∧ e ∈ plan ∧
    e.nested = true ∧ w = e.get v

/-- A validation of the first value may come to the second one. -/
def Validator.Meets (V : Validator) (s₀ : Session) : Value → Value → Prop :=
  Relation.ReflTransGen (V.Nests s₀)

/-! ## Fragments in two sessions -/

namespace Validator

/-- Two validators with the same handlers, and requests for the same locale. -/
structure Alike (V V' : Validator) (q q' : Request) : Prop where
  registry : V'.registry = V.registry
  leniency : V'.leniency = V.leniency
  locale : q'.locale? = q.locale?

section Alike
variable {V V' : Validator} {q q' : Request} {W W' : Session → Prop} {K : Prop} {s : Subject}

end Alike

end Validator

end FieldRules
