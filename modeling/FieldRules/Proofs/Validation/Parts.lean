import FieldRules.Proofs.Run
import FieldRules.Validation.Objects

/-!
# The parts of a validation

A validation does three things with its session: it gives warnings, it looks up texts for the locale that is
asked for, and it compiles the plans of classes. Whatever is true of these and of all sequences of what it is
true of, is true of the whole validation (`Parts.validate`).
-/

namespace FieldRules

open Cache

theorem Session.onLibrary_map {α β : Type} (f : α → β) (m : Library.Run α) :
    onLibrary (f <$> m) = f <$> onLibrary m := by
  funext s
  rw [Run.map_eq]
  show (((f <$> m) s.library).1, { s with library := ((f <$> m) s.library).2 }) = _
  rw [Run.map_eq]
  rfl

/-- The text that a text stands for is looked up, if it names a key, and is the text itself otherwise. -/
theorem Session.resolveText_eq (text : String) (locale? : Option String) :
    Session.resolveText text locale? = match Library.referredKey? text with
      | some key => (fun text? => text?.getD text) <$> onLibrary (Library.resolve key locale?)
      | none => pure text := by
  unfold Session.resolveText Library.resolveText
  cases Library.referredKey? text with
  | none => rfl
  | some key => exact onLibrary_map _ _

/-- The full message key for a short one. -/
def Session.messageKey (short : String) : Session.Run String := do
  return (← get).library.messageKey short

theorem Session.textFor?_eq (short : String) (locale? : Option String) :
    Session.textFor? short locale?
      = Session.messageKey short >>= fun key => onLibrary (Library.resolve key locale?) := rfl

namespace Validator

open Session

/-- A property of computations that sequences have from their parts, and that everything has that a
validation does to find texts. -/
structure TextParts (locale? : Option String) (C : (α : Type) → Session.Run α → Prop) : Prop
    extends Run.Compositional C where
  messageKey : ∀ short, C String (Session.messageKey short)
  lookup : ∀ key, C (Option String) (onLibrary (Library.resolve key locale?))

/-- A property of computations that sequences have from their parts, and that everything has that a
validation does with its session. -/
structure Parts (V : Validator) (locale? : Option String) (C : (α : Type) → Session.Run α → Prop) : Prop
    extends TextParts locale? C where
  warn : ∀ w, C Unit (Session.warn w)
  planOf : ∀ c, C Plan (V.planOf c)

section Parts
variable {V : Validator} {q : Request} {C : (α : Type) → Session.Run α → Prop}

/-! ## Messages -/

theorem TextParts.resolveText (h : TextParts q.locale? C) (text : String) :
    C String (Session.resolveText text q.locale?) := by
  rw [resolveText_eq]
  cases Library.referredKey? text with
  | none => exact h.pure text
  | some key => exact h.map _ (h.lookup key)

theorem TextParts.textFor? (h : TextParts q.locale? C) (short : String) :
    C (Option String) (Session.textFor? short q.locale?) := by
  rw [textFor?_eq]
  exact h.bind (h.messageKey short) fun key => h.lookup key

theorem TextParts.message? (h : TextParts q.locale? C) (short : String) :
    C (Option String) (Session.message? short q.locale?) := by
  refine h.bind (h.textFor? short) fun text? => ?_
  cases text? with
  | none => exact h.pure none
  | some text => exact h.bind (h.lift _) fun filled => h.pure (some filled)

theorem TextParts.firstText? (h : TextParts q.locale? C) (keys : List String) :
    C (Option String) (Validator.firstText? q keys) := by
  induction keys with
  | nil => exact h.pure none
  | cons key rest ih =>
    refine h.bind (h.textFor? key) fun text? => ?_
    cases text? with
    | none => exact ih
    | some text => exact h.pure (some text)

theorem TextParts.rejectionMessage (h : TextParts q.locale? C) (f : Fragment)
    (bindings : List (String × Value)) (keys : List String) :
    C String (Validator.rejectionMessage q f bindings keys) := by
  have hfill : ∀ text? : Option String, C String (match text? with
      | some text => liftM (Template.fill text bindings f.arguments : Except Error String)
      | none => do return "\x7b" ++ (← get).library.messageKey (keys.headD "") ++ "\x7d") := by
    intro text?
    cases text? with
    | none =>
      have hkey := h.messageKey (keys.headD "")
      exact h.map (fun key => "\x7b" ++ key ++ "\x7d") hkey
    | some text => exact h.lift _
  unfold Validator.rejectionMessage
  dsimp only
  split
  · exact h.bind (h.map _ (h.resolveText _)) hfill
  · exact h.bind (h.firstText? keys) hfill

theorem TextParts.rejection (h : TextParts q.locale? C) (s : Subject) (f : Fragment) (found : Finding) :
    C Rejection (Validator.rejection q s f found) :=
  h.bind (h.rejectionMessage f _ _) fun _ => h.pure _

theorem TextParts.finish (h : TextParts q.locale? C) (r : Result) : C Result (Validator.finish q r) :=
  h.bind (h.message? _) fun _ => h.pure _

/-! ## Fragments -/

theorem Parts.siblingElement? (h : V.Parts q.locale? C) (object : Value) (name : String) :
    C (Option Element) (V.siblingElement? object name) :=
  h.bind (h.planOf object.kind) fun _ => h.pure _

theorem Parts.siblingValue (h : V.Parts q.locale? C) (s : Subject) (name : String) :
    C Value (V.siblingValue s name) := by
  unfold Validator.siblingValue
  cases s.object? with
  | none => exact h.pure Value.none
  | some object =>
    refine h.bind (h.siblingElement? object name) fun e? => ?_
    cases e? <;> exact h.pure _

theorem Parts.siblingLabel (h : V.Parts q.locale? C) (s : Subject) (name : String) :
    C String (V.siblingLabel q s name) := by
  unfold Validator.siblingLabel
  cases s.object? with
  | none => exact h.pure name
  | some object =>
    refine h.bind (h.siblingElement? object name) fun e? => ?_
    cases e? with
    | none => exact h.pure name
    | some e => exact h.resolveText e.label

/-- A check is a tree of warnings and questions about siblings. -/
theorem Parts.settle {α : Type} (h : V.Parts q.locale? C) (s : Subject) (check : Check α) :
    C α (V.settle q s check) := by
  induction check with
  | done a => exact h.pure a
  | fail e => exact h.throw e
  | warn w next ih => exact h.bind (h.warn w) fun _ => ih
  | sibling name next ih => exact h.bind (h.siblingValue s name) ih
  | siblingLabel name next ih => exact h.bind (h.siblingLabel s name) ih

theorem Parts.holdAgainst (h : V.Parts q.locale? C) (s : Subject) (f : Fragment) :
    C (Option Rejection) (V.holdAgainst q s f) := by
  refine h.bind (h.settle s _) fun found => ?_
  split
  · exact h.pure none
  · exact h.bind (h.rejection s f found) fun r => h.pure (some r)

theorem Parts.rejections (h : V.Parts q.locale? C) (s : Subject) (fragments : List Fragment) :
    C (List Rejection) (V.rejections q s fragments) :=
  h.bind (h.mapM (h.holdAgainst s)) fun found => h.pure (found.filterMap id)

/-! ## Fields -/

section Fields
variable {inner : Value → Session.Run Result}

theorem Parts.judgeSubject (h : V.Parts q.locale? C) (hinner : ∀ v, C Result (inner v)) (field : String)
    (nested : Bool) (s : Subject) (fragments : List Fragment) :
    C ElementResult (V.judgeSubject inner q field nested s fragments) := by
  refine h.bind (h.rejections s fragments) fun rejections => ?_
  split
  · exact h.bind (hinner s.value) fun r => h.pure _
  · exact h.pure _

theorem Parts.judge (h : V.Parts q.locale? C) (hinner : ∀ v, C Result (inner v))
    (requested : Option (List String)) (object : Value) (e : Element) :
    C ElementResult (V.judge inner q requested object e) :=
  h.bind (h.resolveText e.label) fun _ => h.judgeSubject hinner e.name e.nested _ _

theorem Parts.lookThrough (h : V.Parts q.locale? C) {stops : Bool} {look : Element → Session.Run Verdict}
    (hlook : ∀ e, C Verdict (look e)) (elements : List Element) :
    C (List Verdict) (Validator.lookThrough stops look elements) := by
  induction elements with
  | nil => exact h.pure []
  | cons e rest ih =>
    refine h.bind (hlook e) fun v => ?_
    split
    · exact h.pure [v]
    · exact h.bind ih fun vs => h.pure (v :: vs)

theorem Parts.judgeGated (h : V.Parts q.locale? C) {judge : Element → Session.Run ElementResult}
    (hjudge : ∀ e, C ElementResult (judge e)) (object : Value) (outcomes : List (String × Bool))
    (e : Element) : C Verdict (Validator.judgeGated judge object outcomes e) := by
  refine h.bind (h.forM fun name => h.warn _) fun _ => ?_
  split
  · exact h.bind (hjudge e) fun r => h.pure (Verdict.judged r)
  · exact h.pure Verdict.ignored

theorem Parts.verdicts (h : V.Parts q.locale? C) {stops : Bool}
    {judge : Element → Session.Run ElementResult} (hjudge : ∀ e, C ElementResult (judge e))
    (object : Value) (plan : Plan) : C (List Verdict) (Validator.verdicts stops judge object plan) := by
  have hfree : ∀ e, C Verdict (do return .judged (← judge e)) :=
    fun e => h.bind (hjudge e) fun r => h.pure (Verdict.judged r)
  unfold Validator.verdicts
  refine h.bind (h.lookThrough hfree _) fun first => ?_
  split
  · exact h.pure first
  · exact h.bind (h.lookThrough (h.judgeGated hjudge object _) _) fun second => h.pure (first ++ second)

end Fields

/-! ## Objects -/

theorem Parts.validateFields (h : V.Parts q.locale? C) {inner : Value → Session.Run Result}
    (hinner : ∀ v, C Result (inner v)) (object : Value) :
    C Result (V.validateFields inner q object) := by
  refine h.bind (h.planOf object.kind) fun plan => ?_
  split
  · exact h.bind (h.message? _) fun _ => h.pure _
  · refine h.bind (h.lift _) fun requested => ?_
    exact h.bind (h.verdicts (h.judge hinner requested object) object plan) fun found => h.finish _

/-- A value that is missing has nothing to validate, at any depth. -/
theorem validateWithin_none (V : Validator) (q : Request) (depth : Nat) :
    V.validateWithin q depth .none = do return .empty (← Session.message? Texts.missingValue q.locale?) := by
  cases depth <;> rfl

/-- An object that is there lies too deep once no depth is left. -/
theorem validateWithin_zero {object : Value} (h : object ≠ .none) :
    V.validateWithin q 0 object = throw .tooDeep := by
  cases object <;> first | rfl | exact absurd rfl h

/-- An object that is there is validated field by field, the values of its fields one level down. -/
theorem validateWithin_succ {object : Value} (h : object ≠ .none) (depth : Nat) :
    V.validateWithin q (depth + 1) object
      = V.validateFields (V.validateWithin q depth) q object := by
  cases object <;> first | rfl | exact absurd rfl h

theorem Parts.validateWithin (h : V.Parts q.locale? C) (depth : Nat) (object : Value) :
    C Result (V.validateWithin q depth object) := by
  -- the values of the fields are validated with one level less, for any object
  induction depth generalizing object with
  | zero =>
    by_cases hnone : object = .none
    · rw [hnone, validateWithin_none]
      exact h.bind (h.message? _) fun _ => h.pure _
    · rw [validateWithin_zero hnone]
      exact h.throw .tooDeep
  | succ depth ih =>
    by_cases hnone : object = .none
    · rw [hnone, validateWithin_none]
      exact h.bind (h.message? _) fun _ => h.pure _
    · rw [validateWithin_succ hnone]
      exact h.validateFields ih object

/-- What is true of everything that a validation does with its session, is true of the validation. -/
theorem Parts.validate (h : V.Parts q.locale? C) (object : Value) : C Result (V.validate q object) :=
  h.validateWithin (depthFor object) object

end Parts

end Validator

end FieldRules
