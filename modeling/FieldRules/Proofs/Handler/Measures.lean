import FieldRules.Proofs.Handler.Verdict
import FieldRules.Proofs.Rule.TypedArguments
import FieldRules.Proofs.Run
import Mathlib.Order.Basic

/-!
# Bounds and what is measured by them

Numbers are compared with bounds as they are, and other values by their sizes. The four handlers of bounds all look at
this measure of a value (`Value.measure?`), and at nothing else of it, so that they agree with each other
(`Handler.bounds_agree`).
-/

namespace FieldRules

/-! ## Numbers the other way round -/

theorem Number.Binary.compare?_swap (x y : Number.Binary) : y.compare? x = (x.compare? y).map Ordering.swap := by
  cases x with
  | nan => cases y <;> rfl
  | infinite a =>
    cases y with
    | nan => rfl
    | infinite b => cases a <;> cases b <;> rfl
    | finite => cases a <;> rfl
  | finite a m e =>
    cases y with
    | nan => rfl
    | infinite b => cases b <;> rfl
    | finite b n e' =>
      rw [compare?, compare?]
      cases (finite a m e).fraction? with
      | none => cases (finite b n e').fraction? <;> rfl
      | some f =>
        cases (finite b n e').fraction? with
        | none => rfl
        | some g => exact congrArg some Std.OrientedOrd.eq_swap

namespace Numeric

theorem compare?_swap (a b : Numeric) : b.compare? a = (a.compare? b).map Ordering.swap := by
  cases a with
  | float x => cases b <;> exact Number.Binary.compare?_swap ..
  | int m =>
    cases b with
    | float y => exact Number.Binary.compare?_swap ..
    | int n => exact congrArg some Std.OrientedOrd.eq_swap

/-- Whether a number is at least a bound. -/
def atLeast (m : Numeric) (a : Int) : Bool :=
  (m.compare? (.int a)).any Comparison.greaterOrEqual.holds

/-- Whether a number is at most a bound. -/
def atMost (m : Numeric) (b : Int) : Bool :=
  (m.compare? (.int b)).any Comparison.lessOrEqual.holds

theorem any_lessOrEqual_swap (m : Numeric) (a : Int) :
    ((int a).compare? m).any Comparison.lessOrEqual.holds = m.atLeast a := by
  rw [atLeast, compare?_swap m]
  rcases m.compare? (int a) with _ | _ | _ | _ <;> rfl

/-- A number is the same as a bound if it is at least that and at most that. -/
theorem same_eq (m : Numeric) (a : Int) : m.same (int a) = (m.atLeast a && m.atMost a) := by
  rw [same, atLeast, atMost]
  rcases m.compare? (int a) with _ | _ | _ | _ <;> rfl

end Numeric

namespace Value

/-- What is compared with bounds: a number itself, and the size of anything else. -/
def measure? (v : Value) : Option Numeric :=
  if v.isOf .number then v.numeric? else v.length.toOption.map fun n : Nat => .int n

theorem toOption_compareBy_int (op : Comparison) (v : Value) (a : Int) :
    (v.compareBy op (.int a)).toOption = v.numeric?.map fun m => (m.compare? (.int a)).any op.holds := by
  -- Only values of one kind are compared in another way than as numbers or texts, and a bound is a number.
  cases v <;> rw [compareBy] <;> first | rfl | nofun

theorem toOption_int_compareBy (op : Comparison) (a : Int) (v : Value) :
    ((int a).compareBy op v).toOption = v.numeric?.map fun m => ((Numeric.int a).compare? m).any op.holds := by
  rw [compareBy]
  · cases v <;> rfl
  all_goals nofun

end Value

namespace Handler

/-! ## What the handlers compare -/

section Comparisons
variable {v : Value} {f : Fragment} {ctx : Context} {a b : Int}

theorem toOption_liftFault {α : Type} (r : Except Fault α) : (liftFault r).toOption = r.toOption := by
  cases r <;> rfl

theorem toOption_atLeast (v : Value) (a : Int) :
    (Handler.atLeast v (.int a)).toOption = v.numeric?.map (Numeric.atLeast · a) :=
  (toOption_liftFault _).trans (Value.toOption_compareBy_int .greaterOrEqual v a)

theorem toOption_atMost (v : Value) (b : Int) :
    (Handler.atMost v (.int b)).toOption = v.numeric?.map (Numeric.atMost · b) :=
  (toOption_liftFault _).trans (Value.toOption_compareBy_int .lessOrEqual v b)

theorem toOption_atMost_swap (a : Int) (v : Value) :
    (Handler.atMost (.int a) v).toOption = v.numeric?.map (Numeric.atLeast · a) := by
  refine (toOption_liftFault _).trans ((Value.toOption_int_compareBy .lessOrEqual a v).trans ?_)
  simp only [Numeric.any_lessOrEqual_swap]

theorem toOption_within (a b : Int) (v : Value) :
    (within (.ok (.int a)) v (.ok (.int b))).toOption
      = v.numeric?.map fun m => m.atLeast a && m.atMost b := by
  have hlow := toOption_atMost_swap a v
  have hhigh := toOption_atMost v b
  unfold within
  dsimp only [bind, Except.bind]
  -- The second comparison is only made if the first one holds; both fail for the same values.
  cases hnumeric : v.numeric? with
  | none =>
    rw [hnumeric] at hlow
    cases hat : Handler.atMost (.int a) v with
    | error e => rfl
    | ok low =>
      rw [hat] at hlow
      cases hlow
  | some m =>
    rw [hnumeric] at hlow hhigh
    rw [Cache.Run.eq_ok_of_toOption hlow]
    dsimp only
    rw [Option.map_some]
    cases m.atLeast a with
    | false => rfl
    | true => exact hhigh

/-- What a handler of bounds comes to is said by the measure of the value. -/
theorem verdict?_bounded {P : Numeric → Bool} {number : Except Error Bool} {size : Value → Except Error Bool}
    (hnumber : number.toOption = v.numeric?.map P) (hsize : ∀ n : Nat, (size (.int n)).toOption = some (P (.int n))) :
    (bounded number (do size (← sizeOf v)) v f ctx).verdict? = v.measure?.map P := by
  unfold bounded Value.measure?
  cases v.isOf .number with
  | true =>
    rw [if_pos rfl, if_pos rfl, ← hnumber]
    exact Check.verdict?_lift number fun b => verdict?_acceptIf b ctx f _
  | false =>
    rw [if_neg Bool.false_ne_true, if_neg Bool.false_ne_true]
    refine (Check.verdict?_lift _ fun b => verdict?_acceptIf b ctx f _).trans ?_
    unfold sizeOf
    cases v.length with
    | error e => rfl
    | ok n => exact hsize n

/-- An argument that is of the class that is asked for is given as it is. -/
theorem argument_of_getElem? {w : Value} {i : Nat} {kind? : Option Class} (h : f.arguments[i]? = some w)
    (hkind : kind?.all w.isOf = true) : f.argument i kind? = .ok w := by
  rw [Fragment.argument_eq_convertArgument kind? h]
  unfold Fragment.convertArgument
  split
  · rfl
  · rfl
  · exact if_pos hkind

theorem numberBound_of_getElem? {i : Nat} (h : f.arguments[i]? = some (.int a)) :
    numberBound f i = .ok (.int a) := by
  unfold numberBound
  rw [argument_of_getElem? h rfl]
  rfl

theorem sizeBound_of_getElem? {i : Nat} (h : f.arguments[i]? = some (.int a)) : sizeBound f i = .ok (.int a) :=
  argument_of_getElem? h rfl

theorem verdict?_minimum (hf : f.arguments = [.int a]) :
    (minimum.check v f ctx).verdict? = v.measure?.map (Numeric.atLeast · a) := by
  have hnumber : numberBound f 0 = .ok (.int a) := numberBound_of_getElem? (by rw [hf]; rfl)
  have hsize : sizeBound f 0 = .ok (.int a) := sizeBound_of_getElem? (by rw [hf]; rfl)
  unfold minimum
  dsimp only
  rw [hsize, hnumber]
  exact verdict?_bounded (toOption_atLeast v a) fun n => toOption_atLeast (.int n) a

theorem verdict?_maximum (hf : f.arguments = [.int b]) :
    (maximum.check v f ctx).verdict? = v.measure?.map (Numeric.atMost · b) := by
  have hnumber : numberBound f 0 = .ok (.int b) := numberBound_of_getElem? (by rw [hf]; rfl)
  have hsize : sizeBound f 0 = .ok (.int b) := sizeBound_of_getElem? (by rw [hf]; rfl)
  unfold maximum
  dsimp only
  rw [hsize, hnumber]
  exact verdict?_bounded (toOption_atMost v b) fun n => toOption_atMost (.int n) b

theorem verdict?_range (hf : f.arguments = [.int a, .int b]) :
    (range.check v f ctx).verdict? = v.measure?.map fun m => m.atLeast a && m.atMost b := by
  have hlow : numberBound f 0 = .ok (.int a) := numberBound_of_getElem? (by rw [hf]; rfl)
  have hhigh : numberBound f 1 = .ok (.int b) := numberBound_of_getElem? (by rw [hf]; rfl)
  have hleast : sizeBound f 0 = .ok (.int a) := sizeBound_of_getElem? (by rw [hf]; rfl)
  have hmost : sizeBound f 1 = .ok (.int b) := sizeBound_of_getElem? (by rw [hf]; rfl)
  unfold range
  dsimp only
  rw [hlow, hhigh, hleast, hmost]
  exact verdict?_bounded (toOption_within a b v) fun n => toOption_within a b (.int n)

theorem measure?_of_size (hv : v.isOf .number = false) :
    v.measure? = v.length.toOption.map fun n : Nat => .int n := by
  rw [Value.measure?, hv, if_neg Bool.false_ne_true]

theorem verdict?_length (hv : v.isOf .number = false) (hf : f.arguments = [.int a, .int b]) :
    (length.check v f ctx).verdict? = v.measure?.map fun m => m.atLeast a && m.atMost b := by
  have hleast : sizeBound f 0 = .ok (.int a) := sizeBound_of_getElem? (by rw [hf]; rfl)
  have hmost : sizeBound f 1 = .ok (.int b) := sizeBound_of_getElem? (by rw [hf]; rfl)
  rw [measure?_of_size hv]
  unfold length sizeOf
  dsimp only
  rw [hleast, hmost, hf]
  cases v.length with
  | error e => rfl
  | ok n =>
    exact (Check.verdict?_lift (within (.ok (.int a)) (.int n) (.ok (.int b))) fun c =>
      verdict?_acceptIf c ctx f _).trans (toOption_within a b (.int n))

theorem verdict?_length_exact (hv : v.isOf .number = false) (hf : f.arguments = [.int a]) :
    (length.check v f ctx).verdict? = v.measure?.map fun m => m.atLeast a && m.atMost a := by
  have hsize : sizeBound f 0 = .ok (.int a) := sizeBound_of_getElem? (by rw [hf]; rfl)
  rw [measure?_of_size hv]
  unfold length sizeOf
  dsimp only
  rw [hsize, hf]
  cases v.length with
  | error e => rfl
  | ok n =>
    have hequal : (Value.int n).equal (.int a) = ((Numeric.int n).atLeast a && (Numeric.int n).atMost a) := by
      rw [Value.equal]
      exact Numeric.same_eq (.int n) a
    exact (verdict?_acceptIf _ ctx f none).trans (congrArg some hequal)

end Comparisons

/-! ## Agreement -/

/-- The handlers of bounds that are always there have their names. -/
structure Bounding (r : Registry) : Prop where
  minimum : r.find? "min" = some minimum
  maximum : r.find? "max" = some maximum
  range : r.find? "range" = some range
  length : r.find? "length" = some length

section Agreement
variable {r : Registry} {v : Value} {a b : Int}

/-- The verdict on a value by the handler of that name with these bounds. -/
def boundVerdict? (r : Registry) (l : Leniency) (ctx : Context) (f : Fragment) (v : Value) (name : String)
    (bounds : List Int) : Option Bool :=
  (Dispatch.run r l v { f with name, arguments := bounds.map .int } ctx).verdict?

/-- Values that are there and that are numbers or have a size. -/
def isBounded (v : Value) : Bool :=
  v.isPresent && boundedTypes.any v.isOf

theorem boundVerdict?_min (hr : Bounding r) (l : Leniency) (ctx : Context) (f : Fragment) :
    boundVerdict? r l ctx f v "min" [a]
      = if isBounded v then v.measure?.map (Numeric.atLeast · a) else some true :=
  (Dispatch.verdict?_run hr.minimum rfl rfl l v ctx).trans (by rw [verdict?_minimum rfl]; rfl)

theorem boundVerdict?_max (hr : Bounding r) (l : Leniency) (ctx : Context) (f : Fragment) :
    boundVerdict? r l ctx f v "max" [b]
      = if isBounded v then v.measure?.map (Numeric.atMost · b) else some true :=
  (Dispatch.verdict?_run hr.maximum rfl rfl l v ctx).trans (by rw [verdict?_maximum rfl]; rfl)

theorem boundVerdict?_range (hr : Bounding r) (l : Leniency) (ctx : Context) (f : Fragment) :
    boundVerdict? r l ctx f v "range" [a, b]
      = if isBounded v then v.measure?.map (fun m => m.atLeast a && m.atMost b) else some true :=
  (Dispatch.verdict?_run hr.range rfl rfl l v ctx).trans (by rw [verdict?_range rfl]; rfl)

theorem isPresent_of_sized (h : v.isOf .sized = true) : v.isPresent = true := by
  cases v with
  | none => exact absurd h (by decide)
  | _ => rfl

theorem isBounded_of_sized (h : v.isOf .sized = true) : isBounded v = true := by
  simp [isBounded, boundedTypes, isPresent_of_sized h, h]

/-- What the handler of lengths comes to for a value with a size. -/
theorem boundVerdict?_length {bounds : List Int} (hr : Bounding r) (hv : v.isOf .sized = true)
    (harity : length.arity.violation? "length" (bounds.map Value.int).length = none) (l : Leniency) (ctx : Context)
    (f : Fragment) :
    boundVerdict? r l ctx f v "length" bounds
      = (length.check v { f with name := "length", arguments := bounds.map .int } ctx).verdict? := by
  have hsupports : (v.isPresent && length.supports v.kind) = true := by
    rw [isPresent_of_sized hv, Bool.true_and]
    exact List.any_eq_true.2 ⟨.sized, List.mem_singleton_self _, hv⟩
  exact (Dispatch.verdict?_run hr.length harity rfl l v ctx).trans (if_pos hsupports)

/-- **The handlers of bounds agree.** A value lies in a range if it passes both of its ends, and for a value with a size
that is no number, the length is in a range if the value is, and is a number if the value is in the range of that
number alone. -/
theorem bounds_agree (hr : Bounding r) (l : Leniency) (ctx : Context) (f : Fragment) (v : Value) (a b : Int) :
    (boundVerdict? r l ctx f v "range" [a, b] = some true ↔
      boundVerdict? r l ctx f v "min" [a] = some true ∧ boundVerdict? r l ctx f v "max" [b] = some true) ∧
    (v.isOf .sized = true → v.isOf .number = false →
      (boundVerdict? r l ctx f v "length" [a, b] = some true ↔ boundVerdict? r l ctx f v "range" [a, b] = some true) ∧
      (boundVerdict? r l ctx f v "length" [a] = some true ↔ boundVerdict? r l ctx f v "range" [a, a] = some true)) := by
  rw [boundVerdict?_range hr, boundVerdict?_range hr, boundVerdict?_min hr, boundVerdict?_max hr]
  constructor
  · cases isBounded v with
    | false => exact ⟨fun _ => ⟨rfl, rfl⟩, fun _ => rfl⟩
    | true =>
      rw [if_pos rfl, if_pos rfl, if_pos rfl]
      cases v.measure? with
      | none => exact ⟨nofun, nofun⟩
      | some m => simp only [Option.map_some, Option.some.injEq, Bool.and_eq_true]
  · intro hsized hnumber
    rw [isBounded_of_sized hsized, if_pos rfl, if_pos rfl, boundVerdict?_length hr hsized rfl,
      boundVerdict?_length hr hsized rfl, verdict?_length hnumber rfl, verdict?_length_exact hnumber rfl]
    exact ⟨Iff.rfl, Iff.rfl⟩

/-- A text is measured by its length, and lies between these bounds. -/
theorem bounds_agree_greeting :
    Bounding .builtin ∧ (Value.string "hello").isOf .sized = true ∧ (Value.string "hello").isOf .number = false ∧
      (boundVerdict? .builtin {} {} { name := "" } (.string "hello") "range" [2, 5] = some true ↔
        boundVerdict? .builtin {} {} { name := "" } (.string "hello") "min" [2] = some true ∧
          boundVerdict? .builtin {} {} { name := "" } (.string "hello") "max" [5] = some true) ∧
      (boundVerdict? .builtin {} {} { name := "" } (.string "hello") "length" [2, 5] = some true ↔
        boundVerdict? .builtin {} {} { name := "" } (.string "hello") "range" [2, 5] = some true) ∧
      boundVerdict? .builtin {} {} { name := "" } (.string "hello") "range" [2, 5] = some true := by
  have hr : Bounding .builtin := ⟨rfl, rfl, rfl, rfl⟩
  obtain ⟨hrange, hlength⟩ := bounds_agree hr {} {} { name := "" } (.string "hello") 2 5
  exact ⟨hr, rfl, rfl, hrange, (hlength rfl rfl).1, by decide +kernel⟩

end Agreement

end Handler

end FieldRules
