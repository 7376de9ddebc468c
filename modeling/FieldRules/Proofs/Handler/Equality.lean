import FieldRules.Proofs.Handler.Verdict
import FieldRules.Proofs.Number.Exact

/-!
# Equality with a number

A number that a value is to be equal to is first made into one of the class of the value. That may change it: an
integer takes the integer part of a floating-point number, and a truth value whether there is anything but zero. So a
value is also accepted that is not equal to the number (`Handler.equals_verdict`).

* `madeLike` is what a number counts as once it is made into one of the class of a value;
* `MadeEqual` are the numbers that a value is accepted for without being equal to them.
-/

namespace FieldRules

open Number

namespace Value

/-- What a number counts as when it is made into one of the class of a value. -/
def madeLike : Value → ℚ → ℚ
  | bool _, q => if q = 0 then 0 else 1
  | _, q => integerPart q

/-- The number is not equal to the value before it is made into one of its class. -/
inductive MadeEqual : Value → ℚ → Prop
  | bool {q : ℚ} : q ≠ 0 → q ≠ 1 → MadeEqual (bool true) q
  | int {n : ℤ} {q : ℚ} : q ≠ n → integerPart q = n → MadeEqual (int n) q

variable {v t : Value} {n : ℤ} {q : ℚ}

/-- A value is equal to what a number is made into if it is equal to the number, or just then becomes so. -/
theorem eq_madeLike_iff (hv : v.integer? = some n) : (n : ℚ) = v.madeLike q ↔ (n : ℚ) = q ∨ MadeEqual v q := by
  cases v with
  | bool b =>
    cases hv
    rw [madeLike]
    cases b with
    | false =>
      have hnever : ¬MadeEqual (bool false) q := nofun
      simp [hnever, eq_comm]
    | true =>
      have hmade : MadeEqual (bool true) q ↔ q ≠ 0 ∧ q ≠ 1 :=
        ⟨fun | .bool h h' => ⟨h, h'⟩, fun ⟨h, h'⟩ => .bool h h'⟩
      rw [hmade]
      by_cases hq : q = 0
      · simp [hq]
      · by_cases hone : q = 1
        · simp [hone]
        · simp [hq, hone]
  | int m =>
    cases hv
    have hmade : MadeEqual (int n) q ↔ q ≠ n ∧ integerPart q = n :=
      ⟨fun | .int h h' => ⟨h, h'⟩, fun ⟨h, h'⟩ => .int h h'⟩
    rw [hmade, show (int n).madeLike q = integerPart q from rfl, Int.cast_inj, eq_comm]
    by_cases hq : q = n
    · simp [hq, integerPart_intCast]
    · simp [hq, eq_comm]
  | _ => cases hv

/-- A target of the class of the value is taken as it is. -/
theorem sameValue_of_isOf (hpresent : t.isPresent = true) (h : t.isOf v.kind = true) :
    Handler.sameValue v t = .ok (v.equal t) := by
  unfold Handler.sameValue
  split
  · cases hpresent
  · rw [if_pos h]
    rfl

/-- Another target is made into one of that class. -/
theorem sameValue_of_convertTo {w : Value} (hpresent : t.isPresent = true) (h : t.isOf v.kind = false)
    (hw : t.convertTo v.kind = .ok w) : Handler.sameValue v t = .ok (v.equal w) := by
  unfold Handler.sameValue
  split
  · cases hpresent
  · rw [h, if_neg Bool.false_ne_true, hw]
    rfl

/-- A number counts as true if it is not zero. -/
theorem convertTo_bool {a : Numeric} (hnumeric : t.numeric? = some a) (hq : a.toRat? = some q) :
    t.convertTo .bool = .ok (bool (decide (q ≠ 0))) := by
  have hzero : a.same (.int 0) = decide (q = 0) := by
    rw [Bool.eq_iff_iff, decide_eq_true_iff, Numeric.same_iff hq (Numeric.toRat?_int 0), Int.cast_zero]
  have htruth : t.truth = .ok (decide (q ≠ 0)) := by
    unfold truth
    split
    · cases hnumeric
    · cases hnumeric
    · rw [hnumeric]
      dsimp only
      rw [hzero, decide_not]
      rfl
  unfold convertTo
  rw [htruth]
  rfl

/-- A finite number has an integer part. -/
theorem convertTo_int {x : Float} (hq : (float x).rational? = some q) :
    (float x).convertTo .int = .ok (int (integerPart q)) := by
  have hbinary : (Binary.ofFloat x).toRat? = some q := hq
  have htruncate : truncate x = .ok (integerPart q) := by
    unfold truncate
    split
    · cases hbinary.symm.trans (congrArg Binary.toRat? ‹_›)
    · cases hbinary.symm.trans (congrArg Binary.toRat? ‹_›)
    · rw [Binary.truncate?_eq_some hbinary]
      rfl
  unfold convertTo
  rw [show (float x).toInteger = truncate x from rfl, htruncate]
  rfl

/-- A truth value is already what it is made into, and so is an integer for an integer. -/
theorem madeLike_bool (b c : Bool) : (bool b).madeLike (if c then 1 else 0) = if c then 1 else 0 := by
  cases c <;> simp [madeLike]

theorem madeLike_int (n m : ℤ) : (int n).madeLike m = m :=
  congrArg Int.cast (integerPart_intCast m)

/-- What a number is made into has the value that it counts as. -/
theorem exists_converted (hv : v.integer? = some n) (ht : t.rational? = some q) :
    ∃ w, Handler.sameValue v t = .ok (v.equal w) ∧ w.rational? = some (v.madeLike q) := by
  obtain ⟨a, hnumeric, hq⟩ := Option.bind_eq_some_iff.1 ht
  have htruth : (bool (decide (q ≠ 0))).rational? = some (if q = 0 then 0 else 1) := by
    rw [rational?_bool]
    by_cases hzero : q = 0 <;> simp [hzero]
  -- A target of the class of the value stays what it is, and truth values are integers. The other ones are converted.
  cases v with
  | bool b =>
    cases t with
    | bool c =>
      obtain rfl := Option.some.inj ((rational?_bool c).symm.trans ht)
      exact ⟨bool c, sameValue_of_isOf rfl rfl, ht.trans (congrArg some (madeLike_bool b c).symm)⟩
    | int m => exact ⟨_, sameValue_of_convertTo rfl rfl (convertTo_bool hnumeric hq), htruth⟩
    | float x => exact ⟨_, sameValue_of_convertTo rfl rfl (convertTo_bool hnumeric hq), htruth⟩
    | _ => cases ht
  | int n =>
    cases t with
    | bool c =>
      obtain rfl := Option.some.inj ((Numeric.toRat?_int _).symm.trans ht)
      exact ⟨bool c, sameValue_of_isOf rfl rfl, ht.trans (congrArg some (madeLike_int n _).symm)⟩
    | int m =>
      obtain rfl := Option.some.inj ((rational?_int m).symm.trans ht)
      exact ⟨int m, sameValue_of_isOf rfl rfl, ht.trans (congrArg some (madeLike_int n m).symm)⟩
    | float x => exact ⟨_, sameValue_of_convertTo rfl rfl (convertTo_int ht), rational?_int _⟩
    | _ => cases ht
  | _ => cases hv

end Value

/-! ## The handler -/

namespace Handler

variable {v t : Value} {n : ℤ} {q : ℚ}

/-- With a number for its only argument, the handler compares the value with what that is made into. -/
theorem verdict?_equals {c : Bool} (hv : v.text? = none) (ht : t.text? = none) (hsame : sameValue v t = .ok c)
    {f : Fragment} (hf : f.arguments = [t]) (ctx : Context) : (equals.check v f ctx).verdict? = some c := by
  have htarget : f.argument 0 = .ok t := by
    rw [Fragment.argument, hf]
    rfl
  have hcase : f.argument 1 none (.bool false) = .ok (.bool false) := by
    rw [Fragment.argument, hf]
    rfl
  have htruth : (Value.bool false).truth = .ok false := rfl
  have hname : siblingName? t = none := by
    rw [siblingName?, ht]
    rfl
  have hsame' : same v t false = .ok c := by
    rw [same, hv]
    exact hsame
  unfold equals
  dsimp only
  rw [htarget, hcase]
  dsimp only [liftM, monadLift, MonadLift.monadLift, MonadLiftT.monadLift, bind, Check.bind]
  rw [htruth]
  dsimp only [Check.bind]
  rw [hname, hsame']
  exact verdict?_acceptIf c ctx f (some "specify")

/-- **An integer or truth value is accepted for a number that it is equal to, and for one that is made into it.** The
latter is so for `true` and every number but zero and one, and for an integer and every other number with that integer
part. -/
theorem equals_verdict {r : Registry} (hr : r.find? "equals" = some equals) (hv : v.integer? = some n)
    (ht : t.rational? = some q) (l : Leniency) (f : Fragment) (ctx : Context) :
    (v.equal t = true ↔ (n : ℚ) = q) ∧
      ∃ c, (Dispatch.run r l v { f with name := "equals", arguments := [t] } ctx).verdict? = some c ∧
        (c = true ↔ v.equal t = true ∨ v.MadeEqual q) := by
  have hnumeric := Value.numeric?_of_integer? hv
  have hvalue : v.rational? = some (n : ℚ) := (congrArg (·.bind Numeric.toRat?) hnumeric).trans (Numeric.toRat?_int n)
  obtain ⟨a, htarget, -⟩ := Option.bind_eq_some_iff.1 ht
  have hequal := Value.equal_iff_rational hvalue ht
  obtain ⟨w, hsame, hw⟩ := Value.exists_converted hv ht
  refine ⟨hequal, v.equal w, ?_, ?_⟩
  · rw [Dispatch.verdict?_run hr rfl rfl, Value.isPresent_of_numeric? hnumeric, Bool.true_and,
      show equals.supports v.kind = true from rfl, if_pos rfl]
    exact verdict?_equals (Value.text?_of_numeric? hnumeric) (Value.text?_of_numeric? htarget) hsame rfl ctx
  · rw [Value.equal_iff_rational hvalue hw, Value.eq_madeLike_iff hv, hequal]

/-- An integer is compared with one and a half. -/
theorem equals_verdict_half :
    (Value.float 1.5).rational? = some (3 / 2) ∧
      ((Value.int 1).equal (.float 1.5) = true ↔ ((1 : ℤ) : ℚ) = 3 / 2) ∧
      ∃ c, (Dispatch.run Registry.builtin {} (.int 1) { name := "equals", arguments := [.float 1.5] } {}).verdict?
          = some c ∧
        (c = true ↔ (Value.int 1).equal (.float 1.5) = true ∨ (Value.int 1).MadeEqual (3 / 2)) := by
  have hbinary : Binary.ofFloat 1.5 = .finite false 6755399441055744 (-52) := by decide +kernel
  have hhalf : (Value.float 1.5).rational? = some (3 / 2) := by
    show (Binary.ofFloat 1.5).toRat? = _
    rw [hbinary, Binary.toRat?]
    norm_num
  exact ⟨hhalf, equals_verdict (r := Registry.builtin) rfl rfl hhalf {} { name := "" } {}⟩

/-- An integer is accepted for a number with another value, and so is `true`. -/
theorem equals_accepts_unequal :
    (Dispatch.run Registry.builtin {} (.int 1) { name := "equals", arguments := [.float 1.5] } {}).verdict?
        = some true ∧
      (Value.int 1).equal (.float 1.5) = false ∧
      (Dispatch.run Registry.builtin {} (.bool true) { name := "equals", arguments := [.int 5] } {}).verdict?
        = some true ∧
      (Value.bool true).equal (.int 5) = false := by
  decide +kernel

end Handler

end FieldRules
