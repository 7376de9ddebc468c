import FieldRules.Number.Binary
import FieldRules.Value.Equal
import Mathlib.Data.Rat.Floor
import Mathlib.Algebra.Order.Field.Basic
import Mathlib.Tactic.FieldSimp
import Mathlib.Tactic.NormNum
import Mathlib.Tactic.Positivity

/-!
# The exact values of numbers

A finite floating-point number has a rational value. Numbers are compared by these values
(`Numeric.compare?_eq_some`), and the integer part of one is that of its value (`Binary.truncate?_eq_some`).
-/

namespace FieldRules

namespace Number

/-- The rational number that a fraction stands for. -/
def Fraction.toRat (f : Fraction) : ℚ :=
  (if f.negative then -1 else 1) * f.num / f.den

/-- The integer part of a rational number, toward zero. -/
def integerPart (q : ℚ) : ℤ :=
  if 0 ≤ q then ⌊q⌋ else ⌈q⌉

theorem integerPart_of_nonneg {q : ℚ} (h : 0 ≤ q) : integerPart q = ⌊q⌋ := if_pos h

theorem integerPart_intCast (n : ℤ) : integerPart n = n := by
  rw [integerPart, Int.floor_intCast, Int.ceil_intCast, ite_self]

theorem integerPart_neg (q : ℚ) : integerPart (-q) = -integerPart q := by
  rcases lt_trichotomy q 0 with h | rfl | h
  · rw [integerPart, integerPart, if_pos (neg_nonneg.2 h.le), if_neg h.not_ge, Int.floor_neg]
  · rfl
  · rw [integerPart, integerPart, if_neg (neg_neg_of_pos h).not_ge, if_pos h.le, Int.ceil_neg]

namespace Binary

/-- The value of a finite number. -/
def toRat? : Binary → Option ℚ
  | finite negative m e => some ((if negative then -1 else 1) * m * 2 ^ e)
  | _ => none

variable {x y : Binary} {p q : ℚ}

/-- A finite number is the fraction that it is made into. -/
theorem exists_fraction (h : x.toRat? = some q) : ∃ f, x.fraction? = some f ∧ 0 < f.den ∧ f.toRat = q := by
  cases x with
  | nan => cases h
  | infinite negative => cases h
  | finite negative m e =>
    cases h
    by_cases he : 0 ≤ e
    · refine ⟨_, if_pos he, Nat.one_pos, ?_⟩
      obtain ⟨n, rfl⟩ := Int.eq_ofNat_of_zero_le he
      simp [Fraction.toRat]
    · refine ⟨_, if_neg he, Nat.pow_pos two_pos, ?_⟩
      obtain ⟨n, hn⟩ := Int.eq_ofNat_of_zero_le (show 0 ≤ -e by omega)
      obtain rfl : e = -n := by omega
      simp [Fraction.toRat, div_eq_mul_inv]

theorem cast_numerator {f : Fraction} (h : 0 < f.den) (n : ℕ) :
    (((if f.negative then -1 else 1) * (f.num * n : Nat) : Int) : ℚ) = f.toRat * (f.den * n) := by
  have hden : (f.den : ℚ) ≠ 0 := Nat.cast_ne_zero.2 h.ne'
  rw [Fraction.toRat]
  field_simp
  push_cast
  rw [mul_assoc]

/-- Fractions are compared by multiplying crosswise. -/
theorem compare_cross {f g : Fraction} (hf : 0 < f.den) (hg : 0 < g.den) :
    compare ((if f.negative then -1 else 1) * (f.num * g.den : Nat) : Int)
      ((if g.negative then -1 else 1) * (g.num * f.den : Nat)) = compare f.toRat g.toRat := by
  -- Both sides of the crosswise comparison are the values, times both denominators.
  have hpos : (0 : ℚ) < f.den * g.den := mul_pos (Nat.cast_pos.2 hf) (Nat.cast_pos.2 hg)
  rw [← cmp_eq_compare, ← cmp_eq_compare, ← (Int.cast_strictMono (R := ℚ)).cmp_map_eq, cast_numerator hf,
    cast_numerator hg, mul_comm (g.den : ℚ), cmp_mul_pos_right hpos]

/-- Finite numbers are compared by their values. -/
theorem compare?_eq_some (hx : x.toRat? = some p) (hy : y.toRat? = some q) : x.compare? y = some (compare p q) := by
  obtain ⟨f, hf, hfden, rfl⟩ := exists_fraction hx
  obtain ⟨g, hg, hgden, rfl⟩ := exists_fraction hy
  rw [← compare_cross hfden hgden]
  cases x with
  | finite =>
    cases y with
    | finite =>
      rw [compare?, hf, hg]
      rfl
    | _ => cases hg
  | _ => cases hf

/-- The integer part of a number is that of its value. -/
theorem truncate?_eq_some (hx : x.toRat? = some q) : x.truncate? = some (integerPart q) := by
  obtain ⟨f, hf, hden, rfl⟩ := exists_fraction hx
  have hpart : integerPart (f.num / f.den) = (f.num / f.den : Nat) := by
    rw [integerPart_of_nonneg (by positivity), Rat.floor_natCast_div_natCast]
    rfl
  rw [truncate?, hf, Option.map_some, Fraction.toRat, mul_div_assoc]
  cases f.negative with
  | false => rw [if_neg Bool.false_ne_true, if_neg Bool.false_ne_true, one_mul, hpart]
  | true => rw [if_pos rfl, if_pos rfl, neg_one_mul, integerPart_neg, hpart]

theorem toRat?_ofInt (n : ℤ) : (ofInt n).toRat? = some (n : ℚ) := by
  rw [ofInt, toRat?, zpow_zero, mul_one, Option.some.injEq]
  rcases lt_or_ge n 0 with h | h
  · rw [decide_eq_true h, if_pos rfl, neg_one_mul, Nat.cast_natAbs, abs_of_neg h, Int.cast_neg, neg_neg]
  · rw [decide_eq_false h.not_gt, if_neg Bool.false_ne_true, one_mul, Nat.cast_natAbs, abs_of_nonneg h]

end Binary

end Number

namespace Numeric

/-- The value of a number, if it is finite. -/
def toRat? (a : Numeric) : Option ℚ :=
  a.binary.toRat?

theorem toRat?_int (n : ℤ) : (int n).toRat? = some (n : ℚ) :=
  Number.Binary.toRat?_ofInt n

variable {a b : Numeric} {p q : ℚ}

/-- Numbers are compared by their values. -/
theorem compare?_eq_some (ha : a.toRat? = some p) (hb : b.toRat? = some q) : a.compare? b = some (compare p q) := by
  have hbinary := Number.Binary.compare?_eq_some ha hb
  cases a with
  | float x => exact hbinary
  | int m =>
    cases b with
    | float y => exact hbinary
    | int n =>
      obtain rfl : (m : ℚ) = p := Option.some.inj ((toRat?_int m).symm.trans ha)
      obtain rfl : (n : ℚ) = q := Option.some.inj ((toRat?_int n).symm.trans hb)
      rw [compare?, ← cmp_eq_compare, ← cmp_eq_compare, (Int.cast_strictMono (R := ℚ)).cmp_map_eq]

theorem same_iff (ha : a.toRat? = some p) (hb : b.toRat? = some q) : a.same b = true ↔ p = q := by
  rw [same, compare?_eq_some ha hb, beq_iff_eq, Option.some.injEq, compare_eq_iff_eq]

end Numeric

/-- The rational number that a value is: an integer, a truth value, or a finite floating-point number. -/
def Value.rational? (v : Value) : Option ℚ :=
  v.numeric?.bind Numeric.toRat?

namespace Value

theorem numeric?_of_integer? {v : Value} {n : ℤ} (h : v.integer? = some n) : v.numeric? = some (.int n) := by
  cases v <;> cases h <;> rfl

/-- A number is there, and it is no text. -/
theorem isPresent_of_numeric? {v : Value} {a : Numeric} (h : v.numeric? = some a) : v.isPresent = true := by
  cases v <;> first | rfl | cases h

theorem text?_of_numeric? {v : Value} {a : Numeric} (h : v.numeric? = some a) : v.text? = Option.none := by
  cases v <;> first | rfl | cases h

theorem rational?_int (n : ℤ) : (int n).rational? = some (n : ℚ) :=
  Numeric.toRat?_int n

theorem rational?_bool (b : Bool) : (bool b).rational? = some (if b then 1 else 0) := by
  refine (Numeric.toRat?_int _).trans ?_
  cases b <;> norm_num

/-- Finite numbers are equal where their values are. -/
theorem equal_iff_rational {v w : Value} {p q : ℚ} (hv : v.rational? = some p) (hw : w.rational? = some q) :
    v.equal w = true ↔ p = q := by
  obtain ⟨a, ha, hp⟩ := Option.bind_eq_some_iff.1 hv
  obtain ⟨b, hb, hq⟩ := Option.bind_eq_some_iff.1 hw
  have hequal : v.equal w = w.numeric?.any a.same := by
    cases v <;> cases ha <;> rw [Value.equal]
  rw [hequal, hb]
  exact Numeric.same_iff hp hq

end Value

end FieldRules
