import FieldRules.Text.Case
import Mathlib.Tactic.Common

/-!
# Case of ASCII

A text of ASCII is put into small letters and into capitals character by character, whatever stands around a
character. Two such texts are the same in capitals if they are the same in small letters.
-/

namespace FieldRules.Text

variable {c : Char} {s t : List Char}

/-- What holds of the characters of ASCII by their codes. -/
theorem forall_ascii {P : Char → Prop} (h : ∀ n < 128, P (Char.ofNat n)) (hc : c.toNat < 128) : P c := by
  have hcode := h c.toNat hc
  rwa [Char.ofNat_toNat] at hcode

theorem lower_of_ascii (h : ∀ c ∈ s, c.toNat < 128) : lower s = s.map Char.toLower := by
  have hfrom : ∀ before, lowerFrom before s = s.map Char.toLower := by
    induction s with
    | nil => exact fun _ => rfl
    | cons c s ih =>
      intro before
      obtain ⟨hc, hs⟩ := List.forall_mem_cons.1 h
      -- Only the capital sigma depends on the letters around it.
      have hsigma : ¬(c == 'Σ') = true := by
        intro heq
        rw [beq_iff_eq.1 heq] at hc
        exact absurd hc (by decide)
      rw [lowerFrom, ih hs, lowerChar, if_pos hc, if_neg hsigma]
      rfl
  exact hfrom []

theorem upper_of_ascii (h : ∀ c ∈ s, c.toNat < 128) : upper s = s.map Char.toUpper := by
  induction s with
  | nil => rfl
  | cons c s ih =>
    obtain ⟨hc, hs⟩ := List.forall_mem_cons.1 h
    rw [upper, List.flatMap_cons, ← upper, ih hs, upperChar, if_pos hc]
    rfl

/-- A text of ASCII stays what it is in small letters if it has no capital one. -/
theorem map_toLower_eq_self_iff (h : ∀ c ∈ s, c.toNat < 128) :
    s.map Char.toLower = s ↔ s.any Char.isUpper = false := by
  induction s with
  | nil => exact iff_of_true rfl rfl
  | cons c s ih =>
    obtain ⟨hc, hs⟩ := List.forall_mem_cons.1 h
    have hchar : c.toLower = c ↔ c.isUpper = false :=
      forall_ascii (P := fun c => c.toLower = c ↔ c.isUpper = false) (by decide +kernel) hc
    rw [List.map_cons, List.cons.injEq, List.any_cons, Bool.or_eq_false_iff, hchar, ih hs]

theorem map_toUpper_map_toLower (h : ∀ c ∈ s, c.toNat < 128) :
    (s.map Char.toLower).map Char.toUpper = s.map Char.toUpper := by
  rw [List.map_map, List.map_inj_left]
  intro c hc
  exact forall_ascii (P := fun c => c.toLower.toUpper = c.toUpper) (by decide +kernel) (h c hc)

/-- The same small letters have the same capitals. -/
theorem upper_eq_of_lower_eq (hs : ∀ c ∈ s, c.toNat < 128) (ht : ∀ c ∈ t, c.toNat < 128)
    (h : s.map Char.toLower = t.map Char.toLower) : upper s = upper t := by
  rw [upper_of_ascii hs, upper_of_ascii ht, ← map_toUpper_map_toLower hs, h, map_toUpper_map_toLower ht]

end FieldRules.Text
