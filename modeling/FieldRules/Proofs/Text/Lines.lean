import FieldRules.Text.Split
import Mathlib.Tactic.Common

/-!
# Ends of lines

Where all ends of lines have been made alike there is no carriage return, and a text without one stays what it is.
-/

namespace FieldRules.Text

theorem not_mem_unifyLines (s : List Char) : '\r' ∉ unifyLines s := by
  fun_induction unifyLines s with
  | case1 => exact List.not_mem_nil
  | case2 rest ih =>
    rw [List.mem_cons, not_or]
    exact ⟨by decide, ih⟩
  | case3 c rest _ ih =>
    rw [List.mem_cons, not_or]
    refine ⟨?_, ih⟩
    by_cases hc : c = '\r'
    · rw [if_pos (beq_iff_eq.2 hc)]
      decide
    · rw [if_neg (fun h => hc (beq_iff_eq.1 h))]
      exact Ne.symm hc

theorem unifyLines_eq_self {s : List Char} (h : '\r' ∉ s) : unifyLines s = s := by
  induction s with
  | nil => rfl
  | cons c s ih =>
    rw [List.mem_cons, not_or] at h
    have hne : (c == '\r') = false := by simpa using Ne.symm h.1
    rw [unifyLines]
    · rw [hne, if_neg Bool.false_ne_true, ih h.2]
    · rintro r rfl -
      exact h.1 rfl

theorem unifyLines_eq_self_iff {s : List Char} : unifyLines s = s ↔ '\r' ∉ s := by
  refine ⟨fun h => ?_, unifyLines_eq_self⟩
  rw [← h]
  exact not_mem_unifyLines s

end FieldRules.Text
