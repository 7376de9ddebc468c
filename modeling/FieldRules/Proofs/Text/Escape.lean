import FieldRules.Proofs.Rule.Printer
import Mathlib.Tactic.Common

/-!
# Texts with escapes

A text that is written with escapes is read back as it was (`unescape_escape`). Reading first writes every
character in ASCII, by the digits of its code if need be, and then decodes one escape after the other.
-/

namespace FieldRules.Text

open Rule.Literal (escapeChar)

/-! ## Hexadecimal digits -/

theorem hexDigit?_hexDigit {n : Nat} (h : n < 16) : hexDigit? (hexDigit n) = some n := by
  have hall : ∀ m : Fin 16, hexDigit? (hexDigit m) = some m.val := by decide
  exact hall ⟨n, h⟩

/-- Digits that are read after others are read as more digits of the same number. -/
theorem takeHex_hexDigits (width count : Nat) {n : Nat} (h : n < 16 ^ width) (before : Nat)
    (rest : List Char) :
    takeHex (width + count) before (hexDigits width n ++ rest)
      = takeHex count (before * 16 ^ width + n) rest := by
  -- the digits stand with the highest first, and the lowest is the last that is added
  induction width generalizing count n rest with
  | zero =>
    have hzero : n = 0 := by simpa using h
    simp [hexDigits, hzero]
  | succ width ih =>
    have hdiv : n / 16 < 16 ^ width := by
      rw [Nat.div_lt_iff_lt_mul (by decide)]
      exact h
    have hmod : n % 16 < 16 := Nat.mod_lt n (by decide)
    rw [hexDigits, List.append_assoc, List.singleton_append, Nat.add_right_comm, Nat.add_assoc,
      ih (count + 1) hdiv, takeHex, hexDigit?_hexDigit hmod, Option.bind_some]
    congr 1
    rw [Nat.pow_succ, Nat.add_mul, Nat.mul_assoc]
    omega

theorem takeHex_all (width : Nat) {n : Nat} (h : n < 16 ^ width) (rest : List Char) :
    takeHex width 0 (hexDigits width n ++ rest) = some (n, rest) := by
  have hdigits := takeHex_hexDigits width 0 h 0 rest
  rw [Nat.add_zero, Nat.zero_mul, Nat.zero_add] at hdigits
  exact hdigits

/-! ## Single characters -/

/-- A character as it is written in a text, in ASCII. -/
def encoded (c : Char) : List Char :=
  (escapeChar c).flatMap asciiForm

theorem decodeEscapes_escape {c : Char} {s after : List Char} (h : takeEscape s = .ok ([c], after))
    (fuel : Nat) : decodeEscapes (fuel + 1) ('\\' :: s) = (c :: ·) <$> decodeEscapes fuel after := by
  rw [decodeEscapes, beq_self_eq_true, if_pos rfl, h]
  show (decodeEscapes fuel after >>= fun t => pure ([c] ++ t)) = _
  cases decodeEscapes fuel after <;> rfl

theorem decodeEscapes_plain {c : Char} (h : c ≠ '\\') (fuel : Nat) (rest : List Char) :
    decodeEscapes (fuel + 1) (c :: rest) = (c :: ·) <$> decodeEscapes fuel rest := by
  rw [decodeEscapes, if_neg (by simpa using h)]
  cases decodeEscapes fuel rest <;> rfl

theorem toNat_lt (c : Char) : c.toNat < 0x110000 := by
  rcases c.valid with h | ⟨-, h⟩
  · exact Nat.lt_trans h (by decide)
  · exact h

/-- A character that has been written by its code is read as that character. -/
theorem decodeEscapes_asciiForm {c : Char} (h : c ≠ '\\') (fuel : Nat) (rest : List Char) :
    decodeEscapes (fuel + 1) (asciiForm c ++ rest) = (c :: ·) <$> decodeEscapes fuel rest := by
  have hback : Char.ofNat c.toNat = c := Char.ofNat_toNat c
  unfold asciiForm
  split
  · exact decodeEscapes_plain h fuel rest
  split
  · next hbyte =>
    refine decodeEscapes_escape ?_ fuel
    show takeEscape ('x' :: (hexDigits 2 c.toNat ++ rest)) = _
    simp only [takeEscape, show letterEscape? 'x' = none from rfl, takeHex_all 2 hbyte, hback]
    rfl
  split
  · next hunit =>
    refine decodeEscapes_escape ?_ fuel
    show takeEscape ('u' :: (hexDigits 4 c.toNat ++ rest)) = _
    simp only [takeEscape, show letterEscape? 'u' = none from rfl, takeHex_all 4 hunit, hback]
    rfl
  · refine decodeEscapes_escape ?_ fuel
    have hcode := toNat_lt c
    show takeEscape ('U' :: (hexDigits 8 c.toNat ++ rest)) = _
    simp only [takeEscape, show letterEscape? 'U' = none from rfl,
      takeHex_all 8 (Nat.lt_trans hcode (by decide)), hback]
    rw [if_neg (by decide), if_neg (by decide), if_neg (by decide), if_pos (by decide),
      if_neg (by omega)]
    rfl

/-- What is read first from a text is its first character, in one step. -/
theorem decodeEscapes_encoded (c : Char) (fuel : Nat) (rest : List Char) :
    decodeEscapes (fuel + 1) (encoded c ++ rest) = (c :: ·) <$> decodeEscapes fuel rest := by
  unfold encoded escapeChar
  split
  · next hfeed =>
    rw [hfeed]
    exact decodeEscapes_escape rfl fuel
  split
  · next hreturn =>
    rw [hreturn]
    exact decodeEscapes_escape rfl fuel
  split
  · next hquote =>
    rcases hquote with rfl | rfl | rfl <;> exact decodeEscapes_escape rfl fuel
  · next hother =>
    rw [List.flatMap_singleton]
    exact decodeEscapes_asciiForm (fun hc => hother (.inl hc)) fuel rest

/-! ## Texts -/

theorem length_encoded_pos (c : Char) : 0 < (encoded c).length := by
  have hascii : 0 < (asciiForm c).length := by
    unfold asciiForm
    split_ifs <;> simp
  unfold encoded escapeChar
  split_ifs
  · exact Nat.zero_lt_succ _
  · exact Nat.zero_lt_succ _
  · exact Nat.zero_lt_succ _
  · rw [List.flatMap_singleton]
    exact hascii

theorem decodeEscapes_flatMap (s : List Char) (fuel : Nat)
    (h : (s.flatMap encoded).length < fuel) : decodeEscapes fuel (s.flatMap encoded) = .ok s := by
  induction s generalizing fuel with
  | nil => cases fuel <;> rfl
  | cons c s ih =>
    obtain _ | fuel := fuel
    · omega
    · have hpos := length_encoded_pos c
      rw [List.flatMap_cons, List.length_append] at h
      rw [List.flatMap_cons, decodeEscapes_encoded, ih fuel (by omega)]
      rfl

/-- A text that is written with escapes is read as it was. -/
theorem unescape_escape (s : List Char) : unescape (s.flatMap escapeChar) = .ok s := by
  have hascii : (s.flatMap escapeChar).flatMap asciiForm = s.flatMap encoded :=
    List.flatMap_assoc
  rw [unescape, hascii]
  exact decodeEscapes_flatMap s _ (Nat.lt_succ_self _)

end FieldRules.Text
