import FieldRules.Text.Blank
import FieldRules.Text.Digit
import FieldRules.Text.Identifier
import Mathlib.Tactic.Common

/-!
# Classes of characters

What the classes of characters come to for ASCII, and that no letter, numeral or sign is blank.
-/

namespace FieldRules.Text

variable {c : Char}

/-! ## ASCII -/

theorem isAsciiDigit_iff : isAsciiDigit c = true ↔ 48 ≤ c.toNat ∧ c.toNat ≤ 57 := by
  simp only [isAsciiDigit, Bool.and_eq_true, decide_eq_true_eq, Char.le_def, UInt32.le_iff_toNat_le]
  exact Iff.rfl

theorem isAsciiDigit_of_mem {n : Nat} (h : c ∈ Nat.toDigits 10 n) : isAsciiDigit c = true := by
  have hdigit : c.isDigit = true := Nat.isDigit_of_mem_toDigits (by decide) (by decide) h
  simp only [Char.isDigit, Bool.and_eq_true, decide_eq_true_eq] at hdigit
  simp only [isAsciiDigit, Bool.and_eq_true, decide_eq_true_eq]
  exact hdigit

theorem isAsciiLetter_iff : isAsciiLetter c = true ↔
    97 ≤ c.toNat ∧ c.toNat ≤ 122 ∨ 65 ≤ c.toNat ∧ c.toNat ≤ 90 := by
  simp only [isAsciiLetter, Bool.or_eq_true, Bool.and_eq_true, decide_eq_true_eq, Char.le_def,
    UInt32.le_iff_toNat_le]
  exact Iff.rfl

/-- The characters of ASCII that are printed as signs, letters or digits are not blank. -/
theorem isBlank_eq_false (hlow : 32 < c.toNat) (hhigh : c.toNat < 127) : isBlank c = false := by
  rw [← Bool.not_eq_true]
  intro h
  simp only [isBlank, isBlankCode, Bool.or_eq_true, Bool.and_eq_true, decide_eq_true_eq,
    beq_iff_eq] at h
  omega

theorem isDecimal_of_ascii (h : c.toNat < 128) : isDecimal c = isAsciiDigit c := by
  rw [isDecimal, decimalValue?, if_pos h]
  cases isAsciiDigit c <;> rfl

theorem isIdentifierPart_of_ascii (h : c.toNat < 128) :
    isIdentifierPart c = (isAsciiLetter c || isAsciiDigit c || c == '_') := by
  rw [isIdentifierPart, if_pos h]

/-! ## Blanks -/

/-- The codes of all blanks. -/
def blankCodes : List Nat :=
  [9, 10, 11, 12, 13, 28, 29, 30, 31, 32, 0x85, 0xa0, 0x1680, 0x2000, 0x2001, 0x2002, 0x2003, 0x2004,
    0x2005, 0x2006, 0x2007, 0x2008, 0x2009, 0x200a, 0x2028, 0x2029, 0x202f, 0x205f, 0x3000]

theorem mem_blankCodes {n : Nat} (h : isBlankCode n = true) : n ∈ blankCodes := by
  simp only [isBlankCode, Bool.or_eq_true, Bool.and_eq_true, decide_eq_true_eq, beq_iff_eq] at h
  simp only [blankCodes, List.mem_cons, List.not_mem_nil, or_false]
  omega

/-- A class with none of the blank codes has no blank. -/
theorem eq_false_of_isBlank {p : Char → Bool} (hall : ∀ n ∈ blankCodes, p (Char.ofNat n) = false)
    (h : isBlank c = true) : p c = false := by
  have hnone := hall c.toNat (mem_blankCodes h)
  rwa [Char.ofNat_toNat] at hnone

/-- No letter or numeral of any script is blank. -/
theorem isBlank_of_isAlnum (h : isAlnum c = true) : isBlank c = false := by
  have hall : ∀ n ∈ blankCodes, isAlnum (Char.ofNat n) = false := by decide +kernel
  rw [← Bool.not_eq_true]
  intro hblank
  rw [eq_false_of_isBlank hall hblank] at h
  cases h

/-! ## Trimming -/

theorem trim_ne_nil {c : Char} {s : List Char} (hc : c ∈ s) (hblank : isBlank c = false) :
    trim s ≠ [] := by
  have hdrop : ∀ t : List Char, c ∈ t → c ∈ t.dropWhile isBlank := by
    intro t ht
    rw [← @List.takeWhile_append_dropWhile _ isBlank t, List.mem_append] at ht
    refine ht.resolve_left fun hmem => ?_
    have htrue := List.all_eq_true.1 (@List.all_takeWhile _ isBlank t) c hmem
    rw [hblank] at htrue
    cases htrue
  have hmem : c ∈ trim s := by
    rw [trim, trimRight, List.mem_reverse]
    exact hdrop _ (List.mem_reverse.2 (hdrop s hc))
  exact List.ne_nil_of_mem hmem

theorem forall_takeWhile_isBlank (s : List Char) : ∀ c ∈ s.takeWhile isBlank, isBlank c = true :=
  List.all_eq_true.1 List.all_takeWhile

/-- A text that does not start with a blank is left as it is. -/
theorem trimLeft_eq_self {s : List Char} (hfirst : ∀ c ∈ s.head?, isBlank c = false) : trimLeft s = s := by
  cases s with
  | nil => rfl
  | cons c s => rw [trimLeft, List.dropWhile_cons, hfirst c rfl, if_neg Bool.false_ne_true]

theorem head?_trimLeft {c : Char} {s : List Char} (h : c ∈ (trimLeft s).head?) : isBlank c = false := by
  have hhead := List.head?_dropWhile_not isBlank s
  rw [show (s.dropWhile isBlank).head? = some c from h] at hhead
  exact hhead

theorem trimLeft_eq_append (s : List Char) :
    ∃ w, (∀ c ∈ w, isBlank c = true) ∧ trimLeft s = trim s ++ w := by
  refine ⟨((trimLeft s).reverse.takeWhile isBlank).reverse, ?_, ?_⟩
  · intro c hc
    exact forall_takeWhile_isBlank _ c (List.mem_reverse.1 hc)
  · rw [trim, trimRight, ← List.reverse_append, List.takeWhile_append_dropWhile, List.reverse_reverse]

/-- What is trimmed off a text are the blanks around it. -/
theorem exists_trim (s : List Char) :
    ∃ w w', (∀ c ∈ w, isBlank c = true) ∧ (∀ c ∈ w', isBlank c = true) ∧ s = w ++ trim s ++ w' := by
  obtain ⟨w', hw', heq⟩ := trimLeft_eq_append s
  refine ⟨s.takeWhile isBlank, w', forall_takeWhile_isBlank s, hw', ?_⟩
  rw [List.append_assoc, ← heq]
  exact List.takeWhile_append_dropWhile.symm

theorem trim_eq_nil_iff {s : List Char} : trim s = [] ↔ ∀ c ∈ s, isBlank c = true := by
  constructor
  · intro h c hc
    by_contra hblank
    exact trim_ne_nil hc (by simpa using hblank) h
  · intro hall
    rw [← List.append_nil s, trim, trimLeft, List.dropWhile_append_of_pos hall]
    rfl

/-- A trimmed text does not start with a blank. -/
theorem head?_trim {c : Char} {s : List Char} (h : c ∈ (trim s).head?) : isBlank c = false := by
  obtain ⟨w, -, heq⟩ := trimLeft_eq_append s
  apply head?_trimLeft (s := s)
  rw [heq, List.head?_append, h, Option.some_or]
  exact rfl

/-- A trimmed text does not end with a blank. -/
theorem getLast?_trim {c : Char} {s : List Char} (h : c ∈ (trim s).getLast?) : isBlank c = false := by
  rw [trim, trimRight, List.getLast?_reverse] at h
  exact head?_trimLeft h

/-- Of a text with blanks around it, the text is left. -/
theorem trim_append {w s w' : List Char} (hw : ∀ c ∈ w, isBlank c = true)
    (hw' : ∀ c ∈ w', isBlank c = true) (hfirst : ∀ c ∈ (s ++ w').head?, isBlank c = false)
    (hlast : ∀ c ∈ s.getLast?, isBlank c = false) : trim (w ++ s ++ w') = s := by
  have hleft : trimLeft (w ++ s ++ w') = s ++ w' := by
    rw [trimLeft, List.append_assoc, List.dropWhile_append_of_pos hw]
    exact trimLeft_eq_self hfirst
  have hright : (s.reverse).dropWhile isBlank = s.reverse := by
    apply trimLeft_eq_self
    rw [List.head?_reverse]
    exact hlast
  rw [trim, hleft, trimRight, List.reverse_append,
    List.dropWhile_append_of_pos (fun c hc => hw' c (List.mem_reverse.1 hc)), hright, List.reverse_reverse]

/-- A text without blanks around it is not trimmed. -/
theorem trim_eq_self {s : List Char} (hfirst : ∀ c ∈ s.head?, isBlank c = false)
    (hlast : ∀ c ∈ s.getLast?, isBlank c = false) : trim s = s := by
  have h := @trim_append [] s [] (fun _ h => nomatch h) (fun _ h => nomatch h)
    (by rwa [List.append_nil]) hlast
  rwa [List.append_nil, List.nil_append] at h

theorem trim_of_forall {s : List Char} (hs : ∀ c ∈ s, isBlank c = false) : trim s = s :=
  trim_eq_self (fun c hc => hs c (List.mem_of_mem_head? hc)) (fun c hc => hs c (List.mem_of_getLast? hc))

theorem trim_trim (s : List Char) : trim (trim s) = trim s :=
  trim_eq_self (fun _ => head?_trim) fun _ => getLast?_trim

end FieldRules.Text
