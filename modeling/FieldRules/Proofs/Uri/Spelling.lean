import FieldRules.Proofs.Text.Case
import FieldRules.Proofs.Text.Classes
import FieldRules.Uri.Split
import Mathlib.Data.List.TakeWhile

/-!
# URIs that are spelled out

A URI that is written as a protocol, a host, a port and a path is split into these again (`split_spell`). The scheme and
the host come back in small letters (`host?_spell`), the port as its number (`port?_spell`).
-/

namespace FieldRules

/-! ## Texts -/

namespace Text

variable {c : Char} {s x y : List Char}

theorem cutAt?_eq_none (h : c ∉ s) : cutAt? [c] s = none := by
  induction s with
  | nil => rfl
  | cons d s ih =>
    obtain ⟨hd, hs⟩ := not_or.1 (mt List.mem_cons.2 h)
    rw [cutAt?, if_neg (by simpa [List.isPrefixOf] using hd), ih hs]
    rfl

/-- A text is cut at the first place of a character. -/
theorem cutAt?_append_cons (h : c ∉ x) : cutAt? [c] (x ++ c :: y) = some (x, y) := by
  induction x with
  | nil => rw [List.nil_append, cutAt?, if_pos (by simp [List.isPrefixOf])]; rfl
  | cons d x ih =>
    obtain ⟨hd, hx⟩ := not_or.1 (mt List.mem_cons.2 h)
    rw [List.cons_append, cutAt?, if_neg (by simpa [List.isPrefixOf] using hd), ih hx]
    rfl

end Text

namespace Uri

theorem splitOffAt_eq_self {c : Char} {s : List Char} (h : c ∉ s) : splitOffAt c s = (s, []) := by
  rw [splitOffAt, Text.cutAt?_eq_none h]
  rfl

theorem splitOffAt_append_cons {c : Char} {x y : List Char} (h : c ∉ x) : splitOffAt c (x ++ c :: y) = (x, y) := by
  rw [splitOffAt, Text.cutAt?_append_cons h]
  rfl

/-! ## Parts -/

/-- A letter, a digit, a point or a dash. -/
def isNameChar (c : Char) : Bool :=
  isPlainLetter c || isPlainDigit c || c == '.' || c == '-'

/-- A protocol of letters, a host of such characters that starts with a letter, and a path that is empty or a slash
with letters and digits behind it. -/
structure Spells (protocol host path : List Char) : Prop where
  protocol_ne_nil : protocol ≠ []
  protocol : ∀ c ∈ protocol, isPlainLetter c = true
  host_head : ∃ c rest, host = c :: rest ∧ isPlainLetter c = true
  host : ∀ c ∈ host, isNameChar c = true
  path : path = [] ∨ ∃ rest, path = '/' :: rest ∧ ∀ c ∈ rest, (isPlainLetter c || isPlainDigit c) = true

/-- The URI with these parts. -/
def spell (protocol host : List Char) (port : Nat) (path : List Char) : List Char :=
  protocol ++ ':' :: '/' :: '/' :: (host ++ ':' :: (Nat.toDigits 10 port ++ path))

/-- What it is split into. -/
def spelled (protocol host : List Char) (port : Nat) (path : List Char) : Uri where
  scheme := protocol.map Char.toLower
  authority := host ++ ':' :: Nat.toDigits 10 port
  path := path

theorem isNameChar_of_letter {c : Char} (h : isPlainLetter c = true) : isNameChar c = true := by
  rw [isNameChar, h]
  rfl

theorem isNameChar_of_digit {c : Char} (h : isPlainDigit c = true) : isNameChar c = true := by
  rw [isNameChar, h, Bool.or_true]
  rfl

theorem toNat_of_isNameChar {c : Char} (h : isNameChar c = true) : 32 < c.toNat ∧ c.toNat < 128 := by
  rw [isNameChar, Bool.or_eq_true, Bool.or_eq_true, Bool.or_eq_true, beq_iff_eq, beq_iff_eq] at h
  rcases h with ((h | h) | rfl) | rfl
  · have hletter := Text.isAsciiLetter_iff.1 h
    omega
  · have hdigit := Text.isAsciiDigit_iff.1 h
    omega
  · decide
  · decide

/-- Other characters do not stand in a name. -/
theorem not_mem_name {c : Char} {s : List Char} (hs : ∀ c ∈ s, isNameChar c = true) (hc : isNameChar c = false) :
    c ∉ s := by
  intro hmem
  rw [hs c hmem] at hc
  cases hc

section Spells
variable {protocol host path : List Char} {port : Nat}

namespace Spells

/-- The characters of the authority are those of names and the colon in front of the port. -/
theorem authority (h : Spells protocol host path) (port : Nat) :
    ∀ c ∈ host ++ ':' :: Nat.toDigits 10 port, isNameChar c = true ∨ c = ':' := by
  intro c hc
  rcases List.mem_append.1 hc with hc | hc
  · exact .inl (h.host c hc)
  · rcases List.mem_cons.1 hc with rfl | hc
    · exact .inr rfl
    · exact .inl (isNameChar_of_digit (Text.isAsciiDigit_of_mem hc))

theorem not_mem_authority {c : Char} (h : Spells protocol host path) (port : Nat) (hc : isNameChar c = false)
    (hcolon : c ≠ ':') : c ∉ host ++ ':' :: Nat.toDigits 10 port := by
  intro hmem
  rcases h.authority port c hmem with hname | rfl
  · rw [hname] at hc
    cases hc
  · exact hcolon rfl

theorem not_mem_path {c : Char} (h : Spells protocol host path) (hc : isNameChar c = false) (hslash : c ≠ '/') :
    c ∉ path := by
  rcases h.path with rfl | ⟨rest, rfl, hrest⟩
  · exact List.not_mem_nil
  · intro hmem
    rcases List.mem_cons.1 hmem with rfl | hmem
    · exact hslash rfl
    · have hname : isNameChar c = true :=
        (Bool.or_eq_true_iff.1 (hrest c hmem)).elim isNameChar_of_letter isNameChar_of_digit
      rw [hname] at hc
      cases hc

theorem chars (h : Spells protocol host path) (port : Nat) :
    ∀ c ∈ spell protocol host port path, isNameChar c = true ∨ c = ':' ∨ c = '/' := by
  intro c hc
  -- A character of another sort does not stand in any of the parts.
  by_contra hnot
  obtain ⟨hname, hcolon, hslash⟩ : isNameChar c ≠ true ∧ c ≠ ':' ∧ c ≠ '/' := by simpa using hnot
  have hname : isNameChar c = false := Bool.eq_false_iff.2 hname
  have hauthority := h.not_mem_authority port hname hcolon
  have hpath := h.not_mem_path hname hslash
  have hprotocol := not_mem_name (fun c hc => isNameChar_of_letter (h.protocol c hc)) hname
  simp only [spell, List.mem_append, List.mem_cons] at hc hauthority
  tauto

theorem visible_spell (h : Spells protocol host path) (port : Nat) :
    visible (spell protocol host port path) = spell protocol host port path := by
  have hdrop : (spell protocol host port path).dropWhile (fun c => c.toNat ≤ 0x20) = spell protocol host port path := by
    obtain ⟨c, rest, rfl⟩ := List.exists_cons_of_ne_nil h.protocol_ne_nil
    have hcode := toNat_of_isNameChar (isNameChar_of_letter (h.protocol c (List.mem_cons_self ..)))
    rw [spell, List.cons_append, List.dropWhile_cons_of_neg (by simp only [decide_eq_true_eq]; omega)]
  rw [visible, hdrop, List.filter_eq_self]
  intro c hc
  rcases h.chars port c hc with hname | rfl | rfl
  · have hne : ∀ d : Char, d.toNat ≤ 32 → c ≠ d := by
      rintro d hd rfl
      exact absurd (toNat_of_isNameChar hname).1 (by omega)
    rw [bne_iff_ne.2 (hne '\t' (by decide)), bne_iff_ne.2 (hne '\r' (by decide)), bne_iff_ne.2 (hne '\n' (by decide))]
    rfl
  · rfl
  · rfl

theorem splitScheme_spell (h : Spells protocol host path) (port : Nat) :
    splitScheme (spell protocol host port path)
      = (protocol.map Char.toLower, '/' :: '/' :: (host ++ ':' :: (Nat.toDigits 10 port ++ path))) := by
  have hcolon : ':' ∉ protocol := not_mem_name (fun c hc => isNameChar_of_letter (h.protocol c hc)) (by decide)
  have hhead : (protocol.head?.map isPlainLetter).getD false = true := by
    obtain ⟨c, rest, rfl⟩ := List.exists_cons_of_ne_nil h.protocol_ne_nil
    exact h.protocol c (List.mem_cons_self ..)
  have hall : protocol.all isSchemeChar = true := by
    refine List.all_eq_true.2 fun c hc => ?_
    rw [isSchemeChar, h.protocol c hc]
    rfl
  rw [splitScheme, spell, Text.cutAt?_append_cons hcolon]
  dsimp only
  rw [hhead, hall]
  rfl

theorem takeWhile_authority (h : Spells protocol host path) (port : Nat) :
    (host ++ ':' :: (Nat.toDigits 10 port ++ path)).takeWhile (fun c => !endsAuthority c)
      = host ++ ':' :: Nat.toDigits 10 port := by
  have hends : ∀ c ∈ host ++ ':' :: Nat.toDigits 10 port, (!endsAuthority c) = true := by
    intro c hc
    rw [Bool.not_eq_true', ← Bool.not_eq_true, endsAuthority, Bool.or_eq_true, Bool.or_eq_true, beq_iff_eq, beq_iff_eq,
      beq_iff_eq]
    rintro ((rfl | rfl) | rfl) <;> exact h.not_mem_authority port (by decide) (by decide) hc
  have hassoc : host ++ ':' :: (Nat.toDigits 10 port ++ path) = (host ++ ':' :: Nat.toDigits 10 port) ++ path := by
    simp
  rw [hassoc, List.takeWhile_append_of_pos hends]
  rcases h.path with rfl | ⟨rest, rfl, -⟩ <;> exact List.append_nil _

theorem checkBrackets_authority (h : Spells protocol host path) (port : Nat) :
    checkBrackets (host ++ ':' :: Nat.toDigits 10 port) = .ok () := by
  have hnone : ∀ c, isNameChar c = false → c ≠ ':' → (host ++ ':' :: Nat.toDigits 10 port).contains c = false :=
    fun c hname hcolon => Bool.eq_false_iff.2 (mt List.contains_iff_mem.1 (h.not_mem_authority port hname hcolon))
  rw [checkBrackets, hnone '[' (by decide) (by decide), hnone ']' (by decide) (by decide)]
  rfl

theorem checkFolded_authority (h : Spells protocol host path) (port : Nat) :
    checkFolded (host ++ ':' :: Nat.toDigits 10 port) = .ok () := by
  have hnone : ¬((host ++ ':' :: Nat.toDigits 10 port).any fun c => foldedDelimiters.contains c.toNat) = true := by
    rw [List.any_eq_true]
    rintro ⟨c, hc, hfolded⟩
    have hcode : c.toNat < 128 := by
      rcases h.authority port c hc with hname | rfl
      · exact (toNat_of_isNameChar hname).2
      · decide
    -- The characters that are folded to delimiters are none of ASCII.
    have hbeyond : ∀ n ∈ foldedDelimiters, 128 ≤ n := by decide
    exact absurd (hbeyond _ (List.contains_iff_mem.1 hfolded)) (by omega)
  rw [checkFolded, if_neg hnone]
  rfl

/-- **A URI that is spelled out is split into its parts.** -/
theorem split_spell (h : Spells protocol host path) (port : Nat) :
    split (spell protocol host port path) = .ok (spelled protocol host port path) := by
  have hrest : host ++ ':' :: (Nat.toDigits 10 port ++ path) = (host ++ ':' :: Nat.toDigits 10 port) ++ path := by
    simp
  unfold split
  rw [h.visible_spell, h.splitScheme_spell]
  dsimp only
  split
  · next heq =>
    cases heq
    rw [h.takeWhile_authority, h.checkBrackets_authority, hrest, List.drop_left]
    dsimp only [bind, Except.bind, pure, Except.pure]
    rw [splitOffAt_eq_self (h.not_mem_path (c := '#') (by decide) (by decide)),
      splitOffAt_eq_self (h.not_mem_path (c := '?') (by decide) (by decide)), h.checkFolded_authority]
    rfl
  · next hslashes => exact absurd rfl (hslashes _)

theorem hostInfo_spell (h : Spells protocol host path) (port : Nat) :
    (spelled protocol host port path).hostInfo = (host, Nat.toDigits 10 port) := by
  have huser : (spelled protocol host port path).hostAndPort = host ++ ':' :: Nat.toDigits 10 port := by
    have hno : ∀ c ∈ (host ++ ':' :: Nat.toDigits 10 port).reverse, (c != '@') = true := by
      intro c hc
      rw [bne_iff_ne]
      rintro rfl
      exact h.not_mem_authority port (by decide) (by decide) (List.mem_reverse.1 hc)
    rw [hostAndPort, spelled, List.takeWhile_eq_self_iff.2 hno, List.reverse_reverse]
  rw [hostInfo, huser, Text.cutAt?_eq_none (h.not_mem_authority (c := '[') port (by decide) (by decide))]
  exact splitOffAt_append_cons (not_mem_name h.host (by decide))

theorem host?_spell (h : Spells protocol host path) (port : Nat) :
    (spelled protocol host port path).host? = some (host.map Char.toLower) := by
  have hzone : ∀ c ∈ host, (c != '%') = true := by
    intro c hc
    rw [bne_iff_ne]
    rintro rfl
    exact not_mem_name h.host (by decide) hc
  obtain ⟨c, rest, rfl, -⟩ := h.host_head
  rw [host?, h.hostInfo_spell]
  dsimp only
  rw [List.takeWhile_eq_self_iff.2 hzone, List.drop_length, List.append_nil,
    Text.lower_of_ascii fun c hc => (toNat_of_isNameChar (h.host c hc)).2]

theorem port?_spell (h : Spells protocol host path) (hport : port ≤ 65535) :
    (spelled protocol host port path).port? = .ok (some port) := by
  have hnumber : plainNumber (Nat.toDigits 10 port) = port := Nat.ofDigitChars_ten_toDigits
  have hdigits : (Nat.toDigits 10 port).all isPlainDigit = true :=
    List.all_eq_true.2 fun c hc => Text.isAsciiDigit_of_mem hc
  rw [port?, h.hostInfo_spell]
  cases hlist : Nat.toDigits 10 port with
  | nil => exact absurd hlist Nat.toDigits_ne_nil
  | cons c rest =>
    rw [hlist] at hnumber hdigits
    dsimp only
    rw [if_pos hdigits, hnumber, if_pos hport]
    rfl

end Spells

end Spells

end Uri

end FieldRules
