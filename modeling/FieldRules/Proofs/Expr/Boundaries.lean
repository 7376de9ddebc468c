import FieldRules.Proofs.Expr.Lexing

/-!
# Boundaries of tokens

Where two texts stand side by side, a token may reach from the first one into the second one: a name, a number, a
sign of two characters. If none does (`Parted`), a step of the cut takes from the first text what it takes from it
with the second one behind (`step?_append`). So it is for each kind of token, from runs of digits on (`Local`).
-/

namespace FieldRules.Expr

variable {q r v : List Char}

/-! ## Boundaries -/

/-- A character that goes on with a name or a number. -/
def joins (c : Char) : Bool :=
  isNameChar c || Text.isDecimal c || c == '.'

/-- A letter that may start an exponent. -/
def isExponentLetter (c : Char) : Bool :=
  c == 'e' || c == 'E'

/-- Two texts side by side in which no token reaches from the first one into the second one: there is no name and no
number, no sign of two characters, no exponent and no end of the expression at the boundary. -/
structure Parted (q v : List Char) : Prop where
  word : ∀ a b, [a] <:+ q → b ∈ v.head? → joins a = true → joins b = false
  sign : ∀ a b, [a] <:+ q → b ∈ v.head? → longSigns.contains (String.ofList [a, b]) = false
  letter : ∀ a b, [a] <:+ q → b ∈ v.head? → isExponentLetter a = true → b ≠ '+' ∧ b ≠ '-'
  exponent : ∀ e a b, [e, a] <:+ q → b ∈ v.head? → isExponentLetter e = true → a = '+' ∨ a = '-' →
    Text.isDecimal b = false
  close : ∀ a b, [a] <:+ q → b ∈ v.head? → a = '-' ∨ a = '\x7d' → b ≠ '\x7d'

theorem Parted.suffix (h : Parted q v) (hr : r <:+ q) : Parted r v :=
  ⟨fun a b ha => h.word a b (ha.trans hr), fun a b ha => h.sign a b (ha.trans hr),
    fun a b ha => h.letter a b (ha.trans hr), fun e a b ha => h.exponent e a b (ha.trans hr),
    fun a b ha => h.close a b (ha.trans hr)⟩

/-- A name or a number in the first text ends there. -/
def Bounded (q v : List Char) : Prop :=
  ∀ b ∈ v.head?, joins b = true → ∃ a, [a] <:+ q ∧ joins a = false

theorem Parted.bounded (h : Parted q v) (hq : q ≠ []) : Bounded q v := by
  intro b hb hjoins
  obtain ⟨before, a, rfl⟩ : ∃ before a, q = before ++ [a] :=
    ⟨_, _, (List.dropLast_append_getLast hq).symm⟩
  refine ⟨a, List.suffix_append before [a], ?_⟩
  by_contra ha
  rw [h.word a b (List.suffix_append before [a]) hb (by simpa using ha)] at hjoins
  cases hjoins

theorem bounded_nil : Bounded [] v ↔ ∀ b ∈ v.head?, joins b = false := by
  constructor
  · intro h b hb
    by_contra hjoins
    obtain ⟨a, ha, -⟩ := h b hb (by simpa using hjoins)
    exact absurd (List.suffix_nil.1 ha) (List.cons_ne_nil a [])
  · intro h b hb hjoins
    rw [h b hb] at hjoins
    cases hjoins

theorem Bounded.tail {c : Char} (h : Bounded (c :: q) v) (hc : joins c = true ∨ q ≠ []) : Bounded q v := by
  intro b hb hjoins
  obtain ⟨a, ha, hnot⟩ := h b hb hjoins
  rcases List.suffix_cons_iff.1 ha with heq | ha
  · obtain ⟨rfl, hnil⟩ := List.cons.inj heq
    rcases hc with hc | hq
    · rw [hc] at hnot
      cases hnot
    · exact absurd hnil.symm hq
  · exact ⟨a, ha, hnot⟩

theorem joins_of_isNameChar {c : Char} (h : isNameChar c = true) : joins c = true := by
  rw [joins, h, Bool.true_or, Bool.true_or]

theorem joins_of_isDecimal {c : Char} (h : Text.isDecimal c = true) : joins c = true := by
  rw [joins, h, Bool.or_true, Bool.true_or]

theorem joins_of_either {c d e : Char} (hd : joins d = true) (he : joins e = true)
    (h : (c == d || c == e) = true) : joins c = true := by
  rw [Bool.or_eq_true, beq_iff_eq, beq_iff_eq] at h
  rcases h with rfl | rfl
  · exact hd
  · exact he

theorem joins_of_isExponentLetter {c : Char} (h : isExponentLetter c = true) : joins c = true :=
  joins_of_either rfl rfl h

theorem joins_of_isHexDigit {c : Char} (h : isHexDigit c = true) : joins c = true := by
  rw [isHexDigit, Bool.or_eq_true] at h
  rcases h with h | h
  · refine joins_of_isNameChar (isNameChar_of_ascii ?_).1
    unfold Text.hexDigit? at h
    split at h
    · next hdigit => exact .inr (.inl hdigit)
    · split at h
      · next hlower =>
        rw [Bool.and_eq_true, decide_eq_true_eq, decide_eq_true_eq, Char.le_def, Char.le_def,
          UInt32.le_iff_toNat_le, UInt32.le_iff_toNat_le] at hlower
        refine .inl (Text.isAsciiLetter_iff.2 ?_)
        have hcode : 97 ≤ c.toNat ∧ c.toNat ≤ 102 := hlower
        omega
      · split at h
        · next hupper =>
          rw [Bool.and_eq_true, decide_eq_true_eq, decide_eq_true_eq, Char.le_def, Char.le_def,
            UInt32.le_iff_toNat_le, UInt32.le_iff_toNat_le] at hupper
          refine .inl (Text.isAsciiLetter_iff.2 ?_)
          have hcode : 65 ≤ c.toNat ∧ c.toNat ≤ 70 := hupper
          omega
        · cases h
  · exact joins_of_isDecimal h

/-- A character that opens and closes a quoted string. -/
def isQuote (c : Char) : Bool :=
  c == '\'' || c == '"'

/-- What is left of a text when a part without quotes has been taken. -/
def Rests (q r : List Char) : Prop :=
  ∃ p, q = p ++ r ∧ ∀ c ∈ p, isQuote c = false

theorem Rests.refl (q : List Char) : Rests q q :=
  ⟨[], rfl, fun _ h => nomatch h⟩

theorem Rests.cons {c : Char} (h : Rests q r) (hc : isQuote c = false) : Rests (c :: q) r := by
  obtain ⟨p, rfl, hp⟩ := h
  exact ⟨c :: p, rfl, List.forall_mem_cons.2 ⟨hc, hp⟩⟩

theorem Rests.trans {s : List Char} (h : Rests q r) (h' : Rests r s) : Rests q s := by
  obtain ⟨p, rfl, hp⟩ := h
  obtain ⟨p', rfl, hp'⟩ := h'
  refine ⟨p ++ p', (List.append_assoc _ _ _).symm, ?_⟩
  intro c hc
  exact (List.mem_append.1 hc).elim (hp c) (hp' c)

theorem Rests.suffix (h : Rests q r) : r <:+ q := by
  obtain ⟨p, rfl, -⟩ := h
  exact List.suffix_append p r

theorem isQuote_of_joins {c : Char} (h : joins c = true) : isQuote c = false := by
  rw [← Bool.not_eq_true, isQuote, Bool.or_eq_true, beq_iff_eq, beq_iff_eq]
  rintro (rfl | rfl) <;> cases h

/-! ## Numbers -/

/-- Something has been taken from the start of the first text, and what is left of it ends a name or a number. -/
structure Taken (q v r : List Char) : Prop where
  rests : Rests q r
  shorter : r.length < q.length
  bounded : Bounded r v

theorem Taken.cons {c : Char} (h : Taken q v r) (hc : isQuote c = false) : Taken (c :: q) v r :=
  ⟨h.rests.cons hc, Nat.lt_succ_of_lt h.shorter, h.bounded⟩

theorem Taken.trans {s : List Char} (h : Taken q v r) (h' : Taken r v s) : Taken q v s :=
  ⟨h.rests.trans h'.rests, Nat.lt_trans h'.shorter h.shorter, h'.bounded⟩

/-- What is taken from the start of the first text stays the same with the second text behind. -/
structure Local {α : Type} (f : List Char → Option (α × List Char)) (q v : List Char) : Prop where
  append : f (q ++ v) = (f q).map fun t => (t.1, t.2 ++ v)
  taken : ∀ t, f q = some t → Taken q v t.2

/-- A run that is taken from the start of the first text stays the same with the second text behind. -/
structure LocalRun (f : List Char → List Char × List Char) (q v ds r : List Char) : Prop where
  append : f (q ++ v) = (ds, r ++ v)
  rests : Rests q r
  shorter : ds ≠ [] → r.length < q.length
  bounded : Bounded r v

theorem LocalRun.taken {f : List Char → List Char × List Char} {d : Char} {ds : List Char}
    (h : LocalRun f q v (d :: ds) r) : Taken q v r :=
  ⟨h.rests, h.shorter (List.cons_ne_nil d ds), h.bounded⟩

/-- A reader that takes a character and goes on. -/
theorem Local.cons {α : Type} {f g : List Char → Option (α × List Char)} {c : Char} (hg : Local g q v)
    (hf : ∀ s, f (c :: s) = g s) (hc : isQuote c = false) : Local f (c :: q) v := by
  constructor
  · rw [List.cons_append, hf, hf, hg.append]
  · intro t ht
    rw [hf] at ht
    exact (hg.taken t ht).cons hc

/-- A reader that takes nothing here. -/
theorem Local.none {α : Type} {f : List Char → Option (α × List Char)} (hq : f q = .none)
    (hqv : f (q ++ v) = .none) : Local f q v := by
  refine ⟨?_, fun t ht => ?_⟩
  · rw [hq, hqv]
    rfl
  · rw [hq] at ht
    cases ht

/-- A reader that takes a run, if that is not empty. -/
theorem Local.run {α : Type} {f : List Char → Option (α × List Char)} {run : List Char → List Char × List Char}
    {ds r : List Char} (hrun : LocalRun run q v ds r) (hq : run q = (ds, r)) {g : List Char → α}
    (hf : ∀ s, f s = match run s with | ([], _) => .none | (ds, r) => some (g ds, r)) : Local f q v := by
  cases ds with
  | nil =>
    refine .none ?_ ?_
    · rw [hf, hq]
    · rw [hf, hrun.append]
  | cons d ds =>
    refine ⟨?_, fun t ht => ?_⟩
    · rw [hf, hf, hrun.append, hq]
      rfl
    · rw [hf, hq] at ht
      cases ht
      exact hrun.taken

/-- A run that takes nothing here. -/
theorem LocalRun.nil {f : List Char → List Char × List Char} (h : Bounded q v) (hqv : f (q ++ v) = ([], q ++ v)) :
    LocalRun f q v [] q :=
  ⟨hqv, .refl _, fun hne => absurd rfl hne, h⟩

section DigitRuns
variable {digit : Char → Bool}

theorem takeDigitRun_nil_bounded (hdigit : ∀ c, digit c = true → joins c = true) (h : Bounded [] v) (after : Bool) :
    takeDigitRun digit after v = ([], v) := by
  cases v with
  | nil => rfl
  | cons b v =>
    have hb := bounded_nil.1 h b rfl
    have hne : b ≠ '_' := by
      rintro rfl
      cases hb
    have hnot : ¬digit b = true := by
      intro hdb
      rw [hdigit b hdb] at hb
      cases hb
    rw [takeDigitRun, if_neg (by simpa using hne), if_neg hnot]

/-- Whether a digit stands behind an underscore is known from the first text. -/
theorem head?_any_bounded (hdigit : ∀ c, digit c = true → joins c = true) (h : Bounded ('_' :: q) v) :
    (q ++ v).head?.any digit = q.head?.any digit := by
  cases q with
  | cons d q => rfl
  | nil =>
    have hv := bounded_nil.1 (h.tail (.inl rfl))
    cases v with
    | nil => rfl
    | cons b v =>
      have hb := hv b rfl
      by_contra hne
      have hdb : digit b = true := by simpa using hne
      rw [hdigit b hdb] at hb
      cases hb

theorem takeDigitRun_bounded (hdigit : ∀ c, digit c = true → joins c = true)
    (h : Bounded q v) (after : Bool) {ds r : List Char} (hrun : takeDigitRun digit after q = (ds, r)) :
    LocalRun (takeDigitRun digit after) q v ds r := by
  induction q generalizing after ds with
  | nil =>
    cases hrun
    exact .nil h (takeDigitRun_nil_bounded hdigit h after)
  | cons c q ih =>
    rw [takeDigitRun] at hrun
    split at hrun
    · next hunderscore =>
      obtain rfl : c = '_' := by simpa using hunderscore
      -- The reader looks one character further, which is in the first text or no digit.
      split at hrun
      · next hdigits =>
        have hrun := ih (h.tail (.inl rfl)) false hrun
        refine ⟨?_, hrun.rests.cons rfl, fun hne => Nat.lt_succ_of_lt (hrun.shorter hne), hrun.bounded⟩
        rw [List.cons_append, takeDigitRun, if_pos hunderscore, head?_any_bounded hdigit h, if_pos hdigits,
          hrun.append]
      · next hdigits =>
        cases hrun
        refine .nil h ?_
        rw [List.cons_append, takeDigitRun, if_pos hunderscore, head?_any_bounded hdigit h, if_neg hdigits]
    · next hunderscore =>
      split at hrun
      · next hc =>
        rcases hmore : takeDigitRun digit true q with ⟨ds', r'⟩
        rw [hmore] at hrun
        cases hrun
        have hrun := ih (h.tail (.inl (hdigit c hc))) true hmore
        refine ⟨?_, hrun.rests.cons (isQuote_of_joins (hdigit c hc)), ?_, hrun.bounded⟩
        · rw [List.cons_append, takeDigitRun, if_neg hunderscore, if_pos hc, hrun.append]
        · exact fun _ => Nat.lt_succ_of_le hrun.rests.suffix.length_le
      · next hc =>
        cases hrun
        refine .nil h ?_
        rw [List.cons_append, takeDigitRun, if_neg hunderscore, if_neg hc]

end DigitRuns

theorem takeRun_bounded (h : Bounded q v) {ds r : List Char} (hrun : takeRun Text.isDecimal q = (ds, r)) :
    LocalRun (takeRun Text.isDecimal) q v ds r :=
  takeDigitRun_bounded (fun _ => joins_of_isDecimal) h false hrun

theorem local_takeFraction? (h : Bounded q v) : Local takeFraction? q v := by
  have hother : ∀ c s, c ≠ '.' → takeFraction? (c :: s) = none := by
    intro c s hpoint
    rw [takeFraction?]
    rintro r ⟨⟩
    exact hpoint rfl
  cases q with
  | nil =>
    refine .none rfl ?_
    cases v with
    | nil => rfl
    | cons b v =>
      refine hother b v ?_
      rintro rfl
      cases bounded_nil.1 h '.' rfl
  | cons c q =>
    by_cases hpoint : c = '.'
    · subst hpoint
      rcases hrun : takeRun Text.isDecimal q with ⟨ds, r⟩
      have hlocal : Local (fun s => takeFraction? ('.' :: s)) q v :=
        .run (takeRun_bounded (h.tail (.inl rfl)) hrun) hrun fun _ => rfl
      exact hlocal.cons (fun _ => rfl) rfl
    · exact .none (hother c q hpoint) (hother c (q ++ v) hpoint)

/-- The sign of an exponent, and what follows it. -/
def takeExponentSign : List Char → List Char × List Char
  | '+' :: r => ([], r)
  | '-' :: r => (['-'], r)
  | r => ([], r)

theorem takeExponent?_letter {c : Char} (hc : isExponentLetter c = true) (s : List Char) :
    takeExponent? (c :: s) = match takeRun Text.isDecimal (takeExponentSign s).2 with
      | ([], _) => none
      | (digits, r) => some ('e' :: (takeExponentSign s).1 ++ digits, r) := by
  unfold takeExponent?
  dsimp only
  rw [if_pos (show (c == 'e' || c == 'E') = true from hc)]
  rfl

theorem takeExponentSign_plain {c : Char} (hplus : c ≠ '+') (hminus : c ≠ '-') (s : List Char) :
    takeExponentSign (c :: s) = ([], c :: s) := by
  rw [takeExponentSign]
  · rintro r ⟨⟩
    exact hplus rfl
  · rintro r ⟨⟩
    exact hminus rfl

/-- Behind the sign of an exponent, its digits end in the first text. -/
theorem takeRun_exponent {c d : Char} (hc : isExponentLetter c = true) (hd : d = '+' ∨ d = '-')
    (h : Parted (c :: d :: q) v) (hbounded : Bounded (d :: q) v) {ds : List Char}
    (hrun : takeRun Text.isDecimal q = (ds, r)) :
    takeRun Text.isDecimal (q ++ v) = (ds, r ++ v) ∧ (ds ≠ [] → Taken (d :: q) v r) := by
  have hquote : isQuote d = false := by rcases hd with rfl | rfl <;> rfl
  obtain _ | ⟨d', q⟩ := q
  · -- the texts are parted in front of the digits, so that the second one starts with none
    cases hrun
    refine ⟨?_, fun hne => absurd rfl hne⟩
    cases v with
    | nil => rfl
    | cons b v =>
      have hb := h.exponent c d b (List.suffix_refl [c, d]) rfl hc hd
      rw [List.nil_append, takeRun, takeDigitRun, Bool.false_and, if_neg Bool.false_ne_true, hb,
        if_neg Bool.false_ne_true, ite_self]
  · have hrun := takeRun_bounded (hbounded.tail (.inr (List.cons_ne_nil d' q))) hrun
    refine ⟨hrun.append, fun hne => ?_⟩
    exact ⟨hrun.rests.cons hquote, Nat.lt_succ_of_lt (hrun.shorter hne), hrun.bounded⟩

/-- Behind the letter of an exponent, its sign and its digits end in the first text. -/
theorem takeExponentSign_bounded {c : Char} (hc : isExponentLetter c = true) (h : Parted (c :: q) v)
    (hbounded : Bounded (c :: q) v) {sign body ds : List Char} (hsign : takeExponentSign q = (sign, body))
    (hrun : takeRun Text.isDecimal body = (ds, r)) :
    takeExponentSign (q ++ v) = (sign, body ++ v) ∧ takeRun Text.isDecimal (body ++ v) = (ds, r ++ v) ∧
      (ds ≠ [] → Taken q v r) := by
  have hbounded := hbounded.tail (.inl (joins_of_isExponentLetter hc))
  obtain _ | ⟨d, q⟩ := q
  · -- nothing is left of the first text, and the second one starts with neither a sign nor a digit
    cases hsign
    cases hrun
    have hv : takeExponentSign v = ([], v) := by
      cases v with
      | nil => rfl
      | cons b v =>
        obtain ⟨hplus, hminus⟩ := h.letter c b (List.suffix_refl [c]) rfl hc
        exact takeExponentSign_plain hplus hminus v
    exact ⟨hv, (takeRun_bounded hbounded rfl).append, fun hne => absurd rfl hne⟩
  · by_cases hd : d = '+' ∨ d = '-'
    · obtain ⟨hq, hbody⟩ : takeExponentSign (d :: (q ++ v)) = (sign, q ++ v) ∧ body = q := by
        rcases hd with rfl | rfl <;> cases hsign <;> exact ⟨rfl, rfl⟩
      subst hbody
      exact ⟨hq, takeRun_exponent hc hd h hbounded hrun⟩
    · rw [not_or] at hd
      rw [takeExponentSign_plain hd.1 hd.2] at hsign
      cases hsign
      have hrun := takeRun_bounded hbounded hrun
      refine ⟨takeExponentSign_plain hd.1 hd.2 (q ++ v), hrun.append, fun hne => ?_⟩
      exact ⟨hrun.rests, hrun.shorter hne, hrun.bounded⟩

theorem takeExponent?_plain {c : Char} (hc : ¬isExponentLetter c = true) (s : List Char) :
    takeExponent? (c :: s) = none := by
  unfold takeExponent?
  exact if_neg hc

theorem local_takeExponent? (h : Parted q v) (hbounded : Bounded q v) : Local takeExponent? q v := by
  cases q with
  | nil =>
    refine .none rfl ?_
    cases v with
    | nil => rfl
    | cons b v =>
      refine takeExponent?_plain (fun hb => ?_) v
      have hnone := bounded_nil.1 hbounded b rfl
      rw [joins_of_isExponentLetter hb] at hnone
      cases hnone
  | cons c q =>
    by_cases hc : isExponentLetter c = true
    · have hquote := isQuote_of_joins (joins_of_isExponentLetter hc)
      rcases hsign : takeExponentSign q with ⟨sign, body⟩
      rcases hrun : takeRun Text.isDecimal body with ⟨ds, r⟩
      obtain ⟨hsign', hrun', htaken⟩ := takeExponentSign_bounded hc h hbounded hsign hrun
      constructor
      · rw [List.cons_append, takeExponent?_letter hc, takeExponent?_letter hc, hsign', hsign, hrun', hrun]
        cases ds <;> rfl
      · intro t ht
        rw [takeExponent?_letter hc, hsign, hrun] at ht
        cases ds with
        | nil => cases ht
        | cons d ds =>
          cases ht
          exact (htaken (List.cons_ne_nil d ds)).cons hquote
    · exact .none (takeExponent?_plain hc q) (takeExponent?_plain hc (q ++ v))

/-- What is left of a floating-point number behind its whole digits. -/
def takeFloatRest? (whole rest : List Char) : Option (List Char × List Char) :=
  match takeFraction? rest, takeExponent? rest with
  | some (part, r), _ =>
    match takeExponent? r with
    | some (e, r) => some (whole ++ part ++ e, r)
    | none => some (whole ++ part, r)
  | none, some (e, r) => some (whole ++ e, r)
  | none, none => none

theorem takeFloat?_eq (s : List Char) : takeFloat? s = match takeRun Text.isDecimal s with
    | ([], _) => none
    | (whole, rest) => takeFloatRest? whole rest := rfl

theorem local_takeFloatRest? (h : Parted q v) (hbounded : Bounded q v) (whole : List Char) :
    Local (takeFloatRest? whole) q v := by
  have hfraction := local_takeFraction? hbounded
  have hexponent := local_takeExponent? h hbounded
  -- an exponent may stand behind a fraction as well
  have hbehind : ∀ t, takeFraction? q = some t → Local takeExponent? t.2 v := by
    intro t ht
    have htaken := hfraction.taken t ht
    exact local_takeExponent? (h.suffix htaken.rests.suffix) htaken.bounded
  constructor
  · rw [takeFloatRest?, hfraction.append, hexponent.append, takeFloatRest?]
    cases hpart : takeFraction? q with
    | none => cases takeExponent? q <;> rfl
    | some t =>
      dsimp only [Option.map_some]
      rw [(hbehind t hpart).append]
      cases takeExponent? t.2 <;> rfl
  · intro t ht
    rw [takeFloatRest?] at ht
    cases hpart : takeFraction? q with
    | none =>
      rw [hpart] at ht
      cases hexp : takeExponent? q with
      | none =>
        rw [hexp] at ht
        cases ht
      | some e =>
        rw [hexp] at ht
        cases ht
        exact hexponent.taken e hexp
    | some part =>
      rw [hpart] at ht
      dsimp only at ht
      have htaken := hfraction.taken part hpart
      cases hexp : takeExponent? part.2 with
      | none =>
        rw [hexp] at ht
        cases ht
        exact htaken
      | some e =>
        rw [hexp] at ht
        cases ht
        exact htaken.trans ((hbehind part hpart).taken e hexp)

theorem local_takeFloat? (h : Parted q v) (hbounded : Bounded q v) : Local takeFloat? q v := by
  rcases hrun : takeRun Text.isDecimal q with ⟨_ | ⟨d, ds⟩, rest⟩
  · refine .none ?_ ?_
    · rw [takeFloat?_eq, hrun]
    · rw [takeFloat?_eq, (takeRun_bounded hbounded hrun).append]
  · have hlocal := takeRun_bounded hbounded hrun
    have hrest := local_takeFloatRest? (h.suffix hlocal.rests.suffix) hlocal.bounded (d :: ds)
    constructor
    · rw [takeFloat?_eq, takeFloat?_eq, hlocal.append, hrun]
      exact hrest.append
    · intro t ht
      rw [takeFloat?_eq, hrun] at ht
      exact hlocal.taken.trans (hrest.taken t ht)

/-- An integer in a base, behind the letter of the base. -/
def takeIn (base : Nat) (digit : Char → Bool) (s : List Char) : Option (Nat × List Char) :=
  match takeBaseRun digit s with
  | ([], _) => none
  | (digits, r) => some (valueIn base digits, r)

theorem takeBased?_cons (letter : Char) (s : List Char) :
    takeBased? (letter :: s) =
      if letter == 'b' || letter == 'B' then takeIn 2 (fun c => c == '0' || c == '1') s
      else if letter == 'o' || letter == 'O' then takeIn 8 (fun c => '0' ≤ c && c ≤ '7') s
      else if letter == 'x' || letter == 'X' then takeIn 16 isHexDigit s
      else none := rfl

theorem local_takeIn (base : Nat) {digit : Char → Bool} (hdigit : ∀ c, digit c = true → joins c = true)
    (h : Bounded q v) : Local (takeIn base digit) q v := by
  rcases hrun : takeBaseRun digit q with ⟨ds, r⟩
  exact .run (takeDigitRun_bounded hdigit h true hrun) hrun fun _ => rfl

theorem joins_of_isAsciiDigit {c : Char} (h : Text.isAsciiDigit c = true) : joins c = true :=
  joins_of_isNameChar (isNameChar_of_ascii (.inr (.inl h))).1

theorem local_takeBased? (h : Bounded q v) : Local takeBased? q v := by
  have hbinary : ∀ c, (c == '0' || c == '1') = true → joins c = true := fun _ => joins_of_either rfl rfl
  have hoctal : ∀ c, ('0' ≤ c && c ≤ '7') = true → joins c = true := by
    intro c hc
    rw [Bool.and_eq_true, decide_eq_true_eq, decide_eq_true_eq] at hc
    refine joins_of_isAsciiDigit ?_
    rw [Text.isAsciiDigit, Bool.and_eq_true, decide_eq_true_eq, decide_eq_true_eq]
    exact ⟨hc.1, Char.le_trans hc.2 (by decide)⟩
  cases q with
  | nil =>
    refine .none rfl ?_
    cases v with
    | nil => rfl
    | cons b v =>
      have hb := bounded_nil.1 h b rfl
      -- the letter of a base would go on with the number
      have hnot : ∀ {d e : Char}, joins d = true → joins e = true → ¬(b == d || b == e) = true := by
        intro d e hd he hor
        rw [joins_of_either hd he hor] at hb
        cases hb
      rw [List.nil_append, takeBased?_cons, if_neg (hnot rfl rfl), if_neg (hnot rfl rfl),
        if_neg (hnot rfl rfl)]
  | cons letter q =>
    by_cases hb : (letter == 'b' || letter == 'B') = true
    · have hjoins := joins_of_either rfl rfl hb
      refine (local_takeIn 2 hbinary (h.tail (.inl hjoins))).cons (fun s => ?_) (isQuote_of_joins hjoins)
      rw [takeBased?_cons, if_pos hb]
    by_cases ho : (letter == 'o' || letter == 'O') = true
    · have hjoins := joins_of_either rfl rfl ho
      refine (local_takeIn 8 hoctal (h.tail (.inl hjoins))).cons (fun s => ?_) (isQuote_of_joins hjoins)
      rw [takeBased?_cons, if_neg hb, if_pos ho]
    by_cases hx : (letter == 'x' || letter == 'X') = true
    · have hjoins := joins_of_either rfl rfl hx
      refine (local_takeIn 16 (fun _ => joins_of_isHexDigit) (h.tail (.inl hjoins))).cons (fun s => ?_)
        (isQuote_of_joins hjoins)
      rw [takeBased?_cons, if_neg hb, if_neg ho, if_pos hx]
    have hnone : ∀ s, takeBased? (letter :: s) = none := by
      intro s
      rw [takeBased?_cons, if_neg hb, if_neg ho, if_neg hx]
    exact .none (hnone q) (hnone (q ++ v))

/-- An integer that starts with a zero. -/
theorem takeInteger?_zero (s : List Char) : takeInteger? ('0' :: s) = match takeBased? s with
    | some (n, r) => some (.ok n, r)
    | none => some (.ok 0, (takeBaseRun (· == '0') s).2) := rfl

/-- An integer that starts with another digit. -/
theorem takeInteger?_digit {c : Char} (hzero : ¬(c == '0') = true) (hdigit : ('1' ≤ c && c ≤ '9') = true)
    (s : List Char) : takeInteger? (c :: s) =
      (if Number.maxDigits < (takeRun Text.isDecimal (c :: s)).1.length then
        some (.error (.literal (.integerTooLongToRead (takeRun Text.isDecimal (c :: s)).1.length)),
          (takeRun Text.isDecimal (c :: s)).2)
      else some (.ok (valueIn 10 (takeRun Text.isDecimal (c :: s)).1), (takeRun Text.isDecimal (c :: s)).2)) := by
  rw [takeInteger?, if_neg hzero, if_pos hdigit]

theorem takeInteger?_other {c : Char} (hzero : ¬(c == '0') = true) (hdigit : ¬('1' ≤ c && c ≤ '9') = true)
    (s : List Char) : takeInteger? (c :: s) = none := by
  rw [takeInteger?, if_neg hzero, if_neg hdigit]

/-- Behind a zero there is the letter of a base with its digits, or there are zeros; both end in the first text. -/
theorem local_takeInteger?_zero (h : Bounded q v) : Local takeInteger? ('0' :: q) v := by
  have hbased := local_takeBased? h
  have hzeros : ∀ c, (c == '0') = true → joins c = true := by
    intro c hc
    rw [eq_of_beq hc]
    rfl
  rcases hrun : takeBaseRun (· == '0') q with ⟨ds, r⟩
  have hlocal := takeDigitRun_bounded hzeros h true hrun
  constructor
  · rw [List.cons_append, takeInteger?_zero, takeInteger?_zero, hbased.append]
    cases takeBased? q with
    | none =>
      dsimp only [Option.map_none]
      rw [takeBaseRun, hlocal.append, hrun]
      rfl
    | some t => rfl
  · intro t ht
    rw [takeInteger?_zero] at ht
    cases hb : takeBased? q with
    | none =>
      rw [hb, hrun] at ht
      cases ht
      -- the zero itself is taken, even if no other zero follows it
      exact ⟨hlocal.rests.cons rfl, Nat.lt_succ_of_le hlocal.rests.suffix.length_le, hlocal.bounded⟩
    | some n =>
      rw [hb] at ht
      cases ht
      exact (hbased.taken n hb).cons rfl

/-- A run that starts with a digit is not empty. -/
theorem takeRun_ne_nil {c : Char} (hdigit : ('1' ≤ c && c ≤ '9') = true) (s : List Char) :
    (takeRun Text.isDecimal (c :: s)).1 ≠ [] := by
  have hcode := startsInteger_iff.1 hdigit
  have hfirst : Text.isDecimal c = true := by
    rw [Text.isDecimal_of_ascii (by omega), Text.isAsciiDigit_iff]
    omega
  have hscore : ¬(c == '_') = true := by
    rw [beq_iff_eq]
    rintro rfl
    cases hfirst
  rw [takeRun, takeDigitRun, if_neg hscore, if_pos hfirst]
  exact List.cons_ne_nil _ _

theorem local_takeInteger?_digit {c : Char} (hzero : ¬(c == '0') = true) (hdigit : ('1' ≤ c && c ≤ '9') = true)
    (h : Bounded (c :: q) v) : Local takeInteger? (c :: q) v := by
  rcases hrun : takeRun Text.isDecimal (c :: q) with ⟨ds, r⟩
  have hlocal := takeRun_bounded h hrun
  have hne : ds ≠ [] := by
    have hne := takeRun_ne_nil hdigit q
    rwa [hrun] at hne
  constructor
  · rw [List.cons_append, takeInteger?_digit hzero hdigit, takeInteger?_digit hzero hdigit,
      ← List.cons_append, hlocal.append, hrun]
    split <;> rfl
  · intro t ht
    have htaken : Taken (c :: q) v r := ⟨hlocal.rests, hlocal.shorter hne, hlocal.bounded⟩
    rw [takeInteger?_digit hzero hdigit, hrun] at ht
    -- the digits are taken whether or not they are too many for a number
    split at ht
    · cases ht
      exact htaken
    · cases ht
      exact htaken

theorem local_takeInteger? (h : Bounded q v) (hq : q ≠ []) : Local takeInteger? q v := by
  obtain ⟨c, q, rfl⟩ := List.exists_cons_of_ne_nil hq
  by_cases hzero : (c == '0') = true
  · obtain rfl : c = '0' := by simpa using hzero
    exact local_takeInteger?_zero (h.tail (.inl rfl))
  by_cases hdigit : ('1' ≤ c && c ≤ '9') = true
  · exact local_takeInteger?_digit hzero hdigit h
  · exact .none (takeInteger?_other hzero hdigit q) (takeInteger?_other hzero hdigit (q ++ v))

/-! ## Names, quoted strings and signs -/

theorem takeWhile_isNameChar_append (h : Bounded q v) :
    (q ++ v).takeWhile isNameChar = q.takeWhile isNameChar ∧
      (q ++ v).dropWhile isNameChar = q.dropWhile isNameChar ++ v := by
  induction q with
  | nil =>
    cases v with
    | nil => exact ⟨rfl, rfl⟩
    | cons b v =>
      have hb : isNameChar b = false := by
        rw [← Bool.not_eq_true]
        intro hname
        have hnot := bounded_nil.1 h b rfl
        rw [joins_of_isNameChar hname] at hnot
        cases hnot
      rw [List.nil_append, List.takeWhile_cons, List.dropWhile_cons, hb]
      exact ⟨rfl, rfl⟩
  | cons c q ih =>
    rw [List.cons_append, List.takeWhile_cons, List.dropWhile_cons, List.takeWhile_cons, List.dropWhile_cons]
    cases hc : isNameChar c with
    | false => exact ⟨rfl, rfl⟩
    | true =>
      obtain ⟨htake, hdrop⟩ := ih (h.tail (.inl (joins_of_isNameChar hc)))
      rw [if_pos rfl, if_pos rfl, if_pos rfl, if_pos rfl, htake, hdrop]
      exact ⟨rfl, rfl⟩

theorem rests_dropWhile (q : List Char) : Rests q (q.dropWhile isNameChar) := by
  induction q with
  | nil => exact .refl _
  | cons c q ih =>
    rw [List.dropWhile_cons]
    split
    · next hc => exact ih.cons (isQuote_of_joins (joins_of_isNameChar hc))
    · exact .refl _

/-- A quoted string ends at its closing quote, whatever stands behind that. -/
theorem takeQuoted_append {quote : Char} (hquote : quote ≠ '\\') {s body r : List Char}
    (h : takeQuoted quote s = some (body, r)) (v : List Char) :
    takeQuoted quote (s ++ v) = some (body, r ++ v) := by
  fun_induction takeQuoted quote s generalizing body with
  | case1 => cases h
  | case2 c s ih =>
    obtain ⟨⟨body', r'⟩, hs, heq⟩ := Option.map_eq_some_iff.1 h
    cases heq
    rw [List.cons_append, List.cons_append, takeQuoted_escape, ih hs]
    rfl
  | case3 c s _ hc =>
    cases h
    rw [List.cons_append, takeQuoted]
    · exact if_pos hc
    · rintro d rest rfl -
      exact hquote (eq_of_beq hc).symm
  | case4 => cases h
  | case5 c s _ hc hslash ih =>
    obtain ⟨⟨body', r'⟩, hs, heq⟩ := Option.map_eq_some_iff.1 h
    cases heq
    rw [List.cons_append, takeQuoted_plain (by simpa using hc) (by simpa using hslash), ih hs]
    rfl

theorem takeSign?_append (h : Parted q v) (hq : q ≠ []) :
    takeSign? (q ++ v) = (takeSign? q).map fun t => (t.1, t.2 ++ v) := by
  obtain ⟨c, _ | ⟨d, q⟩, rfl⟩ := List.exists_cons_of_ne_nil hq
  · cases v with
    | nil =>
      rw [List.append_nil]
      cases takeSign? [c] with
      | none => rfl
      | some t => rw [Option.map_some, List.append_nil]
    | cons b v =>
      have hlong := h.sign c b (List.suffix_refl [c]) rfl
      rw [List.cons_append, List.nil_append, takeSign?, hlong, if_neg Bool.false_ne_true, takeSign?]
      split <;> rfl
  · rw [List.cons_append, List.cons_append, takeSign?, takeSign?]
    split
    · rfl
    · split <;> rfl

theorem isQuote_of_shortSign {c : Char} (h : shortSigns.contains c = true) : isQuote c = false := by
  rw [← Bool.not_eq_true, isQuote, Bool.or_eq_true, beq_iff_eq, beq_iff_eq]
  rintro (rfl | rfl) <;> exact absurd h (by decide)

/-- The signs of two characters as these characters. -/
theorem mem_longSigns {a b : Char} (h : longSigns.contains (String.ofList [a, b]) = true) :
    [a, b] ∈ [['/', '/'], ['*', '*'], ['=', '='], ['!', '='], ['>', '='], ['<', '=']] := by
  rw [List.contains_iff_mem] at h
  have hmem := List.mem_map_of_mem (f := String.toList) h
  rwa [String.toList_ofList] at hmem

theorem isQuote_of_longSign {c d : Char} (h : longSigns.contains (String.ofList [c, d]) = true) :
    isQuote c = false ∧ isQuote d = false := by
  have hmem := mem_longSigns h
  simp only [List.mem_cons, List.cons.injEq, and_true, List.not_mem_nil, or_false] at hmem
  rcases hmem with ⟨rfl, rfl⟩ | ⟨rfl, rfl⟩ | ⟨rfl, rfl⟩ | ⟨rfl, rfl⟩ | ⟨rfl, rfl⟩ | ⟨rfl, rfl⟩ <;> exact ⟨rfl, rfl⟩

theorem singleton_shortSign {c : Char} (hc : shortSigns.contains c = true) (s : List Char) :
    c :: s = (String.singleton c).toList ++ s ∧ (String.singleton c).toList ≠ [] ∧
      ∀ x ∈ (String.singleton c).toList, isQuote x = false := by
  rw [String.toList_singleton]
  refine ⟨rfl, List.cons_ne_nil c [], fun x hx => ?_⟩
  rw [List.mem_singleton.1 hx]
  exact isQuote_of_shortSign hc

/-- A sign is taken from the text as it stands there. -/
theorem takeSign?_eq_some {t : String × List Char} (h : takeSign? q = some t) :
    q = t.1.toList ++ t.2 ∧ t.1.toList ≠ [] ∧ ∀ c ∈ t.1.toList, isQuote c = false := by
  unfold takeSign? at h
  split at h
  · next c d s =>
    split at h
    · next hlong =>
      cases h
      obtain ⟨hc, hd⟩ := isQuote_of_longSign hlong
      rw [String.toList_ofList]
      exact ⟨rfl, List.cons_ne_nil c [d], by simp [hc, hd]⟩
    · split at h
      · next hc =>
        cases h
        exact singleton_shortSign hc (d :: s)
      · cases h
  · next c =>
    split at h
    · next hc =>
      cases h
      exact singleton_shortSign hc []
    · cases h
  · cases h

/-! ## Texts without gaps -/

/-- A text in which quoted strings are closed and no blanks stand outside of them. -/
inductive Solid : List Char → Prop
  | nil : Solid []
  | plain {c : Char} {s : List Char} : isQuote c = false → Text.isBlank c = false → Solid s → Solid (c :: s)
  | quoted {c : Char} {body s : List Char} : isQuote c = true →
      takeQuoted c (body ++ [c]) = some (body, []) → Solid s → Solid (c :: (body ++ c :: s))

theorem isBlank_of_isQuote {c : Char} (h : isQuote c = true) : Text.isBlank c = false := by
  rw [isQuote, Bool.or_eq_true, beq_iff_eq, beq_iff_eq] at h
  rcases h with rfl | rfl <;> rfl

theorem Solid.isBlank {c : Char} (h : Solid (c :: q)) : Text.isBlank c = false := by
  cases h with
  | plain _ hblank => exact hblank
  | quoted hquote => exact isBlank_of_isQuote hquote

theorem Solid.tail {c : Char} (h : Solid (c :: q)) (hc : isQuote c = false) : Solid q := by
  cases h with
  | plain _ _ h => exact h
  | quoted hquote =>
    rw [hc] at hquote
    cases hquote

theorem Solid.append (h : Solid q) (hr : Solid r) : Solid (q ++ r) := by
  induction h with
  | nil => exact hr
  | plain hquote hblank _ ih => exact .plain hquote hblank ih
  | quoted hquote hbody _ ih =>
    rw [List.cons_append, List.append_assoc]
    exact .quoted hquote hbody ih

/-- What is left behind a part without quotes has no gaps either. -/
theorem Solid.rests (h : Solid q) (hr : Rests q r) : Solid r := by
  obtain ⟨p, rfl, hp⟩ := hr
  induction p with
  | nil => exact h
  | cons c p ih =>
    rw [List.forall_mem_cons] at hp
    exact ih hp.2 (h.tail hp.1)

theorem ne_backslash_of_isQuote {c : Char} (h : isQuote c = true) : c ≠ '\\' := by
  rintro rfl
  cases h

/-- A quoted string at the start is taken as a whole. -/
theorem Solid.takeQuoted {c : Char} (h : Solid (c :: q)) (hc : isQuote c = true) :
    ∃ body s, Solid s ∧ s <:+ q ∧ ∀ v, takeQuoted c (q ++ v) = some (body, s ++ v) := by
  cases h with
  | plain hquote =>
    rw [hquote] at hc
    cases hc
  | @quoted _ body s _ hbody hs =>
    refine ⟨body, s, hs, (List.suffix_cons c s).trans (List.suffix_append body (c :: s)), fun v => ?_⟩
    have h := takeQuoted_append (ne_backslash_of_isQuote hc) hbody (s ++ v)
    rw [List.append_assoc, List.nil_append] at h
    rw [List.append_assoc]
    exact h

/-! ## Steps of the cut -/

/-- A step takes something from the start of a text, up to what is left of it. -/
structure Steps (q : List Char) (next : Step) : Prop where
  token : next.token? ≠ none
  solid : Solid next.rest
  suffix : next.rest <:+ q
  shorter : next.rest.length < q.length
  point : next.token? = some (.ok (.sign ".")) → q = '.' :: next.rest

theorem Taken.steps (h : Taken q v r) (hq : Solid q) {token : Except Problem Token}
    (htoken : token ≠ .ok (.sign ".")) : Steps q ⟨some token, r⟩ where
  token := nofun
  solid := hq.rests h.rests
  suffix := h.rests.suffix
  shorter := h.shorter
  point := fun heq => absurd (Option.some.inj heq) htoken

theorem nameToken_ne (s : List Char) : nameToken s ≠ .ok (.sign ".") := by
  unfold nameToken
  split <;> exact nofun

theorem floatToken_ne (s : List Char) : floatToken s ≠ .ok (.sign ".") := by
  unfold floatToken
  split <;> exact nofun

theorem textToken_ne (s : List Char) : textToken s ≠ .ok (.sign ".") := by
  unfold textToken
  split <;> exact nofun

theorem integerToken_ne (n : Except Problem Int) : n.map Token.integer ≠ .ok (.sign ".") := by
  cases n <;> exact nofun

theorem Solid.steps_name {c : Char} (h : Solid (c :: q)) (hc : isNameChar c = true) :
    Steps (c :: q) ⟨some (nameToken ((c :: q).takeWhile isNameChar)), (c :: q).dropWhile isNameChar⟩ := by
  have hrests := rests_dropWhile (c :: q)
  have hshorter : ((c :: q).dropWhile isNameChar).length < (c :: q).length := by
    rw [List.dropWhile_cons, if_pos hc]
    exact Nat.lt_succ_of_le (List.dropWhile_suffix _).length_le
  exact ⟨nofun, h.rests hrests, hrests.suffix, hshorter,
    fun heq => absurd (Option.some.inj heq) (nameToken_ne _)⟩

theorem Solid.steps_sign (h : Solid q) {t : String × List Char} (ht : takeSign? q = some t) :
    Steps q ⟨some (.ok (.sign t.1)), t.2⟩ := by
  obtain ⟨heq, hne, hquotes⟩ := takeSign?_eq_some ht
  have hrests : Rests q t.2 := ⟨t.1.toList, heq, hquotes⟩
  have hshorter : t.2.length < q.length := by
    have hlength := congrArg List.length heq
    rw [List.length_append] at hlength
    have hpos := List.length_pos_iff.2 hne
    omega
  refine ⟨nofun, h.rests hrests, hrests.suffix, hshorter, ?_⟩
  intro hpoint
  have hsign : t.1 = "." := by
    injection hpoint with hpoint
    injection hpoint with hpoint
    injection hpoint
  rw [heq, hsign]
  rfl

/-- A step at a character that is no blank. -/
theorem step?_cons (afterPoint : Bool) {c : Char} (hblank : Text.isBlank c = false) (s : List Char) :
    step? afterPoint (c :: s) = match if afterPoint then none else takeFloat? (c :: s) with
      | some (digits, r) => some ⟨some (floatToken digits), r⟩
      | none =>
        match takeInteger? (c :: s) with
        | some (n, r) => some ⟨some (n.map .integer), r⟩
        | none =>
          if isNameChar c then
            some ⟨some (nameToken ((c :: s).takeWhile isNameChar)), (c :: s).dropWhile isNameChar⟩
          else
            match if isQuote c then takeQuoted c s else none with
            | some (t, r) => some ⟨some (textToken t), r⟩
            | none => (takeSign? (c :: s)).map fun (sign, r) => ⟨some (.ok (.sign sign)), r⟩ := by
  rw [step?, hblank]
  rfl

/-- **A step of the cut is local**: it takes from the first text what it takes from that with the second text behind,
if no token reaches from the one into the other. -/
theorem step?_append (afterPoint : Bool) (h : Parted q v) (hsolid : Solid q) (hq : q ≠ []) :
    step? afterPoint (q ++ v) = (step? afterPoint q).map (fun n => ⟨n.token?, n.rest ++ v⟩) ∧
      ∀ next, step? afterPoint q = some next → Steps q next := by
  have hbounded := h.bounded hq
  have hfloat : Local (fun s => if afterPoint then none else takeFloat? s) q v := by
    cases afterPoint with
    | true => exact .none rfl rfl
    | false => exact local_takeFloat? h hbounded
  have hinteger := local_takeInteger? hbounded hq
  obtain ⟨hname, hbehind⟩ := takeWhile_isNameChar_append hbounded
  have hsign := takeSign?_append h hq
  obtain ⟨c, q, rfl⟩ := List.exists_cons_of_ne_nil hq
  have hblank := hsolid.isBlank
  have hfloatv := hfloat.append
  have hintegerv := hinteger.append
  rw [List.cons_append] at hfloatv hintegerv hname hbehind hsign ⊢
  rw [step?_cons _ hblank, step?_cons _ hblank, hfloatv, hintegerv, hname, hbehind, hsign]
  -- the kinds of token in the order in which the step tries them: a floating-point number,
  cases hf : (if afterPoint then none else takeFloat? (c :: q)) with
  | some t =>
    refine ⟨rfl, ?_⟩
    rintro next ⟨⟩
    exact (hfloat.taken t hf).steps hsolid (floatToken_ne _)
  | none =>
  -- an integer,
  cases hi : takeInteger? (c :: q) with
  | some t =>
    refine ⟨rfl, ?_⟩
    rintro next ⟨⟩
    exact (hinteger.taken t hi).steps hsolid (integerToken_ne _)
  | none =>
  -- a name,
  by_cases hc : isNameChar c = true
  · rw [if_pos hc, if_pos hc]
    refine ⟨rfl, ?_⟩
    rintro next ⟨⟩
    exact hsolid.steps_name hc
  rw [if_neg hc, if_neg hc]
  -- a quoted string, which is closed in the first text,
  by_cases hquote : isQuote c = true
  · obtain ⟨body, s, hs, hsuffix, htake⟩ := hsolid.takeQuoted hquote
    have htake' := htake []
    rw [List.append_nil, List.append_nil] at htake'
    rw [if_pos hquote, if_pos hquote, htake v, htake']
    refine ⟨rfl, ?_⟩
    rintro next ⟨⟩
    exact ⟨nofun, hs, hsuffix.trans (List.suffix_cons c q), Nat.lt_succ_of_le hsuffix.length_le,
      fun heq => absurd (Option.some.inj heq) (textToken_ne _)⟩
  rw [if_neg hquote, if_neg hquote]
  -- or a sign
  cases hs : takeSign? (c :: q) with
  | none => exact ⟨rfl, nofun⟩
  | some t =>
    refine ⟨rfl, ?_⟩
    rintro next ⟨⟩
    exact hsolid.steps_sign hs

end FieldRules.Expr
