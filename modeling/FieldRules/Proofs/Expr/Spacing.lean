import FieldRules.Proofs.Expr.Boundaries
import FieldRules.Proofs.Expr.Faults

/-!
# Gaps between tokens

Blanks outside of quoted strings may be left out where no token reaches over the place: the text is cut into the
same tokens without them (`alike_cut`), and it is read as the same expression (`parse_squeezed`). Only the places
that a fault reports are different, and a text with a fault is not read.
-/

namespace FieldRules.Expr

variable {q r v : List Char}

/-! ## Gaps -/

theorem joins_of_isBlank {c : Char} (h : Text.isBlank c = true) : joins c = false := by
  have hall : ∀ n ∈ Text.blankCodes, joins (Char.ofNat n) = false := by decide +kernel
  exact Text.eq_false_of_isBlank hall h

/-- The second character of a sign of two. -/
theorem eq_of_longSign {a b : Char} (h : longSigns.contains (String.ofList [a, b]) = true) :
    b = '/' ∨ b = '*' ∨ b = '=' := by
  have hmem := mem_longSigns h
  simp only [List.mem_cons, List.cons.injEq, and_true, List.not_mem_nil, or_false] at hmem
  tauto

/-- No token reaches into a gap. -/
theorem parted_of_isBlank (q : List Char) (hv : ∀ b ∈ v.head?, Text.isBlank b = true) : Parted q v := by
  have hne : ∀ b ∈ v.head?, ∀ c, Text.isBlank c = false → b ≠ c := by
    rintro b hb c hc rfl
    rw [hv b hb] at hc
    cases hc
  refine ⟨?_, ?_, ?_, ?_, ?_⟩
  · exact fun a b _ hb _ => joins_of_isBlank (hv b hb)
  · intro a b _ hb
    rw [← Bool.not_eq_true]
    intro hlong
    rcases eq_of_longSign hlong with rfl | rfl | rfl <;> exact hne _ hb _ rfl rfl
  · exact fun a b _ hb _ => ⟨hne b hb '+' rfl, hne b hb '-' rfl⟩
  · intro e a b _ hb _ _
    rw [← Bool.not_eq_true]
    intro hdecimal
    have hnone := joins_of_isBlank (hv b hb)
    rw [joins_of_isDecimal hdecimal] at hnone
    cases hnone
  · exact fun a b _ hb _ => hne b hb '\x7d' rfl

/-- Whether no token reaches from what stands before a place, given from its end, to what stands behind it. -/
def apart (before after : List Char) : Bool :=
  match before, after with
  | a :: more, b :: _ =>
    !(joins a && joins b) && !longSigns.contains (String.ofList [a, b])
      && !(isExponentLetter a && (b == '+' || b == '-'))
      && !((a == '+' || a == '-') && more.head?.any isExponentLetter && Text.isDecimal b)
      && !((a == '-' || a == '\x7d') && b == '\x7d')
  | _, _ => true

theorem parted_of_apart {before : List Char} (h : apart (q.reverse ++ before) v = true) : Parted q v := by
  cases v with
  | nil => exact parted_of_isBlank q nofun
  | cons b v =>
    -- whatever ends the first text stands right before the place, with all that was before it further back
    have hlast : ∀ a, [a] <:+ q → ∃ more, apart (a :: more) (b :: v) = true := by
      rintro a ⟨q, rfl⟩
      rw [List.reverse_append, List.append_assoc] at h
      exact ⟨_, h⟩
    have hlasts : ∀ e a, [e, a] <:+ q → ∃ more, apart (a :: e :: more) (b :: v) = true := by
      rintro e a ⟨q, rfl⟩
      rw [List.reverse_append, List.append_assoc] at h
      exact ⟨_, h⟩
    simp only [apart, Bool.and_eq_true, Bool.not_eq_true', Bool.and_eq_false_iff, Bool.or_eq_false_iff,
      beq_eq_false_iff_ne] at hlast hlasts
    refine ⟨?_, ?_, ?_, ?_, ?_⟩
    · rintro a b ha ⟨⟩ hjoins
      obtain ⟨more, ⟨⟨⟨hword, -⟩, -⟩, -⟩, -⟩ := hlast a ha
      exact hword.resolve_left (by simp [hjoins])
    · rintro a b ha ⟨⟩
      obtain ⟨more, ⟨⟨⟨-, hsign⟩, -⟩, -⟩, -⟩ := hlast a ha
      exact hsign
    · rintro a b ha ⟨⟩ hletter
      obtain ⟨more, ⟨⟨-, hplus⟩, -⟩, -⟩ := hlast a ha
      exact hplus.resolve_left (by simp [hletter])
    · rintro e a b ha ⟨⟩ hletter hsign
      obtain ⟨more, ⟨-, hdigit⟩, -⟩ := hlasts e a ha
      rcases hdigit with (⟨hplus, hminus⟩ | hnone) | hdecimal
      · exact (hsign.elim hplus hminus).elim
      · simp [hletter] at hnone
      · exact hdecimal
    · rintro a b ha ⟨⟩ hclose
      obtain ⟨more, -, hbrace⟩ := hlast a ha
      exact hbrace.resolve_left fun hnot => hclose.elim hnot.1 hnot.2

/-- The end of an expression does not reach from the first text into the second one. -/
theorem atClose_append (h : Parted q v) (hq : q ≠ []) : atClose (q ++ v) = atClose q := by
  cases v with
  | nil => rw [List.append_nil]
  | cons b v =>
    obtain ⟨x, q, rfl⟩ := List.exists_cons_of_ne_nil hq
    -- the end of an expression has two or three characters, of which the first text may have one or two
    match q, h with
    | [], h =>
      have hshort : atClose [x] = ('\x7d' == x && false || '-' == x && false) := rfl
      have hlong : atClose (x :: b :: v) = ('\x7d' == x && ('\x7d' == b && true) ||
          '-' == x && ('\x7d' == b && ['\x7d'].isPrefixOf v)) := rfl
      rw [List.singleton_append, hlong, hshort]
      by_cases hb : b = '\x7d'
      · have hx := fun hx => h.close x b (List.suffix_refl [x]) rfl hx hb
        have hminus : ('-' == x) = false := by simpa using fun heq => hx (.inl (Eq.symm heq))
        have hbrace : ('\x7d' == x) = false := by simpa using fun heq => hx (.inr (Eq.symm heq))
        rw [hminus, hbrace]
        rfl
      · have hbrace : ('\x7d' == b) = false := by simpa using Ne.symm hb
        rw [hbrace, Bool.false_and, Bool.false_and]
    | [y], h =>
      have hshort : atClose [x, y] = ('\x7d' == x && ('\x7d' == y && true) ||
          '-' == x && ('\x7d' == y && false)) := rfl
      have hlong : atClose (x :: y :: b :: v) = ('\x7d' == x && ('\x7d' == y && true) ||
          '-' == x && ('\x7d' == y && ('\x7d' == b && true))) := rfl
      rw [List.cons_append, List.singleton_append, hlong, hshort]
      by_cases hb : b = '\x7d'
      · have hy := fun hy => h.close y b (List.suffix_cons x [y]) rfl (.inr hy) hb
        have hbrace : ('\x7d' == y) = false := by simpa using fun heq => hy (Eq.symm heq)
        rw [hbrace]
        rfl
      · have hbrace : ('\x7d' == b) = false := by simpa using Ne.symm hb
        rw [hbrace, Bool.false_and]
    | y :: z :: q, h => rfl

/-- A text, and the same text without its gaps: no token reaches over the places where they were. -/
inductive Squeezed : List Char → List Char → Prop
  | solid {q : List Char} : Solid q → Squeezed q q
  | gap {q w s t : List Char} : Solid q → w ≠ [] → (∀ c ∈ w, Text.isBlank c = true ∧ c ≠ '\n') →
      (∀ c ∈ s.head?, Text.isBlank c = false) → Parted q t → Squeezed s t →
      Squeezed (q ++ (w ++ s)) (q ++ t)

/-- Cuts with the same tokens that both have a fault at their end or both have none. -/
structure Alike (x y : Lexemes) : Prop where
  items : x.items = y.items
  fault : x.problem?.isSome = y.problem?.isSome

theorem Alike.eq_of_none {x y : Lexemes} (h : Alike x y) (hx : x.problem? = none) (hy : y.problem? = none) :
    x = y := by
  obtain ⟨items, problem?⟩ := x
  obtain ⟨items', problem'?⟩ := y
  obtain rfl : items = items' := h.items
  cases hx
  cases hy
  rfl

/-- Where no gap stands, both texts go on in the same way. -/
theorem Squeezed.exists_solid {c : Char} {s t : List Char} (h : Squeezed (c :: s) t)
    (hc : Text.isBlank c = false) :
    ∃ q u v, q ≠ [] ∧ c :: s = q ++ u ∧ t = q ++ v ∧ Solid q ∧ Parted q u ∧ Parted q v ∧
      ∀ r, Solid r → r <:+ q → Squeezed (r ++ u) (r ++ v) := by
  generalize hs : c :: s = s' at h
  cases h with
  | solid hq =>
    subst hs
    refine ⟨c :: s, [], [], List.cons_ne_nil c s, (List.append_nil _).symm, (List.append_nil _).symm, hq,
      parted_of_isBlank _ nofun, parted_of_isBlank _ nofun, ?_⟩
    intro r hr _
    rw [List.append_nil]
    exact .solid hr
  | @gap q w s' t hq hw hblanks hhead hparted hmore =>
    have hne : q ≠ [] := by
      rintro rfl
      obtain ⟨b, w, rfl⟩ := List.exists_cons_of_ne_nil hw
      cases hs
      rw [(hblanks c (List.mem_cons_self ..)).1] at hc
      cases hc
    refine ⟨q, w ++ s', t, hne, rfl, rfl, hq, ?_, hparted, ?_⟩
    · apply parted_of_isBlank
      obtain ⟨b, w, rfl⟩ := List.exists_cons_of_ne_nil hw
      rintro _ ⟨⟩
      exact (hblanks b (List.mem_cons_self ..)).1
    · exact fun r hr hsuffix => .gap hr hw hblanks hhead (hparted.suffix hsuffix) hmore

/-- Where a gap stands, the other text goes on as the text does behind the gap. -/
theorem Squeezed.exists_gap {c : Char} {s t : List Char} (h : Squeezed (c :: s) t)
    (hc : Text.isBlank c = true) :
    ∃ w s', c :: s = w ++ s' ∧ w ≠ [] ∧ (∀ c ∈ w, Text.isBlank c = true ∧ c ≠ '\n') ∧
      (∀ c ∈ s'.head?, Text.isBlank c = false) ∧ Squeezed s' t := by
  generalize hs : c :: s = s' at h
  cases h with
  | solid hq =>
    subst hs
    rw [hq.isBlank] at hc
    cases hc
  | @gap q w s' t hq hw hblanks hhead _ hmore =>
    obtain rfl : q = [] := by
      cases q with
      | nil => rfl
      | cons d q =>
        cases hs
        rw [hq.isBlank] at hc
        cases hc
    exact ⟨w, s', rfl, hw, hblanks, hhead, hmore⟩

/-! ## Cuts -/

section Cuts
variable {open_ : List Char} {afterPoint : Bool} {fuel position line : Nat}

/-- How the rest of a text is cut at one of its characters. -/
theorem cut_cons (c : Char) (s : List Char) :
    cut (fuel + 1) position line open_ afterPoint (c :: s) =
      if open_.isEmpty && atClose (c :: s) then ⟨[⟨.close, line⟩], none⟩
      else match step? afterPoint (c :: s) with
        | none => ⟨[], some (.unexpectedChar (String.ofList (Text.quote [c])) position)⟩
        | some next =>
          let taken := (c :: s).take ((c :: s).length - next.rest.length)
          let position := position + taken.length
          let line' := line + taken.count '\n'
          match next.token? with
          | none => cut fuel position line' open_ false next.rest
          | some (.error p) => ⟨[], some p⟩
          | some (.ok token) =>
            match bracketsAfter open_ token with
            | .error p => ⟨[], some p⟩
            | .ok open_ =>
              let more := cut fuel position line' open_ (token.isSign ".") next.rest
              { more with items := ⟨token, line⟩ :: more.items } := by
  conv_lhs => unfold cut
  generalize step? afterPoint (c :: s) = next?
  cases next? with
  | none => rfl
  | some next =>
    obtain ⟨token?, rest⟩ := next
    cases token? with
    | none => rfl
    | some token =>
      cases token with
      | error p => rfl
      | ok token => cases token <;> rfl

theorem cut_nil : cut fuel position line open_ afterPoint [] = ⟨[], none⟩ := by
  cases fuel with
  | zero => rfl
  | succ fuel =>
    have hclose : atClose [] = false := rfl
    unfold cut
    rw [hclose, Bool.and_false, if_neg Bool.false_ne_true]

theorem atClose_blank {c : Char} (hc : Text.isBlank c = true) (s : List Char) : atClose (c :: s) = false := by
  have hne : ∀ d, Text.isBlank d = false → (d == c) = false := by
    intro d hd
    rw [← Bool.not_eq_true, beq_iff_eq]
    rintro rfl
    rw [hc] at hd
    cases hd
  rw [atClose]
  show ('\x7d' == c && _ || '-' == c && _) = false
  rw [hne '\x7d' rfl, hne '-' rfl]
  rfl

/-- A gap is left out as a whole. -/
theorem step?_gap {c : Char} {w s : List Char} (hc : Text.isBlank c = true)
    (hblanks : ∀ d ∈ w, Text.isBlank d = true) (hs : ∀ d ∈ s.head?, Text.isBlank d = false) :
    step? afterPoint (c :: (w ++ s)) = some ⟨none, s⟩ := by
  have hdrop : s.dropWhile Text.isBlank = s := by
    cases s with
    | nil => rfl
    | cons d s =>
      rw [List.dropWhile_cons, hs d rfl]
      rfl
  rw [step?, hc, if_pos rfl, List.dropWhile_append_of_pos hblanks, hdrop]

/-- The cut goes on behind a gap, which has no line ends. -/
theorem cut_gap {w s : List Char} (hw : w ≠ []) (hblanks : ∀ c ∈ w, Text.isBlank c = true ∧ c ≠ '\n')
    (hs : ∀ c ∈ s.head?, Text.isBlank c = false) :
    cut (fuel + 1) position line open_ afterPoint (w ++ s)
      = cut fuel (position + w.length) line open_ false s := by
  obtain ⟨c, w, rfl⟩ := List.exists_cons_of_ne_nil hw
  obtain ⟨⟨hc, -⟩, hrest⟩ := List.forall_mem_cons.1 hblanks
  have htaken : (c :: (w ++ s)).take ((c :: (w ++ s)).length - s.length) = c :: w := by
    rw [List.length_cons, List.length_append, show w.length + s.length + 1 - s.length = w.length + 1 by omega,
      List.take_succ_cons, List.take_left']
    rfl
  have hlines : (c :: w).count '\n' = 0 := List.count_eq_zero.2 fun hmem => (hblanks _ hmem).2 rfl
  rw [List.cons_append, cut_cons, atClose_blank hc, Bool.and_false, if_neg Bool.false_ne_true,
    step?_gap hc (fun d hd => (hrest d hd).1) hs]
  dsimp only
  rw [htaken, hlines]
  rfl

/-- Behind a point, only a digit is cut in another way than elsewhere. -/
theorem cut_afterPoint {s : List Char} (hs : ∀ c ∈ s.head?, Text.isDecimal c = false) (afterPoint' : Bool) :
    cut fuel position line open_ afterPoint s = cut fuel position line open_ afterPoint' s := by
  have hfloat : takeFloat? s = none := by
    cases s with
    | nil => rfl
    | cons c s =>
      rw [takeFloat?_eq, takeRun, takeDigitRun, hs c rfl, Bool.false_and, if_neg Bool.false_ne_true,
        if_neg Bool.false_ne_true, ite_self]
  have hstep : step? afterPoint s = step? afterPoint' s := by
    cases s with
    | nil => rfl
    | cons c s =>
      rw [step?, step?, hfloat, ite_self, ite_self]
  cases fuel with
  | zero => rfl
  | succ fuel =>
    cases s with
    | nil => rfl
    | cons c s => rw [cut_cons, cut_cons, hstep]

end Cuts

theorem Squeezed.eq_nil {t : List Char} (h : Squeezed [] t) : t = [] := by
  generalize hs : [] = s at h
  cases h with
  | solid => rfl
  | gap _ hw =>
    obtain ⟨-, hnil⟩ := List.append_eq_nil_iff.1 hs.symm
    exact absurd (List.append_eq_nil_iff.1 hnil).1 hw

theorem eq_sign_of_isSign {t : Token} {s : String} (h : t.isSign s = true) : t = .sign s := by
  cases t with
  | sign x => rw [eq_of_beq h]
  | name | text | integer | float | close => cases h

/-- What has been taken up to a rest of the first text does not depend on the second one. -/
theorem take_append_sub (hr : r <:+ q) (v : List Char) :
    (q ++ v).take ((q ++ v).length - (r ++ v).length) = q.take (q.length - r.length) := by
  have hle := hr.length_le
  rw [List.length_append, List.length_append, Nat.add_sub_add_right, List.take_append_of_le_length (Nat.sub_le _ _)]

/-- Behind a point at the end of the first part, the second text does not start with a digit: the two would be one
number. So a gap that stands there may be left out. -/
theorem Steps.isDecimal_of_point {u : List Char} {token : Token} {rest : List Char}
    (h : Steps q ⟨some (.ok token), rest⟩) (hv : Parted q v) (hpoint : token.isSign "." = true) :
    ∀ c ∈ (rest ++ u).head?, Text.isBlank c = true → ∀ d ∈ (rest ++ v).head?, Text.isDecimal d = false := by
  intro c hc hblank d hd
  have hq := h.point (congrArg (fun t => some (Except.ok t)) (eq_sign_of_isSign hpoint))
  cases rest with
  | nil =>
    have hlast : ['.'] <:+ q := ⟨[], hq.symm⟩
    rw [← Bool.not_eq_true]
    intro hdecimal
    have hnot := hv.word '.' d hlast hd rfl
    rw [joins_of_isDecimal hdecimal] at hnot
    cases hnot
  | cons c' rest =>
    obtain rfl : c' = c := Option.some.inj hc
    rw [h.solid.isBlank] at hblank
    cases hblank

/-- A step of the comparison where no gap stands: both texts start with the same part, and no token reaches over its
end. Their cuts are alike, if they are alike behind the first token of that part. -/
theorem alike_cut_solid {u : List Char} {open_ : List Char} {fuel fuel' position position' line : Nat}
    {afterPoint : Bool} (hq : Solid q) (hne : q ≠ []) (hu : Parted q u) (hv : Parted q v)
    (hmore : ∀ {token rest} open_' position position' line', Steps q ⟨some (.ok token), rest⟩ →
      Alike (cut fuel position line' open_' (token.isSign ".") (rest ++ u))
        (cut fuel' position' line' open_' (token.isSign ".") (rest ++ v))) :
    Alike (cut (fuel + 1) position line open_ afterPoint (q ++ u))
      (cut (fuel' + 1) position' line open_ afterPoint (q ++ v)) := by
  obtain ⟨hstepu, hsteps⟩ := step?_append afterPoint hu hq hne
  obtain ⟨hstepv, -⟩ := step?_append afterPoint hv hq hne
  obtain ⟨d, q, rfl⟩ := List.exists_cons_of_ne_nil hne
  rw [List.cons_append, List.cons_append, cut_cons, cut_cons, ← List.cons_append, ← List.cons_append,
    atClose_append hu hne, atClose_append hv hne, hstepu, hstepv]
  split
  · exact ⟨rfl, rfl⟩
  cases hnext : step? afterPoint (d :: q) with
  | none => exact ⟨rfl, rfl⟩
  | some next =>
    have hstep := hsteps next hnext
    obtain ⟨token?, rest⟩ := next
    have hrest : rest <:+ d :: q := hstep.suffix
    dsimp only [Option.map_some]
    -- the same has been taken from both texts
    rw [take_append_sub hrest, take_append_sub hrest]
    cases token? with
    | none => exact absurd rfl hstep.token
    | some token =>
    cases token with
    | error p => exact ⟨rfl, rfl⟩
    | ok token =>
    dsimp only
    cases bracketsAfter open_ token with
    | error p => exact ⟨rfl, rfl⟩
    | ok open_' =>
      have halike := hmore open_' (position + ((d :: q).take ((d :: q).length - rest.length)).length)
        (position' + ((d :: q).take ((d :: q).length - rest.length)).length)
        (line + ((d :: q).take ((d :: q).length - rest.length)).count '\n') hstep
      exact ⟨congrArg (List.cons _) halike.items, halike.fault⟩

/-- **A text and the same text without its gaps are cut into the same tokens.** -/
theorem alike_cut {s t : List Char} (h : Squeezed s t) {open_ : List Char} {fuel fuel' : Nat}
    (hfuel : s.length < fuel) (hfuel' : t.length < fuel') (position position' line : Nat)
    {afterPoint : Bool} (hpoint : afterPoint = true → ∀ c ∈ s.head?, Text.isBlank c = true →
      ∀ d ∈ t.head?, Text.isDecimal d = false) :
    Alike (cut fuel position line open_ afterPoint s) (cut fuel' position' line open_ afterPoint t) := by
  induction fuel generalizing s t open_ fuel' position position' line afterPoint with
  | zero => exact absurd hfuel (Nat.not_lt_zero _)
  | succ fuel ih =>
    obtain _ | ⟨c, s⟩ := s
    · rw [h.eq_nil, cut_nil, cut_nil]
      exact ⟨rfl, rfl⟩
    by_cases hc : Text.isBlank c = true
    · -- the gap is passed by, and takes the point before it with it
      obtain ⟨w, s', heq, hw, hblanks, hhead, hmore⟩ := h.exists_gap hc
      rw [heq, cut_gap hw hblanks hhead]
      have hfalse : cut fuel' position' line open_ afterPoint t = cut fuel' position' line open_ false t := by
        cases afterPoint with
        | false => rfl
        | true => exact cut_afterPoint (hpoint rfl c rfl hc) false
      rw [hfalse]
      have hlength := congrArg List.length heq
      have hpos := List.length_pos_iff.2 hw
      rw [List.length_append] at hlength
      exact ih hmore (by omega) hfuel' _ _ _ nofun
    · -- The next token ends within the text without gaps that both start with.
      obtain ⟨q, u, v, hne, hs, rfl, hsolid, hu, hv, hmore⟩ := h.exists_solid (by simpa using hc)
      obtain ⟨fuel', rfl⟩ := Nat.exists_eq_succ_of_ne_zero (Nat.ne_zero_of_lt hfuel')
      rw [hs] at hfuel ⊢
      rw [List.length_append] at hfuel hfuel'
      refine alike_cut_solid hsolid hne hu hv fun {token rest} open_' position position' line' hstep => ?_
      have hshorter : rest.length < q.length := hstep.shorter
      refine ih (hmore rest hstep.solid hstep.suffix) ?_ ?_ position position' line' fun hpoint =>
        hstep.isDecimal_of_point hv hpoint
      · rw [List.length_append]
        omega
      · rw [List.length_append]
        omega

/-! ## Texts -/

/-- A text without carriage returns that does not end a line is cut as it stands. -/
theorem tokens_eq {s : List Char} (hreturn : '\r' ∉ s) (hlast : s.getLast? ≠ some '\n') :
    tokens s = cut (s.length + 1) 0 1 [] false s := by
  rw [tokens, normalizeLines, Text.unifyLines_eq_self hreturn, if_neg (by simpa using hlast)]

/-- **A text and the same text without its gaps are read as the same expression**, or both are not read. -/
theorem parse_squeezed {s t : List Char} (h : Squeezed s t) (hs : '\r' ∉ s) (ht : '\r' ∉ t)
    (hlasts : s.getLast? ≠ some '\n') (hlastt : t.getLast? ≠ some '\n') (e : Expr) :
    parse s = .ok e ↔ parse t = .ok e := by
  have halike : Alike (tokens s) (tokens t) := by
    rw [tokens_eq hs hlasts, tokens_eq ht hlastt]
    exact alike_cut h (Nat.lt_succ_self _) (Nat.lt_succ_self _) 0 0 1 nofun
  cases hproblem : (tokens s).problem? with
  | some p =>
    have hfault : (tokens s).problem?.isSome = true := by rw [hproblem, Option.isSome_some]
    exact iff_of_false (parse_error_of_problem hfault e) (parse_error_of_problem (halike.fault ▸ hfault) e)
  | none =>
    have hnone : (tokens t).problem? = none := by
      rw [← Option.not_isSome_iff_eq_none, ← halike.fault, hproblem]
      exact Bool.false_ne_true
    rw [parse, parse, halike.eq_of_none hproblem hnone]

end FieldRules.Expr
