import FieldRules.Proofs.Rule.Passages

/-!
# Rule texts in one

Two rule texts with a delimiter between them are read as the fragments of the first one and then those of the
second one, and if the first one is read, all is read exactly if the second one is (`parse_join_iff`), whatever
blanks and further delimiters stand at the seam. A text that is read ends with a delimiter that belongs to no name,
to no arguments, to no groups and to no message, or one of these would have been left open. So what was read up to
there is passed in the same way in front of any other text (`passes_seam`). The text as a whole matters to the
reports of failures only.
-/

namespace FieldRules.Rule

variable {strict : Bool} {text : List Char} {α : Type}

/-! ## Parts that are closed -/

/-- A reader takes the text up to a closing character, and does so in front of any other rest and whatever the
whole text is. -/
def Closes (close : Char) (read : List Char → List Char → Except Error (α × List Char)) (s : List Char)
    (a : α) (rest : List Char) : Prop :=
  ∃ u, s = u ++ rest ∧ u.getLast? = some close ∧ ∀ text' rest', read text' (u ++ rest') = .ok (a, rest')

/-- A reader that takes one character more. It may look at the character behind. -/
theorem Closes.cons {close c : Char} {read read' : List Char → List Char → Except Error (α × List Char)}
    {s rest : List Char} {a : α} (h : Closes close read s a rest)
    (hread : ∀ text' s', s'.head? = s.head? → read' text' (c :: s') = read text' s') :
    Closes close read' (c :: s) a rest := by
  obtain ⟨u, rfl, hlast, hu⟩ := h
  refine ⟨c :: u, rfl, ?_, ?_⟩
  · rw [List.getLast?_cons, hlast, Option.getD_some]
  · intro text' rest'
    have hhead : (u ++ rest').head? = (u ++ rest).head? := by
      cases u with
      | nil => cases hlast
      | cons d u => rfl
    rw [List.cons_append, hread text' _ hhead]
    exact hu text' rest'

/-- A reader that takes the closing character. -/
theorem closes_singleton {close c : Char} {read : List Char → List Char → Except Error (α × List Char)}
    {rest : List Char} {a : α} (hc : c = close)
    (hread : ∀ text' rest', read text' (c :: rest') = .ok (a, rest')) :
    Closes close read (c :: rest) a rest :=
  ⟨[c], rfl, congrArg some hc, hread⟩

theorem readPattern_eq_ok {shown : String} {source : List Char} {r : Regex} :
    readPattern text shown source = .ok r ↔ Regex.compile (String.ofList source) = .ok r := by
  unfold readPattern
  dsimp only
  cases hcompile : Regex.compile (String.ofList source) with
  | ok r' =>
    constructor
    · intro h
      rw [Except.ok.inj h]
    · intro h
      rw [Except.ok.inj h]
      rfl
  | error p =>
    dsimp only
    split <;> exact ⟨fun h => (nomatch h), fun h => (nomatch h)⟩

/-- Arguments are gathered up to their parenthesis, whatever stands behind that. -/
theorem closes_gather {mode : Mode} {g g' : Gathered} {s rest : List Char}
    (h : gather text mode g s = .ok (g', rest)) :
    Closes ')' (fun text' s' => gather text' mode g s') s g' rest := by
  fun_induction gather text mode g s
  case case1 | case8 => cases h
  case case2 ih =>
    -- a slash is taken together with the backslash before it
    obtain ⟨u, rfl, hlast, hu⟩ := ih h
    refine ⟨'\\' :: '/' :: u, rfl, ?_, ?_⟩
    · rw [List.getLast?_cons, List.getLast?_cons, hlast, Option.getD_some, Option.getD_some]
    · intro text' rest'
      show gather text' _ _ ('\\' :: '/' :: (u ++ rest')) = _
      rw [gather]
      exact hu text' rest'
  case case3 hnext hslash ih =>
    obtain ⟨r, hr, hrest⟩ := bind_eq_ok h
    refine (ih r hrest).cons ?_
    intro text' s' hhead
    rw [gather, if_pos hslash, readPattern_eq_ok.2 (readPattern_eq_ok.1 hr)]
    · rfl
    · rintro rest' rfl rfl
      cases hslash
  case case4 c after hnext hslash ih =>
    refine (ih h).cons ?_
    intro text' s' hhead
    rw [gather, if_neg hslash]
    -- the character behind is the same, so it is no slash behind a backslash here either
    rintro rest' rfl rfl
    cases after with
    | nil => cases hhead
    | cons d after =>
      cases Option.some.inj hhead
      exact hnext after rfl rfl
  case case5 ih =>
    refine (ih h).cons ?_
    intro text' s' _
    rw [gather, if_pos rfl]
  case case6 hescaped hslash ih =>
    refine (ih h).cons ?_
    intro text' s' _
    rw [gather, if_neg hescaped, if_pos hslash]
  case case7 hescaped hslash hquote ih =>
    refine (ih h).cons ?_
    intro text' s' _
    rw [gather, if_neg hescaped, if_neg hslash, if_pos hquote]
  case case9 hescaped hslash hquote hother ih =>
    refine (ih h).cons ?_
    intro text' s' _
    rw [gather, if_neg hescaped, if_neg hslash, if_neg hquote, if_neg hother]
  case case10 hclose =>
    cases h
    apply closes_singleton (eq_of_beq hclose)
    intro text' rest'
    rw [gather, if_pos hclose]
    rfl
  case case11 hclose hslash ih =>
    refine (ih h).cons ?_
    intro text' s' _
    rw [gather, if_neg hclose, if_pos hslash]
  case case12 hclose hslash hquote ih =>
    refine (ih h).cons ?_
    intro text' s' _
    rw [gather, if_neg hclose, if_neg hslash, if_pos hquote]
  case case13 hclose hslash hquote hblank ih =>
    refine (ih h).cons ?_
    intro text' s' _
    rw [gather, if_neg hclose, if_neg hslash, if_neg hquote, if_pos hblank]
  case case14 hclose hslash hquote hblank ih =>
    refine (ih h).cons ?_
    intro text' s' _
    rw [gather, if_neg hclose, if_neg hslash, if_neg hquote, if_neg hblank]

theorem closes_readArguments {s rest : List Char} {values : List Value}
    (h : readArguments text s = .ok (values, rest)) : Closes ')' readArguments s values rest := by
  rw [readArguments_eq_bind] at h
  obtain ⟨⟨g, after⟩, hgather, h⟩ := bind_eq_ok h
  obtain ⟨values', hvalues, h⟩ := bind_eq_ok h
  cases h
  obtain ⟨u, hs, hlast, hu⟩ := closes_gather hgather
  refine ⟨u, hs, hlast, ?_⟩
  intro text' rest'
  have hgather' : gather text' .plain {} (u ++ rest') = .ok (g, rest') := hu text' rest'
  rw [readArguments_of_gather hgather', hvalues]
  rfl

theorem closes_readGroups {groups groups' : List String} {current : List Char} {gap : Bool}
    {s rest : List Char} (h : readGroups strict text groups current gap s = .ok (groups', rest)) :
    Closes '>' (fun text' s' => readGroups strict text' groups current gap s') s groups' rest := by
  fun_induction readGroups strict text groups current gap s
  case case1 | case6 => cases h
  case case2 hclose =>
    obtain ⟨rfl, rfl⟩ := Prod.mk.inj (Except.ok.inj h)
    apply closes_singleton (eq_of_beq hclose)
    intro text' rest'
    rw [readGroups, if_pos hclose]
    rfl
  case case3 hclose hcomma ih =>
    refine (ih h).cons ?_
    intro text' s' _
    rw [readGroups, if_neg hclose, if_pos hcomma]
  case case4 hclose hcomma hblank hempty ih =>
    refine (ih h).cons ?_
    intro text' s' _
    rw [readGroups, if_neg hclose, if_neg hcomma, if_pos hblank, if_pos hempty]
  case case5 hclose hcomma hblank hempty ih =>
    refine (ih h).cons ?_
    intro text' s' _
    rw [readGroups, if_neg hclose, if_neg hcomma, if_pos hblank, if_neg hempty]
  case case7 hclose hcomma hblank hgap ih =>
    refine (ih h).cons ?_
    intro text' s' _
    rw [readGroups, if_neg hclose, if_neg hcomma, if_neg hblank, if_neg hgap]

/-- A text is cut at the first place where a part stands, whatever stands behind that. -/
theorem cutAt?_extend {part s before after : List Char} (hpart : part ≠ [])
    (h : Text.cutAt? part s = some (before, after)) :
    s = before ++ part ++ after ∧
      ∀ rest', Text.cutAt? part (before ++ part ++ rest') = some (before, rest') := by
  induction s generalizing before with
  | nil =>
    rw [Text.cutAt?, if_neg (by simpa using hpart)] at h
    cases h
  | cons c s ih =>
    rw [Text.cutAt?] at h
    split at h
    · next hstarts =>
      cases h
      obtain ⟨behind, hbehind⟩ := List.isPrefixOf_iff_prefix.1 hstarts
      refine ⟨?_, ?_⟩
      · rw [← hbehind, List.drop_left, List.nil_append]
      · intro rest'
        cases part with
        | nil => exact absurd rfl hpart
        | cons d part =>
          have hpref : (d :: part).isPrefixOf (d :: (part ++ rest')) = true :=
            List.isPrefixOf_iff_prefix.2 (List.prefix_append (d :: part) rest')
          rw [List.nil_append, List.cons_append, Text.cutAt?, if_pos hpref]
          exact congrArg (fun rest => some ([], rest)) List.drop_left
    · next hstarts =>
      obtain ⟨⟨b, a⟩, hcut, heq⟩ := Option.map_eq_some_iff.1 h
      cases heq
      obtain ⟨rfl, hcuts⟩ := ih hcut
      refine ⟨rfl, ?_⟩
      intro rest'
      -- a part that starts here would lie before the end of the one that was found
      have hlater : ¬part.isPrefixOf (c :: (b ++ part ++ rest')) = true := by
        intro hstarts'
        apply hstarts
        rw [List.isPrefixOf_iff_prefix] at hstarts' ⊢
        have hlength : part.length ≤ (c :: (b ++ part)).length := by
          simp only [List.length_cons, List.length_append]
          omega
        have hwithin : part <+: c :: (b ++ part) :=
          List.prefix_of_prefix_length_le hstarts' (List.prefix_append (c :: (b ++ part)) rest') hlength
        exact hwithin.trans (List.prefix_append (c :: (b ++ part)) after)
      rw [List.cons_append, List.cons_append, Text.cutAt?, if_neg hlater, hcuts rest']
      rfl

theorem closes_readMessage {s rest : List Char} {message : String}
    (h : readMessage text s = .ok (message, rest)) : Closes '>' readMessage s message rest := by
  unfold readMessage at h
  split at h
  · next before after hcut =>
    cases h
    obtain ⟨hs, hcuts⟩ := cutAt?_extend (by decide) hcut
    refine ⟨before ++ ">>".toList, hs, ?_, ?_⟩
    · rw [List.getLast?_append]
      rfl
    · intro text' rest'
      rw [readMessage, hcuts rest']
      rfl
  · cases h

/-! ## Parts before the last delimiter -/

/-- What is closed is closed before the last delimiter, so the rest of the text may be exchanged from there. -/
theorem Closes.before_delimiter {close : Char}
    {read : List Char → List Char → Except Error (α × List Char)} {t rest : List Char} {a : α}
    (h : Closes close read (t ++ [delimiter]) a rest) (hclose : close ≠ delimiter) :
    ∃ t', rest = t' ++ [delimiter] ∧ ∀ text' tail, read text' (t ++ tail) = .ok (a, t' ++ tail) := by
  obtain ⟨u, heq, hlast, hu⟩ := h
  rcases List.append_eq_append_iff.1 heq with ⟨behind, rfl, hend⟩ | ⟨t', rfl, rfl⟩
  · -- the closing character would be the delimiter
    cases behind with
    | nil =>
      refine ⟨[], ?_, ?_⟩
      · exact hend.symm
      · intro text' tail
        rw [List.append_nil] at hu
        exact hu text' tail
    | cons c behind =>
      obtain ⟨hc, hbehind⟩ := List.cons.inj hend
      obtain ⟨rfl, -⟩ := List.append_eq_nil_iff.1 hbehind.symm
      rw [← hc, List.getLast?_append] at hlast
      exact absurd (Option.some.inj hlast).symm hclose
  · refine ⟨t', rfl, ?_⟩
    intro text' tail
    rw [List.append_assoc]
    exact hu text' (t' ++ tail)

section Seam
variable {w more : List Char}

theorem head?_seam (hw : ∀ c ∈ w, Text.isBlank c = true) :
    ∃ c, (w ++ delimiter :: more).head? = some c ∧ isNameChar c = false ∧ c ≠ '<' := by
  cases w with
  | nil => exact ⟨delimiter, rfl, by decide, by decide⟩
  | cons b w =>
    have hblank := hw b (List.mem_cons_self ..)
    refine ⟨b, rfl, ?_, ?_⟩
    · rw [← Bool.not_eq_true]
      intro hname
      rw [isBlank_of_isNameChar hname] at hblank
      cases hblank
    · rintro rfl
      cases hblank

/-- Whether a name may end is known from what stands before the delimiter. -/
theorem endsName_seam (hw : ∀ c ∈ w, Text.isBlank c = true) (t : List Char) :
    endsName ((t ++ (w ++ delimiter :: more)).dropWhile Text.isBlank)
      = endsName ((t ++ [delimiter]).dropWhile Text.isBlank) := by
  induction t with
  | nil =>
    rw [List.nil_append, List.dropWhile_append_of_pos hw]
    rfl
  | cons b t ih =>
    rw [List.cons_append, List.cons_append, List.dropWhile_cons, List.dropWhile_cons]
    split
    · exact ih
    · rfl

/-- Characters of a class are taken up to a character that is not of the class. -/
theorem span_append {p : Char → Bool} {tail : List Char} {c : Char} (hhead : tail.head? = some c)
    (hc : p c = false) (t : List Char) :
    (t ++ tail).takeWhile p = t.takeWhile p ∧ (t ++ tail).dropWhile p = t.dropWhile p ++ tail := by
  induction t with
  | nil =>
    cases tail with
    | nil => cases hhead
    | cons d tail =>
      cases Option.some.inj hhead
      rw [List.nil_append, List.takeWhile_cons, List.dropWhile_cons, hc]
      exact ⟨rfl, rfl⟩
  | cons d t ih =>
    rw [List.cons_append, List.takeWhile_cons, List.dropWhile_cons, List.takeWhile_cons,
      List.dropWhile_cons]
    split
    · exact ⟨congrArg (d :: ·) ih.1, ih.2⟩
    · exact ⟨rfl, rfl⟩

theorem readName_seam (hw : ∀ c ∈ w, Text.isBlank c = true) {t rest : List Char} {name : String}
    (h : readName text (t ++ [delimiter]) = .ok (name, rest)) (text' : List Char) :
    ∃ t', rest = t' ++ [delimiter] ∧ readName text' (t ++ (w ++ delimiter :: more))
      = .ok (name, t' ++ (w ++ delimiter :: more)) := by
  obtain ⟨c, hhead, hc, -⟩ := @head?_seam w more hw
  obtain ⟨htake, hdrop⟩ := @span_append isNameChar _ c hhead hc t
  obtain ⟨htake', hdrop'⟩ := @span_append isNameChar [delimiter] delimiter rfl (by decide) t
  rw [readName, htake', hdrop'] at h
  rw [readName, htake, hdrop]
  refine ⟨t.dropWhile isNameChar, ?_⟩
  generalize t.dropWhile isNameChar = t' at h ⊢
  -- a name that reaches up to the seam ends at the delimiter, or at a blank with the delimiter behind
  have hends := @endsName_seam w more hw
  cases t' with
  | nil =>
    cases h
    refine ⟨rfl, ?_⟩
    have hnone := hends []
    cases w with
    | nil => rfl
    | cons b w =>
      have hblank := hw b (List.mem_cons_self ..)
      rw [List.nil_append, List.cons_append, List.dropWhile_cons, hblank, if_pos rfl] at hnone
      dsimp only [List.nil_append, List.cons_append]
      rw [hblank, hnone, if_pos]
      · rfl
      · exact Bool.or_true _
  | cons b t' =>
    dsimp only [List.cons_append] at h ⊢
    rw [hends t']
    split at h
    · next hend =>
      cases h
      refine ⟨rfl, ?_⟩
      rw [if_pos]
      · rfl
      · exact hend
    · cases h

theorem head?_of_message {c : Char} {s : List Char} (h : partAt? (c :: s) = some .message) :
    s.head? = some '<' := by
  rw [partAt?_cons] at h
  split at h
  · split at h
    · assumption
    · cases h
  · split at h
    · cases h
    · split at h <;> cases h

/-- A part that was read before the last delimiter is read in front of the seam. -/
theorem readPart_seam (hw : ∀ c ∈ w, Text.isBlank c = true) {part : Part} {c : Char} {t rest : List Char}
    {d d' : Draft} (hpart : partAt? (c :: (t ++ [delimiter])) = some part)
    (h : readPart strict text part (c :: (t ++ [delimiter])) d = .ok (d', rest)) (text' : List Char) :
    ∃ t', rest = t' ++ [delimiter] ∧
      readPart strict text' part (c :: (t ++ (w ++ delimiter :: more))) d
        = .ok (d', t' ++ (w ++ delimiter :: more)) := by
  cases part with
  | name =>
    obtain ⟨⟨name, after⟩, hname, h⟩ := bind_eq_ok h
    cases h
    have hname : readName text ((c :: t) ++ [delimiter]) = .ok (name, rest) := hname
    obtain ⟨t', hrest, hname'⟩ := readName_seam hw hname text'
    refine ⟨t', hrest, ?_⟩
    rw [List.cons_append] at hname'
    rw [readPart_eq_bind]
    dsimp only
    rw [hname']
    rfl
  | arguments =>
    obtain ⟨⟨values, after⟩, hvalues, h⟩ := bind_eq_ok h
    cases h
    obtain ⟨t', hrest, hvalues'⟩ := (closes_readArguments hvalues).before_delimiter (by decide)
    refine ⟨t', hrest, ?_⟩
    rw [readPart_eq_bind]
    dsimp only
    rw [List.drop_one, List.tail_cons, hvalues']
    rfl
  | groups =>
    obtain ⟨⟨groups, after⟩, hgroups, h⟩ := bind_eq_ok h
    cases h
    obtain ⟨t', hrest, hgroups'⟩ := (closes_readGroups hgroups).before_delimiter (by decide)
    refine ⟨t', hrest, ?_⟩
    have hgroups' : readGroups strict text' [] [] false (t ++ (w ++ delimiter :: more))
        = .ok (groups, t' ++ (w ++ delimiter :: more)) := hgroups' text' _
    rw [readPart_eq_bind]
    dsimp only
    rw [List.drop_one, List.tail_cons, hgroups']
    rfl
  | message =>
    obtain ⟨⟨message, after⟩, hmessage, h⟩ := bind_eq_ok h
    cases h
    -- the second bracket stands before the delimiter
    obtain ⟨t, rfl⟩ : ∃ t₁, t = '<' :: t₁ := by
      have hhead := head?_of_message hpart
      cases t with
      | nil => exact absurd (Option.some.inj hhead) (by decide)
      | cons b t =>
        cases Option.some.inj hhead
        exact ⟨t, rfl⟩
    obtain ⟨t', hrest, hmessage'⟩ := (closes_readMessage hmessage).before_delimiter (by decide)
    refine ⟨t', hrest, ?_⟩
    rw [readPart_eq_bind]
    dsimp only
    rw [List.cons_append, List.drop_succ_cons, List.drop_succ_cons, List.drop_zero, hmessage']
    rfl

/-- Which part starts at a character is known from what stands before the delimiter. -/
theorem partAt?_seam (hw : ∀ c ∈ w, Text.isBlank c = true) (c : Char) (t : List Char) :
    partAt? (c :: (t ++ (w ++ delimiter :: more))) = partAt? (c :: (t ++ [delimiter])) := by
  rw [partAt?_cons, partAt?_cons]
  cases t with
  | cons b t => rfl
  | nil =>
    obtain ⟨e, hhead, -, hbracket⟩ := @head?_seam w more hw
    have hnone : ¬some e = some '<' := fun h => hbracket (Option.some.inj h)
    have hdelimiter : ¬[delimiter].head? = some '<' := by decide
    rw [List.nil_append, List.nil_append, hhead, if_neg hnone, if_neg hdelimiter]

/-! ## Fragments -/

/-- Where the end of a fragment does not fail, the text as a whole does not matter. -/
theorem finish_anywhere {d : Draft} {f : Fragment} (h : finish strict text d = .ok f)
    (text' : List Char) : finish strict text' d = .ok f := by
  unfold finish at h ⊢
  split at h
  · cases h
  · dsimp only at h ⊢
    split at h
    · cases h
    · next hname =>
      rw [if_neg hname]
      split at h
      · cases h
      · next horder =>
        rw [if_neg horder]
        exact h

/-- Where only the last delimiter is left, the fragment ends, and the other text begins. -/
theorem passes_seam_end (hw : ∀ c ∈ w, Text.isBlank c = true) (text' : List Char) {fuel : Nat}
    {draft? : Option Draft} {fs : List Fragment} (hfuel : 0 < fuel)
    (h : readFragments strict text (fuel + 1) draft? [delimiter] = .ok fs) :
    Passes strict text' ⟨draft?, w ++ delimiter :: more⟩ fs ⟨none, more⟩ := by
  rw [readFragments_delimiter] at h
  have hend : ∀ fs', readFragments strict text fuel none [] = .ok fs' → fs' = [] := by
    intro fs' h
    rw [Reads.nil none fuel hfuel] at h
    exact (Except.ok.inj h).symm
  apply Passes.blanks hw
  cases draft? with
  | none =>
    rw [hend fs h]
    exact .delimiter (.here _)
  | some d =>
    obtain ⟨f, hf, h⟩ := bind_eq_ok h
    obtain ⟨fs', hrest, h⟩ := bind_eq_ok h
    cases h
    rw [hend fs' hrest]
    exact .finished (finish_anywhere hf text') (.here _)

/-- **What was read up to a last delimiter is passed in front of any other text**, with blanks before the
delimiter or without. -/
theorem passes_seam (hw : ∀ c ∈ w, Text.isBlank c = true) (text' : List Char) {fuel : Nat}
    {draft? : Option Draft} {t : List Char} {fs : List Fragment} (hfuel : (t ++ [delimiter]).length < fuel)
    (h : readFragments strict text fuel draft? (t ++ [delimiter]) = .ok fs) :
    Passes strict text' ⟨draft?, t ++ (w ++ delimiter :: more)⟩ fs ⟨none, more⟩ := by
  -- every step takes a character, so the text before the delimiter becomes shorter
  induction fuel generalizing draft? t fs with
  | zero => exact absurd hfuel (Nat.not_lt_zero _)
  | succ fuel ih =>
    cases t with
    | nil => exact passes_seam_end hw text' (Nat.lt_of_succ_lt_succ hfuel) h
    | cons c t =>
      have hfuel : (t ++ [delimiter]).length < fuel := Nat.lt_of_succ_lt_succ hfuel
      by_cases hc : c = delimiter
      · rw [hc, List.cons_append, readFragments_delimiter] at h
        rw [hc]
        cases draft? with
        | none => exact .delimiter (ih hfuel h)
        | some d =>
          obtain ⟨f, hf, h⟩ := bind_eq_ok h
          obtain ⟨fs', hrest, h⟩ := bind_eq_ok h
          cases h
          exact .finished (finish_anywhere hf text') (ih hfuel hrest)
      · rw [List.cons_append, readFragments_cons hc] at h
        rw [List.cons_append]
        cases hpart : partAt? (c :: (t ++ [delimiter])) with
        | none =>
          rw [hpart] at h
          exact .skipped hc (by rw [partAt?_seam hw, hpart]) (ih hfuel h)
        | some part =>
          rw [hpart] at h
          obtain ⟨⟨d, rest⟩, hread, h⟩ := bind_eq_ok h
          have hlength := length_readPart hpart hread
          obtain ⟨t', rfl, hread'⟩ : ∃ t', rest = t' ++ [delimiter] ∧
              readPart strict text' part (c :: (t ++ (w ++ delimiter :: more))) (draft?.getD {})
                = .ok (d, t' ++ (w ++ delimiter :: more)) := readPart_seam hw hpart hread text'
          simp only [List.length_append, List.length_cons, List.length_nil] at hlength hfuel
          have hpart' := (@partAt?_seam w more hw c t).trans hpart
          have hshorter : (t' ++ [delimiter]).length < fuel := by
            simp only [List.length_append, List.length_cons, List.length_nil]
            omega
          exact .part hc hpart' hread' (ih hshorter h)

end Seam

/-! ## Rule texts -/

section Texts
variable {r r₁ r₂ key key₁ key₂ : String} {fs fs₁ fs₂ : List Fragment}

/-- What a rule text is cleaned to ends with a delimiter, which is the last one of the text without the blanks
around it, or is put behind that. -/
theorem clean_eq_ok (h : clean (some r) = .ok key) :
    Text.trim r.toList ≠ [] ∧ ∃ t, key.toList = t ++ [delimiter] ∧
      (Text.trim r.toList = t ++ [delimiter] ∨ Text.trim r.toList = t ∧ t.getLast? ≠ some delimiter) := by
  unfold clean at h
  dsimp only at h
  split at h
  · cases h
  · next hempty =>
    refine ⟨by simpa using hempty, ?_⟩
    split at h
    · next hlast =>
      cases h
      obtain ⟨t, ht⟩ := List.getLast?_eq_some_iff.1 (eq_of_beq hlast)
      exact ⟨t, by rw [String.toList_ofList, ht], .inl ht⟩
    · next hlast =>
      cases h
      exact ⟨Text.trim r.toList, String.toList_ofList, .inr ⟨rfl, by simpa using hlast⟩⟩

/-- A text with blanks around it is cleaned to the same as without. -/
theorem clean_eq {s : List Char} (hs : Text.trim r.toList = s) (hne : s ≠ []) :
    clean (some r) = .ok (String.ofList (if s.getLast? = some delimiter then s else s ++ [delimiter])) := by
  have hempty : ¬s.isEmpty = true := by simpa using hne
  unfold clean
  dsimp only
  rw [hs, if_neg hempty]
  by_cases hlast : s.getLast? = some delimiter
  · rw [if_pos (by simpa using hlast), if_pos hlast]
    rfl
  · rw [if_neg (by simpa using hlast), if_neg hlast]
    rfl

/-- A text that has been cleaned is clean. -/
theorem clean_key (h : clean (some r) = .ok key) : clean (some key) = .ok key := by
  obtain ⟨hne, t, ht, hend⟩ := clean_eq_ok h
  have hlast : key.toList.getLast? = some delimiter := by
    rw [ht, List.getLast?_concat]
  have htrim : Text.trim key.toList = key.toList := by
    apply Text.trim_eq_self
    · intro c hc
      apply @Text.head?_trim c r.toList
      rcases hend with hend | ⟨hend, -⟩
      · rw [hend, ← ht]
        exact hc
      · rw [hend] at hne ⊢
        rw [ht, List.head?_append, List.head?_eq_some_head hne, Option.some_or] at hc
        rw [List.head?_eq_some_head hne]
        exact hc
    · intro c hc
      rw [hlast] at hc
      cases Option.some.inj hc
      decide
  have hnonempty : key.toList ≠ [] := by
    rw [ht]
    exact List.append_ne_nil_of_right_ne_nil t (List.cons_ne_nil _ _)
  rw [clean_eq htrim hnonempty, if_pos hlast, String.ofList_toList]

/-- Joined, two texts are cleaned to the first one without the blanks around it, the blanks around the delimiter,
and what the second one is cleaned to. -/
theorem clean_join (h₁ : clean (some r₁) = .ok key₁) (h₂ : clean (some r₂) = .ok key₂) :
    ∃ w w', (∀ c ∈ w, Text.isBlank c = true) ∧ (∀ c ∈ w', Text.isBlank c = true) ∧
      clean (some (r₁ ++ ";" ++ r₂)) = .ok (String.ofList
        (Text.trim r₁.toList ++ (w ++ delimiter :: (w' ++ key₂.toList)))) := by
  obtain ⟨hne₁, -⟩ := clean_eq_ok h₁
  obtain ⟨hne₂, t₂, ht₂, hend₂⟩ := clean_eq_ok h₂
  obtain ⟨before₁, w, hbefore₁, hw, heq₁⟩ := Text.exists_trim r₁.toList
  obtain ⟨w', after₂, hw', hafter₂, heq₂⟩ := Text.exists_trim r₂.toList
  have hlist : (r₁ ++ ";" ++ r₂).toList = before₁ ++
      (Text.trim r₁.toList ++ (w ++ delimiter :: (w' ++ Text.trim r₂.toList))) ++ after₂ := by
    have hjoin : (r₁ ++ ";" ++ r₂).toList = r₁.toList ++ delimiter :: r₂.toList := by
      simp [delimiter]
    rw [hjoin]
    conv_lhs => rw [heq₁, heq₂]
    simp only [List.append_assoc, List.cons_append]
  -- both ends of the joined text are those of the two texts, so nothing more is trimmed off
  have hlast : (Text.trim r₁.toList ++ (w ++ delimiter :: (w' ++ Text.trim r₂.toList))).getLast?
      = (Text.trim r₂.toList).getLast? := by
    have hassoc : Text.trim r₁.toList ++ (w ++ delimiter :: (w' ++ Text.trim r₂.toList))
        = (Text.trim r₁.toList ++ (w ++ delimiter :: w')) ++ Text.trim r₂.toList := by
      simp only [List.append_assoc, List.cons_append]
    rw [hassoc, List.getLast?_append, List.getLast?_eq_some_getLast hne₂, Option.some_or]
  have htrim : Text.trim (r₁ ++ ";" ++ r₂).toList
      = Text.trim r₁.toList ++ (w ++ delimiter :: (w' ++ Text.trim r₂.toList)) := by
    rw [hlist]
    apply Text.trim_append hbefore₁ hafter₂
    · intro c hc
      rw [List.append_assoc, List.head?_append, List.head?_eq_some_head hne₁, Option.some_or] at hc
      rw [← List.head?_eq_some_head hne₁] at hc
      exact Text.head?_trim hc
    · rw [hlast]
      exact fun c hc => Text.getLast?_trim hc
  refine ⟨w, w', hw, hw', ?_⟩
  rw [clean_eq htrim (List.append_ne_nil_of_left_ne_nil hne₁ _), hlast, ht₂]
  rcases hend₂ with hend | ⟨hend, hopen⟩
  · rw [hend, if_pos List.getLast?_concat]
  · rw [hend, if_neg hopen]
    simp only [List.append_assoc, List.cons_append]

theorem parse_eq (h : clean (some r) = .ok key) :
    parse strict (some r) = readFragments strict key.toList (key.toList.length + 1) none key.toList := by
  rw [parse_eq_bind, h]
  rfl

theorem parse_eq_ok (h : parse strict (some r) = .ok fs) :
    ∃ key, clean (some r) = .ok key ∧
      readFragments strict key.toList (key.toList.length + 1) none key.toList = .ok fs :=
  bind_eq_ok h

/-- A cleaned text that is read is passed from its start to its end, whatever the text as a whole is. -/
theorem passes_key (h : clean (some r) = .ok key) {fuel : Nat} (hfuel : key.toList.length < fuel)
    (hread : readFragments strict text fuel none key.toList = .ok fs) (text' : List Char) :
    Passes strict text' ⟨none, key.toList⟩ fs ⟨none, []⟩ := by
  obtain ⟨-, t, ht, -⟩ := clean_eq_ok h
  have hnone : ∀ c ∈ ([] : List Char), Text.isBlank c = true := fun _ h => nomatch h
  rw [ht] at hread hfuel ⊢
  exact passes_seam hnone text' hfuel hread

/-- In front of a second text, a text that is read is passed up to that. -/
theorem passes_join (h₁ : parse strict (some r₁) = .ok fs₁) (h₂ : clean (some r₂) = .ok key₂) :
    ∃ whole, clean (some (r₁ ++ ";" ++ r₂)) = .ok whole ∧
      Passes strict whole.toList ⟨none, whole.toList⟩ fs₁ ⟨none, key₂.toList⟩ := by
  obtain ⟨key₁, hkey₁, h₁⟩ := parse_eq_ok h₁
  obtain ⟨w, w', hw, hw', hjoined⟩ := clean_join hkey₁ h₂
  obtain ⟨-, t₁, ht₁, hend₁⟩ := clean_eq_ok hkey₁
  have hfuel : key₁.toList.length < key₁.toList.length + 1 := Nat.lt_succ_self _
  have hnone : ∀ c ∈ ([] : List Char), Text.isBlank c = true := fun _ h => nomatch h
  refine ⟨_, hjoined, ?_⟩
  rw [String.toList_ofList]
  -- the blanks before the second text are skipped
  have hblanks : ∀ whole, Passes strict whole ⟨none, w' ++ key₂.toList⟩ [] ⟨none, key₂.toList⟩ :=
    fun whole => Passes.blanks hw' (.here _)
  rw [ht₁] at h₁ hfuel
  rw [← List.append_nil fs₁]
  rcases hend₁ with hend | ⟨hend, -⟩
  · -- the first text has a delimiter of its own, and another one stands behind it
    rw [hend, List.append_assoc, List.singleton_append]
    exact (passes_seam hnone _ hfuel h₁).trans (Passes.blanks hw (hblanks _).delimiter)
  · rw [hend]
    exact (passes_seam hw _ hfuel h₁).trans (hblanks _)

/-- **Two rule texts in one.** If two texts are read, the text of both with a delimiter between them is read as
the fragments of the first one and then those of the second one. -/
theorem parse_join (h₁ : parse strict (some r₁) = .ok fs₁) (h₂ : parse strict (some r₂) = .ok fs₂) :
    parse strict (some (r₁ ++ ";" ++ r₂)) = .ok (fs₁ ++ fs₂) := by
  obtain ⟨key₂, hkey₂, h₂⟩ := parse_eq_ok h₂
  obtain ⟨whole, hwhole, hfirst⟩ := passes_join h₁ hkey₂
  have hsecond := passes_key hkey₂ (Nat.lt_succ_self _) h₂ whole.toList
  rw [parse_eq hwhole]
  exact (hfirst.trans hsecond).reads _ (Nat.lt_succ_self _)

/-- **Reading distributes over delimiters.** Behind a text that is read, a delimiter and a second text that is not
blank, all is read exactly if the second text is read, and gives the fragments of the first one and then those of
the second one. -/
theorem parse_join_iff {strict : Bool} {r₁ r₂ : String} {fs₁ : List Fragment}
    (h₁ : parse strict (some r₁) = .ok fs₁) (h₂ : Text.trim r₂.toList ≠ []) (fs : List Fragment) :
    parse strict (some (r₁ ++ ";" ++ r₂)) = .ok fs ↔
      ∃ fs₂, parse strict (some r₂) = .ok fs₂ ∧ fs = fs₁ ++ fs₂ := by
  constructor
  · intro h
    obtain ⟨key₂, hkey₂⟩ : ∃ key₂, clean (some r₂) = .ok key₂ := ⟨_, clean_eq rfl h₂⟩
    obtain ⟨whole, hwhole, hfirst⟩ := passes_join h₁ hkey₂
    rw [parse_eq hwhole] at h
    -- what is left of the reading is that of the second text
    obtain ⟨fuel, fs₂, hfuel, hread, hfs⟩ := hfirst.exists_read (Nat.lt_succ_self _) h
    refine ⟨fs₂, ?_, hfs⟩
    rw [parse_eq hkey₂]
    exact (passes_key hkey₂ hfuel hread _).reads _ (Nat.lt_succ_self _)
  · rintro ⟨fs₂, h₂, rfl⟩
    exact parse_join h₁ h₂

/-- Behind delimiters in a pattern and in a message and one at the end, a text is read or not as it is alone. -/
theorem parse_join_iff_openGroups : ∃ fs₁ fs₂,
    parse false (some "pattern(/[;]/)<<a; b>> ;") = .ok fs₁ ∧
    Text.trim " max(3)<g>".toList ≠ [] ∧ parse false (some " max(3)<g>") = .ok fs₂ ∧
    parse false (some ("pattern(/[;]/)<<a; b>> ;" ++ ";" ++ " max(3)<g>")) = .ok (fs₁ ++ fs₂) ∧
    Text.trim "max(3)<g".toList ≠ [] ∧
    ∀ fs, parse false (some ("pattern(/[;]/)<<a; b>> ;" ++ ";" ++ "max(3)<g")) ≠ .ok fs := by
  have hfirst : failure? (parse false (some "pattern(/[;]/)<<a; b>> ;")) = none := by decide +kernel
  have hsecond : failure? (parse false (some " max(3)<g>")) = none := by decide +kernel
  have hopen : failure? (parse false (some "max(3)<g"))
      = some (.rule (.groupsOpen "max(3)<g" "max(3)<g;")) := by
    decide +kernel
  obtain ⟨fs₁, h₁⟩ := exists_ok_of_failure? hfirst
  obtain ⟨fs₂, h₂⟩ := exists_ok_of_failure? hsecond
  refine ⟨fs₁, fs₂, h₁, by decide, h₂, ?_, by decide, ?_⟩
  · exact (parse_join_iff h₁ (by decide) _).2 ⟨fs₂, h₂, rfl⟩
  · intro fs h
    obtain ⟨fs', h', -⟩ := (parse_join_iff h₁ (by decide) fs).1 h
    rw [eq_error_of_failure? hopen] at h'
    cases h'

end Texts

end FieldRules.Rule
