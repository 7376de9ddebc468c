import FieldRules.Proofs.Expr.Spacing
import FieldRules.Proofs.Rule.Joining
import FieldRules.Proofs.Rule.RoundTrip
import FieldRules.Proofs.Rule.Strictness

/-!
# Blanks in argument lists

The arguments of a rule are read without the blanks outside of their quoted strings (`compact`). So `x(s)` stands for
the values of the list `s` without these blanks, whatever they part. Where no token reaches over the places that they
have stood at (`spaced`), these are the values of `s` itself (`parse_arguments`); elsewhere they need not be, as in
`true and false` or in `1 2`.
-/

namespace FieldRules.Rule

open FieldRules.Expr (isQuote)

variable {strict : Bool} {text : List Char}

/-! ## Lists -/

/-- Where a reader of arguments is behind a character. -/
def Mode.next (m : Mode) (c : Char) : Mode :=
  match m with
  | .plain => if isQuote c then .quoted c false else .plain
  | .quoted quote escaped =>
    if escaped then .quoted quote false
    else if c == '\\' then .quoted quote true
    else if c == quote then .plain
    else .quoted quote false
  | .pattern source => .pattern source

/-- Whether a character may stand in a list: outside of quoted strings no slash and no closing parenthesis, and in
them no bare quote of the other kind. -/
def Mode.admits (m : Mode) (c : Char) : Bool :=
  match m with
  | .plain => c != '/' && c != ')'
  | .quoted quote escaped => escaped || !isQuote c || c == quote
  | .pattern _ => false

/-- Whether the rest of a text is a list whose quoted strings are all closed. -/
def enclosed (m : Mode) : List Char → Bool
  | [] => m == .plain
  | c :: s => m.admits c && enclosed (m.next c) s

/-- The rest of a list without the blanks outside of its quoted strings. -/
def compact (m : Mode) : List Char → List Char
  | [] => []
  | c :: s => if m == .plain && Text.isBlank c then compact m s else c :: compact (m.next c) s

/-- Whether no token reaches over a gap in the rest of a list, which stands behind the given text without its gaps,
taken from its end; and whether lines end in quoted strings only, with line feeds. -/
def spaced (m : Mode) (before : List Char) : List Char → Bool
  | [] => true
  | c :: s =>
    c != '\r' && if m == .plain && Text.isBlank c then
      c != '\n' && Expr.apart before (s.dropWhile Text.isBlank) && spaced m before s
    else spaced (m.next c) (c :: before) s

/-! ## Characters of lists -/

section Characters
variable {m : Mode} {quote c : Char} {escaped : Bool}

/-- Blanks between quoted strings open none. -/
theorem next_blank (hblank : Text.isBlank c = true) : Mode.next .plain c = .plain := by
  have hquote : ¬isQuote c = true := by
    intro hquote
    rw [Expr.isBlank_of_isQuote hquote] at hblank
    cases hblank
  rw [Mode.next, if_neg hquote]

/-- The backslash whose character is to come. -/
def pending (escaped : Bool) : List Char :=
  if escaped then ['\\'] else []

/-- A character of a quoted string closes it, or the string goes on behind it. -/
theorem next_quoted (quote : Char) (escaped : Bool) (c : Char) :
    (Mode.next (.quoted quote escaped) c = .plain ∧ escaped = false ∧ c = quote) ∨
      ∃ escaped', Mode.next (.quoted quote escaped) c = .quoted quote escaped' ∧ ∀ s body,
        Expr.takeQuoted quote (pending escaped' ++ s) = some (pending escaped' ++ body, []) →
          Expr.takeQuoted quote (pending escaped ++ c :: s) = some (pending escaped ++ c :: body, []) := by
  rw [Mode.next]
  cases escaped with
  | true =>
    refine .inr ⟨false, if_pos rfl, fun s body h => ?_⟩
    have hs : Expr.takeQuoted quote s = some (body, []) := h
    show Expr.takeQuoted quote ('\\' :: c :: s) = _
    rw [Expr.takeQuoted_escape, hs]
    rfl
  | false =>
    rw [if_neg Bool.false_ne_true]
    by_cases hslash : (c == '\\') = true
    · obtain rfl : c = '\\' := eq_of_beq hslash
      exact .inr ⟨true, if_pos hslash, fun s body h => h⟩
    rw [if_neg hslash]
    by_cases hquote : (c == quote) = true
    · exact .inl ⟨if_pos hquote, rfl, eq_of_beq hquote⟩
    refine .inr ⟨false, if_neg hquote, fun s body h => ?_⟩
    have hs : Expr.takeQuoted quote s = some (body, []) := h
    show Expr.takeQuoted quote (c :: s) = _
    rw [Expr.takeQuoted_plain (by simpa using hquote) (by simpa using hslash), hs]
    rfl

theorem compact_next (hkept : (m == .plain && Text.isBlank c) = false) (s : List Char) :
    compact m (c :: s) = c :: compact (m.next c) s := by
  rw [compact, hkept, if_neg Bool.false_ne_true]

theorem compact_blank (hblank : Text.isBlank c = true) (s : List Char) :
    compact .plain (c :: s) = compact .plain s := by
  rw [compact, hblank]
  rfl

theorem spaced_next {before s : List Char} (hkept : (m == .plain && Text.isBlank c) = false)
    (h : spaced m before (c :: s) = true) : spaced (m.next c) (c :: before) s = true := by
  rw [spaced, hkept, if_neg Bool.false_ne_true, Bool.and_eq_true] at h
  exact h.2

theorem spaced_blank {before s : List Char} (hblank : Text.isBlank c = true)
    (h : spaced .plain before (c :: s) = true) :
    c ≠ '\n' ∧ Expr.apart before (s.dropWhile Text.isBlank) = true ∧ spaced .plain before s = true := by
  rw [spaced, hblank, Bool.and_eq_true] at h
  obtain ⟨-, h⟩ := h
  change (c != '\n' && Expr.apart before (s.dropWhile Text.isBlank) && spaced .plain before s) = true at h
  rw [Bool.and_eq_true, Bool.and_eq_true, bne_iff_ne] at h
  exact ⟨h.1.1, h.1.2, h.2⟩

end Characters

/-! ## Gathering -/

section Gathering
variable {m : Mode} {c : Char}

/-- Blanks between quoted strings are left out. -/
theorem gather_blank (hblank : Text.isBlank c = true) (g : Gathered) (rest : List Char) :
    gather text .plain g (c :: rest) = gather text .plain g rest := by
  have hne : ∀ d, Text.isBlank d = false → ¬(c == d) = true := by
    intro d hd heq
    rw [eq_of_beq heq, hd] at hblank
    cases hblank
  rw [gather, if_neg (hne ')' rfl), if_neg (hne '/' rfl), if_neg (by simp [hne '\'' rfl, hne '"' rfl]), if_pos hblank]

/-- All other characters that a list may have are copied. -/
theorem gather_next (h : m.admits c = true) (hkept : (m == .plain && Text.isBlank c) = false) (g : Gathered)
    (rest : List Char) : gather text m g (c :: rest) = gather text (m.next c) (g.push c) rest := by
  cases m with
  | plain =>
    rw [Mode.admits, Bool.and_eq_true] at h
    have hblank : Text.isBlank c = false := hkept
    rw [gather, if_neg (by simpa using h.2), if_neg (by simpa using h.1), Mode.next]
    by_cases hquote : isQuote c = true
    · rw [if_pos hquote]
      exact if_pos hquote
    · rw [if_neg hquote, hblank, if_neg Bool.false_ne_true]
      exact if_neg hquote
  | quoted quote escaped =>
    rw [gather, Mode.next]
    cases escaped with
    | true => rfl
    | false =>
      rw [if_neg Bool.false_ne_true, if_neg Bool.false_ne_true]
      by_cases hslash : (c == '\\') = true
      · rw [if_pos hslash, if_pos hslash]
      rw [if_neg hslash, if_neg hslash]
      by_cases hquote : (c == quote) = true
      · rw [if_pos hquote, if_pos hquote]
      rw [if_neg hquote, if_neg hquote]
      refine if_neg fun hother => hquote ?_
      rw [Mode.admits, show isQuote c = true from hother] at h
      simpa using h
  | pattern => cases h

/-- Arguments are gathered without the blanks outside of their quoted strings. -/
theorem gather_compact {s : List Char} (h : enclosed m s = true) (g : Gathered) (rest : List Char) :
    gather text m g (s ++ ')' :: rest) = .ok (g.append (compact m s) [], rest) := by
  induction s generalizing m g with
  | nil =>
    obtain rfl : m = .plain := eq_of_beq h
    rw [compact, Gathered.append_nil]
    rfl
  | cons c s ih =>
    rw [enclosed, Bool.and_eq_true] at h
    rw [List.cons_append]
    cases hgap : m == .plain && Text.isBlank c with
    | true =>
      rw [Bool.and_eq_true] at hgap
      obtain rfl : m = .plain := eq_of_beq hgap.1
      rw [next_blank hgap.2] at h
      rw [gather_blank hgap.2, compact_blank hgap.2, ih h.2]
    | false => rw [gather_next h.1 hgap, compact_next hgap, ih h.2, Gathered.push_append]

end Gathering

theorem readArguments_compact {s : List Char} (h : enclosed .plain s = true) (rest : List Char) :
    readArguments text (s ++ ')' :: rest)
      = (fun vs => (vs, rest)) <$> resolveArguments (String.ofList (compact .plain s)) [] := by
  rw [readArguments_of_gather (gather_compact h {} rest), Gathered.reverse_buffer]
  rfl

/-! ## Gaps -/

theorem mem_of_mem_compact {m : Mode} {s : List Char} {c : Char} (h : c ∈ compact m s) : c ∈ s := by
  induction s generalizing m with
  | nil => cases h
  | cons d s ih =>
    rw [compact] at h
    split at h
    · exact List.mem_cons_of_mem d (ih h)
    · rcases List.mem_cons.1 h with rfl | h
      · exact List.mem_cons_self ..
      · exact List.mem_cons_of_mem d (ih h)

theorem not_mem_of_spaced {m : Mode} {before s : List Char} (h : spaced m before s = true) : '\r' ∉ s := by
  induction s generalizing m before with
  | nil => exact List.not_mem_nil
  | cons c s ih =>
    rw [spaced, Bool.and_eq_true] at h
    obtain ⟨hreturn, h⟩ := h
    rw [List.mem_cons, not_or]
    refine ⟨fun heq => by simp [← heq] at hreturn, ?_⟩
    split at h
    · rw [Bool.and_eq_true] at h
      exact ih h.2
    · exact ih h

/-- Behind its opening quote, a quoted string is read up to its closing one. -/
theorem exists_closed {quote : Char} {escaped : Bool} {s : List Char}
    (h : enclosed (.quoted quote escaped) s = true) :
    ∃ body s', s = body ++ quote :: s' ∧
      Expr.takeQuoted quote (pending escaped ++ (body ++ [quote])) = some (pending escaped ++ body, []) ∧
      enclosed .plain s' = true ∧
      compact (.quoted quote escaped) s = body ++ quote :: compact .plain s' ∧
      ∀ before, spaced (.quoted quote escaped) before s = true →
        spaced .plain ((body ++ [quote]).reverse ++ before) s' = true := by
  induction s generalizing escaped with
  | nil => cases h
  | cons c s ih =>
    rw [enclosed, Bool.and_eq_true] at h
    obtain ⟨-, h⟩ := h
    have hcompact := @compact_next (.quoted quote escaped) c rfl s
    have hspaced := fun before => @spaced_next (.quoted quote escaped) c before s rfl
    -- The character closes the string, or it goes on with the character behind.
    rcases next_quoted quote escaped c with ⟨hnext, rfl, rfl⟩ | ⟨escaped', hnext, htake⟩
    · rw [hnext] at h hcompact hspaced
      refine ⟨[], s, rfl, ?_, h, hcompact, hspaced⟩
      show Expr.takeQuoted c [c] = some ([], [])
      rw [Expr.takeQuoted]
      · exact if_pos (beq_self_eq_true c)
      · exact fun _ _ _ hnil => List.cons_ne_nil _ _ hnil.symm
    · rw [hnext] at h hcompact hspaced
      obtain ⟨body, s', rfl, hbody, hs', hmore, hrest⟩ := ih h
      refine ⟨c :: body, s', rfl, htake _ body hbody, hs', ?_, fun before hs => ?_⟩
      · rw [hcompact, hmore, List.cons_append]
      · have hrest := hrest _ (hspaced before hs)
        rwa [List.cons_append, List.reverse_cons, List.append_assoc]

section Blanks
variable {c : Char} {s before : List Char}

/-- No token reaches over a gap at the start of a list, and behind it the list goes on. -/
theorem spaced_dropWhile (h : spaced .plain before s = true) :
    (∀ c ∈ s.takeWhile Text.isBlank, Text.isBlank c = true ∧ c ≠ '\n') ∧
      spaced .plain before (s.dropWhile Text.isBlank) = true := by
  induction s with
  | nil => exact ⟨nofun, h⟩
  | cons c s ih =>
    rw [List.takeWhile_cons, List.dropWhile_cons]
    by_cases hblank : Text.isBlank c = true
    · obtain ⟨hline, -, h⟩ := spaced_blank hblank h
      obtain ⟨hblanks, hrest⟩ := ih h
      rw [if_pos hblank, if_pos hblank]
      exact ⟨List.forall_mem_cons.2 ⟨⟨hblank, hline⟩, hblanks⟩, hrest⟩
    · rw [if_neg hblank, if_neg hblank]
      exact ⟨nofun, h⟩

theorem enclosed_dropWhile (h : enclosed .plain s = true) :
    enclosed .plain (s.dropWhile Text.isBlank) = true := by
  induction s with
  | nil => exact h
  | cons c s ih =>
    rw [List.dropWhile_cons]
    by_cases hblank : Text.isBlank c = true
    · rw [enclosed, Bool.and_eq_true, next_blank hblank] at h
      rw [if_pos hblank]
      exact ih h.2
    · rwa [if_neg hblank]

theorem compact_dropWhile (s : List Char) :
    compact .plain (s.dropWhile Text.isBlank) = compact .plain s := by
  induction s with
  | nil => rfl
  | cons c s ih =>
    rw [List.dropWhile_cons]
    split
    · next hblank => rw [ih, compact_blank hblank]
    · rfl

/-- Only the first character behind a place matters there. -/
theorem apart_cons (before : List Char) (c : Char) (s t : List Char) :
    Expr.apart before (c :: s) = Expr.apart before (c :: t) := by
  cases before <;> rfl

theorem parted_bracket (q : List Char) : Expr.Parted q [']'] := by
  refine ⟨?_, ?_, ?_, ?_, ?_⟩
  · rintro a _ _ ⟨⟩ _
    rfl
  · rintro a _ _ ⟨⟩
    rw [← Bool.not_eq_true]
    intro hlong
    rcases Expr.eq_of_longSign hlong with h | h | h <;> cases h
  · rintro a _ _ ⟨⟩ _
    exact ⟨by decide, by decide⟩
  · rintro e a _ _ ⟨⟩ _ _
    rfl
  · rintro a _ _ ⟨⟩ _
    decide

/-- What stands behind a gap is parted from the text in front of it. -/
theorem parted_behind_gap {q : List Char}
    (hapart : Expr.apart (q.reverse ++ before) (s.dropWhile Text.isBlank) = true) :
    (∀ d ∈ (s.dropWhile Text.isBlank ++ [']']).head?, Text.isBlank d = false) ∧
      Expr.Parted q (compact .plain (s.dropWhile Text.isBlank) ++ [']']) := by
  have hfirst := List.head?_dropWhile_not Text.isBlank s
  cases hmore : s.dropWhile Text.isBlank with
  | nil =>
    refine ⟨?_, parted_bracket q⟩
    rintro _ ⟨⟩
    rfl
  | cons d t =>
    rw [hmore] at hfirst hapart
    refine ⟨?_, ?_⟩
    · rintro _ ⟨⟩
      exact hfirst
    · rw [@compact_next .plain _ hfirst]
      exact Expr.parted_of_apart ((apart_cons _ d _ _).trans hapart)

/-- A gap behind a text without gaps is left out as a whole. -/
theorem squeezed_gap {q : List Char} (hq : Expr.Solid q) (hblank : Text.isBlank c = true)
    (hspaced : spaced .plain (q.reverse ++ before) (c :: s) = true)
    (hmore : Expr.Squeezed (s.dropWhile Text.isBlank ++ [']'])
      (compact .plain (s.dropWhile Text.isBlank) ++ [']'])) :
    Expr.Squeezed (q ++ (c :: s ++ [']'])) (q ++ (compact .plain (c :: s) ++ [']'])) := by
  obtain ⟨hblanks, -⟩ := spaced_dropWhile hspaced
  obtain ⟨-, hapart, -⟩ := spaced_blank hblank hspaced
  have hwidth : (c :: s).takeWhile Text.isBlank ≠ [] := by
    rw [List.takeWhile_cons, if_pos hblank]
    exact List.cons_ne_nil _ _
  have hsplit := List.takeWhile_append_dropWhile (p := Text.isBlank) (l := c :: s)
  rw [List.dropWhile_cons, if_pos hblank] at hsplit
  obtain ⟨hfirst, hparted⟩ := parted_behind_gap hapart
  have hsqueezed := Expr.Squeezed.gap hq hwidth hblanks hfirst hparted hmore
  rwa [← List.append_assoc (List.takeWhile _ _), hsplit, compact_dropWhile, ← compact_blank hblank] at hsqueezed

/-- Behind a text without gaps, a list goes on as it does without its own gaps. -/
theorem squeezed_append {q : List Char} (hq : Expr.Solid q) (hs : enclosed .plain s = true)
    (hspaced : spaced .plain (q.reverse ++ before) s = true) :
    Expr.Squeezed (q ++ (s ++ [']'])) (q ++ (compact .plain s ++ [']'])) := by
  -- On the length, as a gap and a quoted string are passed by as a whole.
  induction hn : s.length using Nat.strongRecOn generalizing q s before with
  | _ n ih
  subst hn
  obtain _ | ⟨c, s⟩ := s
  · exact .solid (hq.append (.plain rfl rfl .nil))
  cases hblank : Text.isBlank c with
  | true =>
    have hdrop : (c :: s).dropWhile Text.isBlank = s.dropWhile Text.isBlank := by
      rw [List.dropWhile_cons, if_pos hblank]
    have hrest := (spaced_dropWhile hspaced).2
    have hs := enclosed_dropWhile hs
    rw [hdrop] at hs hrest
    have hmore := ih _ (Nat.lt_succ_of_le (List.dropWhile_suffix _).length_le) .nil hs hrest rfl
    exact squeezed_gap hq hblank hspaced hmore
  | false =>
    rw [@compact_next .plain _ hblank]
    have hspaced := @spaced_next .plain _ _ _ hblank hspaced
    rw [enclosed, Bool.and_eq_true] at hs
    obtain ⟨-, hs⟩ := hs
    rw [Mode.next] at hs hspaced ⊢
    by_cases hquote : isQuote c = true
    · -- the quoted string stays as it is
      rw [if_pos hquote] at hs hspaced ⊢
      obtain ⟨body, s', rfl, hbody, hs', hcompact, hrest⟩ := exists_closed hs
      have hsolid := hq.append (.quoted hquote hbody .nil)
      have hrest := hrest _ hspaced
      have hmore := @ih s'.length (by rw [List.length_cons, List.length_append, List.length_cons]; omega)
        s' before _ hsolid hs' (by simpa using hrest) rfl
      rw [hcompact]
      simpa using hmore
    · rw [if_neg hquote] at hs hspaced ⊢
      have hsolid := hq.append (.plain (by simpa using hquote) (by simpa using hblank) .nil)
      have hmore := @ih s.length (Nat.lt_succ_self _) s before _ hsolid hs (by simpa using hspaced) rfl
      simpa using hmore

/-- **A list and the same list without its gaps**, where no token reaches over these. -/
theorem squeezed_bracketed (hs : enclosed .plain s = true) (hspaced : spaced .plain ['['] s = true) :
    Expr.Squeezed (bracketed s) (bracketed (compact .plain s)) :=
  @squeezed_append s [] ['['] (.plain rfl rfl .nil) hs hspaced

end Blanks

/-! ## Values -/

theorem trim_compact (s : List Char) : Text.trim (compact .plain s) = [] ↔ Text.trim s = [] := by
  rw [Text.trim_eq_nil_iff, Text.trim_eq_nil_iff]
  refine ⟨fun hall => ?_, fun hall c hc => hall c (mem_of_mem_compact hc)⟩
  induction s with
  | nil => exact hall
  | cons c s ih =>
    cases hblank : Text.isBlank c with
    | true =>
      rw [compact_blank hblank] at hall
      exact List.forall_mem_cons.2 ⟨hblank, ih hall⟩
    | false =>
      rw [@compact_next .plain _ hblank, List.forall_mem_cons] at hall
      rw [hblank] at hall
      cases hall.1

/-- A list is compiled to the same expression without its gaps, where no token reaches over these. -/
theorem compile_compact {s : List Char} (hs : enclosed .plain s = true) (hspaced : spaced .plain ['['] s = true)
    (e : Expr) :
    Expr.compile true (bracketed (compact .plain s)) = .ok e ↔ Expr.compile true (bracketed s) = .ok e := by
  have hreturn : ∀ t : List Char, '\r' ∉ t → '\r' ∉ bracketed t := by
    intro t ht
    simp [bracketed, ht]
  have hlast : ∀ t : List Char, (bracketed t).getLast? ≠ some '\n' := by
    intro t
    rw [bracketed, List.getLast?_concat]
    decide
  have hnone := not_mem_of_spaced hspaced
  have hparse := Expr.parse_squeezed (squeezed_bracketed hs hspaced) (hreturn s hnone)
    (hreturn _ fun hmem => hnone (mem_of_mem_compact hmem)) (hlast s) (hlast _)
  have hcompile : ∀ t, Expr.compile true t = .ok e ↔ ∃ e', Expr.parse t = .ok e' ∧
      (do Expr.check false (Expr.fold true e'); return Expr.fold true e') = .ok e := by
    intro t
    rw [Expr.compile]
    cases Expr.parse t with
    | error p => simp [Bind.bind, Except.bind]
    | ok e' => simp [Bind.bind, Except.bind]
  rw [hcompile, hcompile]
  simp only [hparse]

/-- **A list has the same values without its gaps**, where no token reaches over these. -/
theorem resolveArguments_compact {s : List Char} (hs : enclosed .plain s = true)
    (hspaced : spaced .plain ['['] s = true) (vs : List Value) :
    resolveArguments (String.ofList (compact .plain s)) [] = .ok vs ↔
      resolveArguments (String.ofList s) [] = .ok vs := by
  rw [resolveArguments_eq_ok_iff, resolveArguments_eq_ok_iff, ne_eq, trim_compact]
  simp only [compile_compact hs hspaced]

/-! ## Rules -/

/-- The draft of a name with arguments behind it. -/
def argumentsDraft (vs : List Value) : Draft :=
  { name? := some "x", arguments := vs, seen := [.name, .arguments] }

theorem readPart_compact {key s : List Char} (hs : enclosed .plain s = true) (rest : List Char) :
    readPart strict key .arguments ('(' :: (s ++ ')' :: rest)) { name? := some "x", seen := [.name] }
      = (fun vs => (argumentsDraft vs, rest)) <$> resolveArguments (String.ofList (compact .plain s)) [] := by
  rw [readPart_eq_bind]
  dsimp only
  rw [List.drop_one, List.tail_cons, readArguments_compact hs]
  cases resolveArguments (String.ofList (compact .plain s)) [] <;> rfl

theorem finish_argumentsDraft (key : List Char) (vs : List Value) :
    finish strict key (argumentsDraft vs) = .ok (.make "x" vs [] none) := by
  cases strict with
  | false => rfl
  | true =>
    have horder : InOrder [.name, .arguments] := by
      unfold InOrder
      decide
    exact finish_true_iff.2 ⟨rfl, horder⟩

/-- What is read from arguments behind a name are the values of the list without its blanks. -/
theorem parse_compact {s : String} (hs : enclosed .plain s.toList = true) :
    parse strict (some ("x(" ++ s ++ ")"))
      = (fun vs => [Fragment.make "x" vs [] none]) <$>
        resolveArguments (String.ofList (compact .plain s.toList)) [] := by
  have hlist : "x(" ++ s ++ ")" = String.ofList ('x' :: '(' :: (s.toList ++ [')'])) := by
    rw [← String.toList_inj]
    simp
  have hclosed : Closed ('x' :: '(' :: (s.toList ++ [')'])) := by
    refine ⟨⟨'x', rfl, rfl⟩, ⟨')', ?_, rfl, by decide⟩⟩
    rw [← List.cons_append, ← List.cons_append, List.getLast?_concat]
  have hclean := clean_of_closed hclosed
  rw [← hlist] at hclean
  rw [parse_eq hclean, String.toList_ofList]
  generalize hkey : 'x' :: '(' :: (s.toList ++ [')']) ++ [delimiter] = key
  have hkey : "x".toList ++ '(' :: (s.toList ++ ')' :: [delimiter]) = key := by
    rw [← hkey]
    simp
  -- the name is passed, so what is read is what is read from the arguments on
  have hname : Passes strict key ⟨none, key⟩ []
      ⟨some { name? := some "x", seen := [.name] }, '(' :: (s.toList ++ ')' :: [delimiter])⟩ := by
    conv in Place.mk _ _ => rw [← hkey]
    exact (taken_name (by decide) (List.all_eq_true.1 (by decide)) rfl _).passes
  obtain ⟨fuel, hfuel, hread⟩ := hname.readFragments_eq (Nat.lt_succ_self key.length)
  obtain ⟨fuel, rfl⟩ := Nat.exists_eq_succ_of_ne_zero (Nat.ne_zero_of_lt hfuel)
  dsimp only at hfuel hread
  rw [hread, readFragments_cons (by decide)]
  show ([] ++ ·) <$> (readPart strict key .arguments _ _ >>= _) = _
  rw [Option.getD_some, readPart_compact hs]
  cases resolveArguments (String.ofList (compact .plain s.toList)) [] with
  | error e => rfl
  | ok vs =>
    obtain ⟨fuel, rfl⟩ : ∃ n, fuel = n + 1 := by
      apply Nat.exists_eq_succ_of_ne_zero
      rintro rfl
      simp at hfuel
    show ([] ++ ·) <$> readFragments strict key (fuel + 1) (some _) [delimiter] = _
    rw [readFragments_delimiter]
    dsimp only
    rw [finish_argumentsDraft]
    cases fuel <;> rfl

/-- **Arguments without their blanks.** What is read from arguments behind a name are the values of the list without
the blanks outside of its quoted strings, or their error. Where no token reaches over the places of these blanks, the
arguments are the values of the list itself, and the rule is malformed exactly if the list has none. -/
theorem parse_arguments {s : String} (hs : enclosed .plain s.toList = true) :
    parse strict (some ("x(" ++ s ++ ")"))
        = (fun vs => [Fragment.make "x" vs [] none]) <$>
          resolveArguments (String.ofList (compact .plain s.toList)) [] ∧
      (spaced .plain ['['] s.toList = true →
        (∀ vs, parse strict (some ("x(" ++ s ++ ")")) = .ok [Fragment.make "x" vs [] none] ↔
          resolveArguments s [] = .ok vs) ∧
        ((∃ e, parse strict (some ("x(" ++ s ++ ")")) = .error e) ↔ ∃ e, resolveArguments s [] = .error e)) := by
  have hparse := @parse_compact strict s hs
  refine ⟨hparse, fun hspaced => ?_⟩
  have hvalues := resolveArguments_compact hs hspaced
  rw [String.ofList_toList] at hvalues
  rw [hparse]
  -- Both lists have the same values. Their errors may differ, as they quote the lists.
  constructor
  · intro vs
    rw [← hvalues]
    cases resolveArguments (String.ofList (compact .plain s.toList)) [] with
    | error e => exact iff_of_false nofun nofun
    | ok vs' =>
      constructor
      · intro h
        exact congrArg Except.ok (congrArg Fragment.arguments (List.cons.inj (Except.ok.inj h)).1)
      · rintro ⟨⟩
        rfl
  · cases hcompact : resolveArguments (String.ofList (compact .plain s.toList)) [] with
    | error e =>
      refine iff_of_true ⟨e, rfl⟩ ?_
      cases hlist : resolveArguments s [] with
      | error e' => exact ⟨e', rfl⟩
      | ok vs =>
        rw [(hvalues vs).2 hlist] at hcompact
        cases hcompact
    | ok vs =>
      constructor
      · rintro ⟨e, he⟩
        cases he
      · rintro ⟨e, he⟩
        rw [(hvalues vs).1 hcompact] at he
        cases he

/-- Blanks around a comma. -/
theorem parse_arguments_comma :
    enclosed .plain "1 , 3".toList = true ∧ spaced .plain ['['] "1 , 3".toList = true ∧
      parse true (some ("x(" ++ "1 , 3" ++ ")")) = .ok [.make "x" [.int 1, .int 3] [] none] := by
  have hs : enclosed .plain "1 , 3".toList = true := by decide +kernel
  have hspaced : spaced .plain ['['] "1 , 3".toList = true := by decide +kernel
  exact ⟨hs, hspaced, (((parse_arguments hs).2 hspaced).1 _).2 rfl⟩

/-- **Blanks that part tokens are left out too**: words and numbers grow together, so that a list with values makes a
rule malformed, and a list without values gives arguments. -/
theorem parse_arguments_grown :
    (enclosed .plain "true and false".toList = true ∧ resolveArguments "true and false" [] = .ok [.bool false] ∧
      ∃ e, parse true (some ("x(" ++ "true and false" ++ ")")) = .error e) ∧
    enclosed .plain "1 2".toList = true ∧ (∃ e, resolveArguments "1 2" [] = .error e) ∧
      parse true (some ("x(" ++ "1 2" ++ ")")) = .ok [.make "x" [.int 12] [] none] := by
  have hwords : enclosed .plain "true and false".toList = true := by decide +kernel
  have hnumbers : enclosed .plain "1 2".toList = true := by decide +kernel
  have hword : failure? (resolveArguments "trueandfalse" []) = some (.rule (.unknownName "trueandfalse")) := by
    decide +kernel
  have hnone : (failure? (resolveArguments "1 2" [])).isSome = true := by decide +kernel
  have hnumber : resolveArguments "12" [] = .ok [.int 12] := rfl
  have htrue : String.ofList (compact .plain "true and false".toList) = "trueandfalse" := by decide +kernel
  have htwelve : String.ofList (compact .plain "1 2".toList) = "12" := by decide +kernel
  refine ⟨⟨hwords, rfl, ?_⟩, hnumbers, ?_, ?_⟩
  · rw [parse_compact hwords, htrue, eq_error_of_failure? hword]
    exact ⟨_, rfl⟩
  · obtain ⟨e, he⟩ := Option.isSome_iff_exists.1 hnone
    exact ⟨e, eq_error_of_failure? he⟩
  · rw [parse_compact hnumbers, htwelve, hnumber]
    rfl

end FieldRules.Rule
