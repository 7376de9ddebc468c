import FieldRules.Proofs.Expr.Values
import FieldRules.Rule.Scanner

/-!
# Reading argument lists

Arguments that have been written are read back (`readArguments_print`). The reader copies them into an
expression, in which each pattern is a name with a number of its own; `atomsFrom` are the items of that
expression, and `patternsOf` the patterns that the names stand for.
-/

namespace FieldRules.Rule

open FieldRules.Expr (Atom)
open Literal (escapeChar escapeSlash)

namespace Literal

/-- The pattern of a literal that is one. -/
def regex? : Literal → Option Regex
  | pattern source => (Regex.compile source).toOption
  | _ => none

/-- The value of a literal. -/
def value : Literal → Value
  | text s => .string s
  | integer n => .int n
  | truth b => .bool b
  | nothing => .none
  | pattern source => ((Regex.compile source).toOption.map Value.pattern).getD .none

/-- The item that stands for a literal, where a pattern gets the given number. -/
def atom (number : Nat) : Literal → Atom
  | text s => .text s
  | integer n => .number n
  | truth b => .word (if b then "true" else "false")
  | nothing => .word "none"
  | pattern _ => .word (patternName number)

theorem toList_regex? {source : String} {r : Regex} (hr : Regex.compile source = .ok r) :
    (pattern source).regex?.toList = [r] := by
  rw [regex?, hr]
  rfl

/-- The literal has the value that it denotes. -/
theorem denotes_value {l : Literal} (h : l.Printable) : l.Denotes l.value := by
  cases l with
  | pattern source =>
    obtain ⟨⟨r, hr⟩, -⟩ := h
    refine ⟨r, hr, ?_, ?_⟩
    · rw [Regex.compile] at hr
      cases hread : (Regex.readPattern (6 * source.toList.length + 16)).run
          { rest := source.toList, position := 0 } with
      | error p =>
        dsimp only at hr
        rw [hread] at hr
        cases hr
      | ok found =>
        dsimp only at hr
        rw [hread] at hr
        cases hr
        rfl
    · rw [value, hr]
      rfl
  | _ => rfl

end Literal

/-- The items that stand for literals, where the first pattern gets the given number. -/
def atomsFrom (number : Nat) : List Literal → List Atom
  | [] => []
  | l :: rest => l.atom number :: atomsFrom (number + l.regex?.toList.length) rest

/-- The patterns among literals. -/
def patternsOf (arguments : List Literal) : List Regex :=
  arguments.filterMap Literal.regex?

theorem patternsOf_cons (l : Literal) (arguments : List Literal) :
    patternsOf (l :: arguments) = l.regex?.toList ++ patternsOf arguments := by
  rw [patternsOf, List.filterMap_cons, ← patternsOf]
  cases l.regex? <;> rfl

/-! ## Names of patterns -/

theorem toList_patternName (n : Nat) :
    (patternName n).toList = 'r' :: ("egex_".toList ++ Nat.toDigits 10 n) := by
  have hname : patternName n = "regex_" ++ toString n := rfl
  rw [hname, String.toList_append, Nat.toString_eq_repr, Nat.toList_repr]
  rfl

theorem patternName_inj {m n : Nat} (h : patternName m = patternName n) : m = n := by
  have hlist := congrArg String.toList h
  rw [toList_patternName, toList_patternName, List.cons_inj_right, List.append_cancel_left_eq] at hlist
  rw [← Nat.ofDigitChars_ten_toDigits (n := m), hlist, Nat.ofDigitChars_ten_toDigits]

theorem lexable_patternName (n : Nat) : (Atom.word (patternName n)).Lexable := by
  refine ⟨'r', _, toList_patternName n, by decide, fun x hx => ?_⟩
  rw [List.mem_append] at hx
  rcases hx with hx | hx
  · have hall : ("egex_".toList.all fun y => Text.isAsciiLetter y || y == '_') = true := by decide
    have hx := List.all_eq_true.1 hall x hx
    rw [Bool.or_eq_true, beq_iff_eq] at hx
    exact hx.imp_right .inr
  · exact .inr (.inl (Text.isAsciiDigit_of_mem hx))

/-- The name of a pattern is no word with a meaning of its own. -/
theorem patternName_ne {w : String} (h : w.toList.head? ≠ some 'r') (n : Nat) : patternName n ≠ w := by
  rintro rfl
  rw [toList_patternName, List.head?_cons] at h
  exact h rfl

theorem nameExpr_patternName (n : Nat) :
    Expr.Parser.nameExpr (patternName n) = .identifier (patternName n) := by
  have hne : ∀ w : String, w.toList.head? ≠ some 'r' → (patternName n == w) = false := by
    intro w hw
    rw [← Bool.not_eq_true, beq_iff_eq]
    exact patternName_ne hw n
  rw [Expr.Parser.nameExpr, hne "true" (by decide), hne "True" (by decide), hne "false" (by decide),
    hne "False" (by decide), hne "none" (by decide), hne "None" (by decide)]
  rfl

/-- Each name stands for the pattern with its number. -/
theorem lookup_patternVariables {rs : List Regex} {k : Nat} {r : Regex} (h : rs[k]? = some r) :
    (patternVariables rs).lookup (patternName k) = some (.pattern r) := by
  -- the numbers of the patterns behind the first start with one more
  have hall : ∀ (rs : List Regex) (n k : Nat), rs[k]? = some r →
      ((rs.zipIdx n).map fun p => (patternName p.2, Value.pattern p.1)).lookup (patternName (n + k))
        = some (.pattern r) := by
    intro rs
    induction rs with
    | nil => intro n k h; cases h
    | cons x rs ih =>
      intro n k h
      rw [List.zipIdx_cons, List.map_cons, List.lookup_cons]
      obtain _ | k := k
      · rw [List.getElem?_cons_zero] at h
        rw [Nat.add_zero, beq_self_eq_true, Option.some.inj h]
      · have hne : (patternName (n + (k + 1)) == patternName n) = false := by
          rw [← Bool.not_eq_true, beq_iff_eq]
          intro heq
          have := patternName_inj heq
          omega
        rw [hne, ← Nat.add_assoc, Nat.add_right_comm]
        exact ih (n + 1) k h
  have hmain := hall rs 0 k h
  rw [Nat.zero_add] at hmain
  exact hmain

/-! ## Copying -/

/-- What has been gathered with more behind it. -/
def Gathered.append (g : Gathered) (s : List Char) (rs : List Regex) : Gathered :=
  { buffer := s.reverse ++ g.buffer, patterns := g.patterns ++ rs }

@[simp] theorem Gathered.append_nil (g : Gathered) : g.append [] [] = g := by
  rw [append, List.reverse_nil, List.nil_append, List.append_nil]

@[simp] theorem Gathered.append_append (g : Gathered) (s t : List Char) (rs qs : List Regex) :
    (g.append s rs).append t qs = g.append (s ++ t) (rs ++ qs) := by
  rw [append, append, append, List.reverse_append, List.append_assoc, List.append_assoc]

theorem Gathered.length_append (g : Gathered) (s : List Char) (rs : List Regex) :
    (g.append s rs).patterns.length = g.patterns.length + rs.length :=
  List.length_append

theorem Gathered.push_eq (g : Gathered) (c : Char) : g.push c = g.append [c] [] := by
  rw [push, append, List.append_nil]
  rfl

theorem Gathered.push_append (g : Gathered) (c : Char) (s : List Char) (rs : List Regex) :
    (g.push c).append s rs = g.append (c :: s) rs := by
  rw [push_eq, append_append]
  rfl

/-- What has been gathered from the beginning is the expression itself. -/
theorem Gathered.reverse_buffer (s : List Char) (rs : List Regex) : (append {} s rs).buffer.reverse = s := by
  rw [append, List.append_nil, List.reverse_reverse]

variable (text : List Char)

/-- A character between texts that is copied as it is. -/
def Copied (c : Char) : Prop :=
  c ≠ ')' ∧ c ≠ '/' ∧ c ≠ '\'' ∧ c ≠ '"' ∧ Text.isBlank c = false

instance (c : Char) : Decidable (Copied c) :=
  inferInstanceAs (Decidable (_ ∧ _))

theorem gather_copied {s : List Char} (hs : ∀ c ∈ s, Copied c) (g : Gathered) (rest : List Char) :
    gather text .plain g (s ++ rest) = gather text .plain (g.append s []) rest := by
  induction s generalizing g with
  | nil => rw [List.nil_append, Gathered.append_nil]
  | cons c s ih =>
    rw [List.forall_mem_cons] at hs
    obtain ⟨⟨hclose, hslash, hquote, hdouble, hblank⟩, hs⟩ := hs
    rw [List.cons_append, gather, if_neg (by simpa using hclose), if_neg (by simpa using hslash),
      if_neg (by simp [hquote, hdouble]), hblank, if_neg Bool.false_ne_true, ih hs, Gathered.push_eq,
      Gathered.append_append]
    rfl

/-- A text is copied with its escapes, up to its closing quote. -/
theorem gather_quoted (s : List Char) (g : Gathered) (rest : List Char) :
    gather text (.quoted '\'' false) g (s.flatMap escapeChar ++ '\'' :: rest)
      = gather text .plain (g.append (s.flatMap escapeChar ++ ['\'']) []) rest := by
  induction s generalizing g with
  | nil =>
    rw [List.flatMap_nil, List.nil_append, List.nil_append, gather, ← Gathered.push_eq]
    rfl
  | cons c s ih =>
    rw [List.flatMap_cons, List.append_assoc]
    rcases Literal.escapeChar_cases c with ⟨d, heq, -⟩ | ⟨heq, -, hslash, hquote, hdouble⟩
    · rw [heq, List.cons_append, List.cons_append, List.nil_append, gather, if_neg Bool.false_ne_true,
        beq_self_eq_true, if_pos rfl, gather, if_pos rfl, ih, Gathered.push_eq, Gathered.push_eq,
        Gathered.append_append, Gathered.append_append]
      rfl
    · rw [heq, List.cons_append, List.nil_append, gather, if_neg Bool.false_ne_true,
        if_neg (by simpa using hslash), if_neg (by simpa using hquote),
        if_neg (by simp [hquote, hdouble]), ih, Gathered.push_eq, Gathered.append_append]
      rfl

theorem getLast?_tail_ne {c x : Char} {s : List Char} (h : (c :: s).getLast? ≠ some x) :
    s.getLast? ≠ some x := by
  cases s with
  | nil => exact Option.some_ne_none x ∘ Eq.symm
  | cons d s =>
    rw [List.getLast?_cons_cons] at h
    exact h

/-- A pattern is read without the backslashes before its slashes. A backslash of its own is never taken for
one of these, since what is written behind it is no bare slash. -/
theorem gather_source {s : List Char} (hs : s.getLast? ≠ some '\\') (source : List Char) (g : Gathered)
    (rest : List Char) :
    gather text (.pattern source) g (s.flatMap escapeSlash ++ '/' :: rest)
      = gather text (.pattern (s.reverse ++ source)) g ('/' :: rest) := by
  induction s generalizing source with
  | nil => rfl
  | cons c s ih =>
    have hlast := getLast?_tail_ne hs
    rw [List.flatMap_cons, List.append_assoc, List.reverse_cons, List.append_assoc,
      List.singleton_append, ← ih hlast, escapeSlash]
    split
    · next hslash =>
      rw [hslash, List.cons_append, List.cons_append, List.nil_append, gather]
    · next hslash =>
      rw [List.cons_append, List.nil_append, gather]
      · rw [if_neg (by simpa using hslash)]
      -- a backslash before a bare slash: there is none, at the end of the source or inside it
      · rintro rest' rfl hnext
        cases s with
        | nil => exact hs rfl
        | cons d s =>
          rw [List.flatMap_cons, escapeSlash] at hnext
          split at hnext
          · cases hnext
          · next hd =>
            exact hd (List.cons.inj hnext).1

theorem gather_pattern {source : String} {r : Regex} (hr : Regex.compile source = .ok r)
    (hsource : source.toList.getLast? ≠ some '\\') (g : Gathered) (rest : List Char) :
    gather text .plain g ('/' :: (source.toList.flatMap escapeSlash ++ '/' :: rest))
      = gather text .plain (g.append (patternName g.patterns.length).toList [r]) rest := by
  have hread : ∀ shown, readPattern text shown source.toList = .ok r := by
    intro shown
    rw [readPattern, String.ofList_toList, hr]
    rfl
  rw [gather, if_neg (by decide), if_pos (by decide), gather_source text hsource, List.append_nil,
    gather]
  · rw [if_pos (by decide), List.reverse_reverse, hread]
    rfl
  · intro rest' h
    cases h

/-! ## Literals -/

theorem copied_of_ascii {c : Char} (h : Text.isAsciiLetter c = true ∨ Text.isAsciiDigit c = true) :
    Copied c := by
  have hcode : 48 ≤ c.toNat ∧ c.toNat < 127 := by
    rcases h with h | h
    · have := Text.isAsciiLetter_iff.1 h
      omega
    · have := Text.isAsciiDigit_iff.1 h
      omega
  refine ⟨?_, ?_, ?_, ?_, Text.isBlank_eq_false (by omega) (by omega)⟩
  all_goals
    rintro rfl
    exact absurd hcode (by decide)

theorem copied_printInteger (n : Int) : ∀ c ∈ Literal.printInteger n, Copied c := by
  have hdigits : ∀ m, ∀ c ∈ Nat.toDigits 10 m, Copied c :=
    fun m c hc => copied_of_ascii (.inr (Text.isAsciiDigit_of_mem hc))
  rw [Literal.printInteger]
  split
  · rw [List.forall_mem_cons]
    exact ⟨by decide, hdigits _⟩
  · exact hdigits _

/-- What stands for a literal is copied in its place. -/
theorem gather_literal {l : Literal} (hl : l.Printable) (g : Gathered) (rest : List Char) :
    gather text .plain g (l.print ++ rest)
      = gather text .plain (g.append (l.atom g.patterns.length).print l.regex?.toList) rest := by
  have hword : ∀ w : String, w.toList.all Text.isAsciiLetter = true →
      gather text .plain g (w.toList ++ rest) = gather text .plain (g.append w.toList []) rest := by
    intro w hw
    rw [List.all_eq_true] at hw
    exact gather_copied text (fun c hc => copied_of_ascii (.inl (hw c hc))) g rest
  cases l with
  | text s =>
    rw [Literal.print, List.append_assoc, List.cons_append, List.singleton_append, gather,
      if_neg (by decide), if_neg (by decide), if_pos (by decide), gather_quoted, Gathered.push_eq,
      Gathered.append_append]
    rfl
  | integer n => exact gather_copied text (copied_printInteger n) g rest
  | truth b =>
    cases b with
    | true => exact hword "true" (by decide)
    | false => exact hword "false" (by decide)
  | nothing => exact hword "none" (by decide)
  | pattern source =>
    obtain ⟨⟨r, hr⟩, hlast⟩ := hl
    rw [Literal.toList_regex? hr, Literal.print, List.append_assoc, List.cons_append,
      List.singleton_append, gather_pattern text hr hlast]
    rfl

theorem gather_comma (g : Gathered) (rest : List Char) :
    gather text .plain g (',' :: rest) = gather text .plain (g.append [','] []) rest := by
  have hcomma : ∀ c ∈ [','], Copied c := by
    intro c hc
    rw [List.mem_singleton.1 hc]
    decide
  exact gather_copied text hcomma g rest

/-- Arguments are gathered up to their parenthesis: the items that stand for them, and the patterns. -/
theorem gather_arguments {arguments : List Literal} (hprintable : ∀ l ∈ arguments, l.Printable)
    (g : Gathered) (rest : List Char) :
    gather text .plain g ([','].intercalate (arguments.map Literal.print) ++ ')' :: rest)
      = .ok (g.append (Expr.printItems (atomsFrom g.patterns.length arguments)) (patternsOf arguments),
          rest) := by
  have hend : ∀ g', gather text .plain g' (')' :: rest) = .ok (g', rest) := fun g' => rfl
  unfold Expr.printItems
  -- patterns are counted through all the arguments, so what has been gathered before is general
  induction arguments generalizing g with
  | nil =>
    rw [List.map_nil, List.intercalate_nil, List.nil_append, hend]
    simp [atomsFrom, patternsOf]
  | cons l arguments ih =>
    rw [List.forall_mem_cons] at hprintable
    rw [patternsOf_cons, atomsFrom]
    cases arguments with
    | nil =>
      rw [List.map_singleton, List.intercalate_singleton, gather_literal text hprintable.1, hend,
        atomsFrom, List.map_singleton, List.intercalate_singleton, patternsOf, List.filterMap_nil,
        List.append_nil]
    | cons k arguments =>
      -- The comma stands between what the literals are copied to, as it stands between the literals.
      have hmore := ih hprintable.2
        (g.append ((l.atom g.patterns.length).print ++ [',']) l.regex?.toList)
      rw [Gathered.length_append, List.map_cons, atomsFrom, List.map_cons] at hmore
      rw [List.map_cons, List.map_cons, List.intercalate_cons_cons, List.append_assoc, List.append_assoc,
        gather_literal text hprintable.1, List.singleton_append, gather_comma, Gathered.append_append,
        List.append_nil, hmore, atomsFrom, List.map_cons, List.map_cons, List.intercalate_cons_cons,
        Gathered.append_append]

/-! ## Values -/

theorem means_value {l : Literal} (hl : l.Printable) (rs qs : List Regex) :
    (l.atom rs.length).Means (patternVariables (rs ++ (l.regex?.toList ++ qs))) l.value := by
  cases l with
  | text s => exact .text s
  | integer n => exact .number hl
  | truth b =>
    cases b with
    | true => exact .yes
    | false => exact .no
  | nothing => exact .nothing
  | pattern source =>
    obtain ⟨⟨r, hr⟩, -⟩ := hl
    have hvalue : (Literal.pattern source).value = .pattern r := by
      rw [Literal.value, hr]
      rfl
    have hplace : (rs ++ ([r] ++ qs))[rs.length]? = some r := by
      rw [List.getElem?_append_right (Nat.le_refl _), Nat.sub_self]
      rfl
    rw [Literal.toList_regex? hr, hvalue]
    exact .name (nameExpr_patternName _) (lookup_patternVariables hplace) rfl

/-- The items have the values of the literals that they stand for. -/
theorem means_values {arguments : List Literal} (hprintable : ∀ l ∈ arguments, l.Printable)
    (rs : List Regex) :
    List.Forall₂ (Atom.Means (patternVariables (rs ++ patternsOf arguments)))
      (atomsFrom rs.length arguments) (arguments.map Literal.value) := by
  induction arguments generalizing rs with
  | nil => exact .nil
  | cons l arguments ih =>
    rw [List.forall_mem_cons] at hprintable
    have hmore := ih hprintable.2 (rs ++ l.regex?.toList)
    rw [List.length_append, List.append_assoc] at hmore
    rw [patternsOf_cons, atomsFrom, List.map_cons]
    exact .cons (means_value hprintable.1 rs _) hmore

theorem lexable_of_letters {w : String} (hne : w.toList ≠ [])
    (hw : w.toList.all Text.isAsciiLetter = true) : (Atom.word w).Lexable := by
  cases hlist : w.toList with
  | nil => exact absurd hlist hne
  | cons c rest =>
    rw [hlist, List.all_eq_true, List.forall_mem_cons] at hw
    exact ⟨c, rest, hlist, hw.1, fun x hx => .inl (hw.2 x hx)⟩

theorem lexable_atom {l : Literal} (hl : l.Printable) (n : Nat) : (l.atom n).Lexable := by
  cases l with
  | text s => trivial
  | integer n => exact hl
  | truth b => cases b <;> exact lexable_of_letters (by decide) (by decide)
  | nothing => exact lexable_of_letters (by decide) (by decide)
  | pattern source => exact lexable_patternName n

theorem atom_ne_not (l : Literal) (n : Nat) : l.atom n ≠ .word "not" := by
  cases l with
  | truth b => cases b <;> exact fun h => absurd (Atom.word.inj h) (by decide)
  | nothing => exact fun h => absurd (Atom.word.inj h) (by decide)
  | pattern source => exact fun h => patternName_ne (by decide) n (Atom.word.inj h)
  | _ => exact fun h => by cases h

theorem mem_atomsFrom {arguments : List Literal} {n : Nat} {a : Atom} (ha : a ∈ atomsFrom n arguments) :
    ∃ l ∈ arguments, ∃ m, a = l.atom m := by
  induction arguments generalizing n with
  | nil => cases ha
  | cons l arguments ih =>
    rw [atomsFrom, List.mem_cons] at ha
    rcases ha with rfl | ha
    · exact ⟨l, List.mem_cons_self .., n, rfl⟩
    · obtain ⟨k, hk, m, rfl⟩ := ih ha
      exact ⟨k, List.mem_cons_of_mem _ hk, m, rfl⟩

/-- Arguments that have been written are read as the values that were written. -/
theorem readArguments_print {arguments : List Literal} (hne : arguments ≠ [])
    (hprintable : ∀ l ∈ arguments, l.Printable) (rest : List Char) :
    readArguments text ([','].intercalate (arguments.map Literal.print) ++ ')' :: rest)
      = .ok (arguments.map Literal.value, rest) := by
  have hitems : atomsFrom 0 arguments ≠ [] := by
    cases arguments with
    | nil => exact absurd rfl hne
    | cons l arguments => exact List.cons_ne_nil _ _
  have hvalues := resolveArguments_items (means_values hprintable []) hitems
    (fun a ha => by
      obtain ⟨l, hl, m, rfl⟩ := mem_atomsFrom ha
      exact lexable_atom (hprintable l hl) m)
    (fun a ha => by
      obtain ⟨l, -, m, rfl⟩ := mem_atomsFrom ha
      exact atom_ne_not l m)
  have hpatterns : ∀ s rs, (Gathered.append {} s rs).patterns = rs := fun s rs => rfl
  rw [List.nil_append] at hvalues
  rw [readArguments_of_gather (gather_arguments text hprintable {} rest), Gathered.reverse_buffer, hpatterns, hvalues]
  rfl

end FieldRules.Rule
