import FieldRules.Proofs.Rule.Failures
import FieldRules.Proofs.Text.Classes

/-!
# Passages of the reader

The reader of a rule text passes from a place to a later one and ends fragments on the way (`Passes`). What it
reads from the first place on are these fragments, and behind them what it reads from the second place on; if it
fails from the second place on, it fails in the same way from the first one (`Passes.readFragments_eq`). Passages
follow each other, so a text can be taken apart at any place that the reader passes. A passage to the end of the
text gives all that is read from there (`Reads`).
-/

namespace FieldRules.Rule

variable {strict : Bool} {text : List Char}

/-- The fragments that are read from the rest of a text. -/
def Reads (strict : Bool) (text : List Char) (draft? : Option Draft) (s : List Char)
    (fs : List Fragment) : Prop :=
  ∀ fuel, s.length < fuel → readFragments strict text fuel draft? s = .ok fs

theorem Reads.nil (draft? : Option Draft) : Reads strict text draft? [] [] := by
  intro fuel _
  cases fuel <;> rfl

/-- The reader comes from a place to another one, and ends the given fragments on its way. -/
inductive Passes (strict : Bool) (text : List Char) : Place → List Fragment → Place → Prop
  | here (p : Place) : Passes strict text p [] p
  | finished {d : Draft} {f : Fragment} {rest : List Char} {fs : List Fragment} {p : Place} :
      finish strict text d = .ok f → Passes strict text ⟨none, rest⟩ fs p →
      Passes strict text ⟨some d, delimiter :: rest⟩ (f :: fs) p
  | delimiter {rest : List Char} {fs : List Fragment} {p : Place} :
      Passes strict text ⟨none, rest⟩ fs p → Passes strict text ⟨none, Rule.delimiter :: rest⟩ fs p
  | skipped {draft? : Option Draft} {c : Char} {rest : List Char} {fs : List Fragment} {p : Place} :
      c ≠ Rule.delimiter → partAt? (c :: rest) = none → Passes strict text ⟨draft?, rest⟩ fs p →
      Passes strict text ⟨draft?, c :: rest⟩ fs p
  | part {draft? : Option Draft} {c : Char} {s rest : List Char} {part : Part} {d : Draft}
      {fs : List Fragment} {p : Place} :
      c ≠ Rule.delimiter → partAt? (c :: s) = some part →
      readPart strict text part (c :: s) (draft?.getD {}) = .ok (d, rest) →
      Passes strict text ⟨some d, rest⟩ fs p → Passes strict text ⟨draft?, c :: s⟩ fs p

/-- Only for a bracket it matters what stands behind it. -/
theorem partAt?_cons (c : Char) (s : List Char) :
    partAt? (c :: s) = if c = '<' then if s.head? = some '<' then some .message else some .groups
      else if c = '(' then some .arguments else if isNameChar c then some .name else none := by
  by_cases hbracket : c = '<'
  · rw [if_pos hbracket, hbracket]
    cases s with
    | nil => rfl
    | cons d s =>
      by_cases hd : d = '<'
      · rw [hd]
        rfl
      · rw [if_neg (by simpa using hd), partAt?]
        rintro rest heq
        exact hd (List.cons.inj heq).1
  · rw [if_neg hbracket]
    by_cases hopen : c = '('
    · rw [if_pos hopen, hopen]
      rfl
    · rw [if_neg hopen, partAt?]
      · exact fun rest h _ => hbracket h
      · exact hbracket
      · exact hopen

theorem isBlank_of_isNameChar {c : Char} (h : isNameChar c = true) : Text.isBlank c = false := by
  simp only [isNameChar, Bool.or_eq_true, beq_iff_eq] at h
  rcases h with ((h | rfl) | rfl) | rfl
  · exact Text.isBlank_of_isAlnum h
  · rfl
  · rfl
  · rfl

section Passages
variable {p p' p'' : Place} {fs gs : List Fragment}

/-- Passages follow each other. -/
theorem Passes.trans (h : Passes strict text p fs p') (h' : Passes strict text p' gs p'') :
    Passes strict text p (fs ++ gs) p'' := by
  induction h with
  | here => exact h'
  | finished hfinish _ ih => exact .finished hfinish (ih h')
  | delimiter _ ih => exact .delimiter (ih h')
  | skipped hc hpart _ ih => exact .skipped hc hpart (ih h')
  | part hc hpart hread _ ih => exact .part hc hpart hread (ih h')

/-- The places of a passage are reached in steps. -/
theorem Passes.reaches (h : Passes strict text p fs p') : Relation.ReflTransGen (Step strict text) p p' := by
  induction h with
  | here => exact .refl
  | finished hfinish _ ih => exact ih.head (.finished hfinish)
  | delimiter _ ih => exact ih.head .delimiter
  | skipped hc hpart _ ih => exact ih.head (.skipped hc hpart)
  | part hc hpart hread _ ih => exact ih.head (.part hc hpart hread)

/-- **What is read from a place on** are the fragments that are ended on a passage, and then what is read from
its end on. -/
theorem Passes.readFragments_eq (h : Passes strict text p fs p') {fuel : Nat}
    (hfuel : p.rest.length < fuel) :
    ∃ fuel', p'.rest.length < fuel' ∧ readFragments strict text fuel p.draft? p.rest
      = (fs ++ ·) <$> readFragments strict text fuel' p'.draft? p'.rest := by
  -- every step makes the rest of the text shorter, and the fuel is more than that rest
  induction h generalizing fuel with
  | here p =>
    refine ⟨fuel, hfuel, ?_⟩
    cases readFragments strict text fuel p.draft? p.rest <;> rfl
  | @finished d f rest fs p hfinish _ ih =>
    obtain ⟨fuel, rfl⟩ := Nat.exists_eq_succ_of_ne_zero (Nat.ne_zero_of_lt hfuel)
    obtain ⟨fuel', hfuel', heq⟩ := ih (Nat.lt_of_succ_lt_succ hfuel)
    refine ⟨fuel', hfuel', ?_⟩
    dsimp only at heq ⊢
    rw [readFragments_delimiter]
    dsimp only
    rw [hfinish, heq]
    cases readFragments strict text fuel' p.draft? p.rest <;> rfl
  | delimiter _ ih =>
    obtain ⟨fuel, rfl⟩ := Nat.exists_eq_succ_of_ne_zero (Nat.ne_zero_of_lt hfuel)
    obtain ⟨fuel', hfuel', heq⟩ := ih (Nat.lt_of_succ_lt_succ hfuel)
    refine ⟨fuel', hfuel', ?_⟩
    dsimp only
    rw [readFragments_delimiter]
    exact heq
  | skipped hc hpart _ ih =>
    obtain ⟨fuel, rfl⟩ := Nat.exists_eq_succ_of_ne_zero (Nat.ne_zero_of_lt hfuel)
    obtain ⟨fuel', hfuel', heq⟩ := ih (Nat.lt_of_succ_lt_succ hfuel)
    refine ⟨fuel', hfuel', ?_⟩
    dsimp only
    rw [readFragments_cons hc, hpart]
    exact heq
  | part hc hpart hread _ ih =>
    obtain ⟨fuel, rfl⟩ := Nat.exists_eq_succ_of_ne_zero (Nat.ne_zero_of_lt hfuel)
    have hshorter := length_readPart hpart hread
    obtain ⟨fuel', hfuel', heq⟩ := ih (Nat.lt_of_lt_of_le hshorter (Nat.le_of_lt_succ hfuel))
    refine ⟨fuel', hfuel', ?_⟩
    dsimp only
    rw [readFragments_cons hc, hpart]
    dsimp only
    rw [hread]
    exact heq

/-- Where the reader has come through, it has come through from the end of a passage on. -/
theorem Passes.exists_read (h : Passes strict text p fs p') {fuel : Nat} (hfuel : p.rest.length < fuel)
    (hread : readFragments strict text fuel p.draft? p.rest = .ok gs) :
    ∃ fuel' gs', p'.rest.length < fuel' ∧
      readFragments strict text fuel' p'.draft? p'.rest = .ok gs' ∧ gs = fs ++ gs' := by
  obtain ⟨fuel', hfuel', heq⟩ := h.readFragments_eq hfuel
  rw [heq] at hread
  cases hrest : readFragments strict text fuel' p'.draft? p'.rest with
  | error e =>
    rw [hrest] at hread
    cases hread
  | ok gs' =>
    rw [hrest] at hread
    exact ⟨fuel', gs', hfuel', hrest, (Except.ok.inj hread).symm⟩

/-- A passage to the end of the text gives all fragments that are read. -/
theorem Passes.reads {draft? draft'? : Option Draft} {s : List Char}
    (h : Passes strict text ⟨draft?, s⟩ fs ⟨draft'?, []⟩) : Reads strict text draft? s fs := by
  intro fuel hfuel
  obtain ⟨fuel', hfuel', heq⟩ := h.readFragments_eq hfuel
  dsimp only at heq
  rw [heq, Reads.nil draft'? fuel' hfuel']
  exact congrArg Except.ok (List.append_nil fs)

/-- No part starts with a blank. -/
theorem Passes.blanks {draft? : Option Draft} {w s : List Char} (hw : ∀ c ∈ w, Text.isBlank c = true)
    (h : Passes strict text ⟨draft?, s⟩ fs p) : Passes strict text ⟨draft?, w ++ s⟩ fs p := by
  induction w with
  | nil => exact h
  | cons b w ih =>
    rw [List.forall_mem_cons] at hw
    obtain ⟨hblank, hw⟩ := hw
    have hname : ¬isNameChar b = true := by
      intro hname
      rw [isBlank_of_isNameChar hname] at hblank
      cases hblank
    have hne : ∀ c, Text.isBlank c = false → b ≠ c := by
      rintro c hc rfl
      rw [hblank] at hc
      cases hc
    apply Passes.skipped (hne _ (by decide)) _ (ih hw)
    rw [partAt?_cons, if_neg (hne _ (by decide)), if_neg (hne _ (by decide)), if_neg hname]

end Passages

end FieldRules.Rule
