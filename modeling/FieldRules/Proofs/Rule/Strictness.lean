import FieldRules.Proofs.Rule.Failures
import FieldRules.Proofs.Text.Classes

/-!
# Strict and loose readers

A strict reader of rule texts does what a loose one does, and fails at two more kinds of places: where a fragment
ends whose parts stand out of order, and where a groups part has an identifier with a blank inside (`Defect`).
So its steps are those of the loose reader from places without defects (`step_true_iff`). What it reads the loose
reader reads as well, and where only the loose reader comes to an end it has passed a defect, on which the strict
one has failed (`parse_strict_iff`).
-/

namespace FieldRules.Rule

variable {text : List Char}

/-! ## Identifiers with blanks inside -/

/-- A blank stands between two characters that are none. -/
def Gapped (s : List Char) : Prop :=
  ∃ c b d, [c, b, d].Sublist s ∧ Text.isBlank c = false ∧ Text.isBlank b = true ∧ Text.isBlank d = false

/-- The identifiers of a groups part, as they stand behind its bracket. -/
def identifiers (s : List Char) : List (List Char) :=
  (s.takeWhile (· != '>')).splitOn ','

/-- The identifiers when some of the first one has been read. -/
def identifiersFrom (current s : List Char) : List (List Char) :=
  (identifiers s).modifyHead (current.reverse ++ ·)

section Identifiers
variable {c : Char} {current s : List Char}

theorem identifiersFrom_nil (s : List Char) : identifiersFrom [] s = identifiers s := by
  unfold identifiersFrom
  cases identifiers s <;> rfl

theorem identifiersFrom_close (current s : List Char) :
    identifiersFrom current ('>' :: s) = [current.reverse] := by
  simp [identifiersFrom, identifiers, List.splitOn_nil]

theorem identifiersFrom_comma (current s : List Char) :
    identifiersFrom current (',' :: s) = current.reverse :: identifiers s := by
  simp [identifiersFrom, identifiers, List.splitOn_cons_eq_if_modifyHead]

theorem identifiersFrom_cons (hclose : c ≠ '>') (hcomma : c ≠ ',') (current s : List Char) :
    identifiersFrom current (c :: s) = identifiersFrom (c :: current) s := by
  unfold identifiersFrom identifiers
  rw [List.takeWhile_cons, if_pos (by simpa using hclose), List.splitOn_cons_eq_if_modifyHead,
    if_neg (by simpa using hcomma), List.modifyHead_modifyHead]
  congr 1
  funext rest
  simp

/-- A blank in front does not matter. -/
theorem gapped_cons_iff (hc : Text.isBlank c = true) : Gapped (c :: s) ↔ Gapped s := by
  constructor
  · rintro ⟨x, b, d, hsub, hx, hb, hd⟩
    refine ⟨x, b, d, ?_, hx, hb, hd⟩
    rcases List.sublist_cons_iff.1 hsub with hsub | ⟨r, hr, -⟩
    · exact hsub
    · rw [(List.cons.inj hr).1, hc] at hx
      cases hx
  · rintro ⟨x, b, d, hsub, hrest⟩
    exact ⟨x, b, d, hsub.cons c, hrest⟩

/-- Characters that are no blanks and then blanks have no gap. -/
theorem not_gapped_append {word blanks : List Char} (hword : ∀ c ∈ word, Text.isBlank c = false)
    (hblanks : ∀ c ∈ blanks, Text.isBlank c = true) : ¬Gapped (word ++ blanks) := by
  rintro ⟨c, b, d, hsub, -, hb, hd⟩
  obtain ⟨l₁, l₂, heq, h₁, h₂⟩ := List.sublist_append_iff.1 hsub
  have hd₂ : d ∉ l₂ := fun hmem => by
    rw [hblanks d (h₂.subset hmem)] at hd
    cases hd
  -- the last of the three is no blank, so all of them stand in the word
  obtain rfl : l₂ = [] := by
    rcases List.eq_nil_or_concat l₂ with h | ⟨l, x, h⟩
    · exact h
    · exfalso
      rw [h, List.concat_eq_append, ← List.append_assoc] at heq
      have hlast := congrArg List.getLast? heq
      rw [List.getLast?_concat] at hlast
      obtain rfl : d = x := by simpa using hlast
      exact hd₂ (by rw [h]; simp)
  rw [List.append_nil] at heq
  have := hword b (h₁.subset (by rw [← heq]; simp))
  rw [hb] at this
  cases this

/-- Where the next character of an identifier is none of the blanks that it has, there is a gap. -/
theorem gapped_of_append {word blanks rest : List Char} (hword : ∀ c ∈ word, Text.isBlank c = false)
    (hne : word ≠ []) (hblanks : ∀ c ∈ blanks, Text.isBlank c = true) (hne' : blanks ≠ [])
    (hc : Text.isBlank c = false) : Gapped (word ++ blanks ++ c :: rest) := by
  obtain ⟨x, xs, rfl⟩ := List.exists_cons_of_ne_nil hne
  obtain ⟨b, bs, rfl⟩ := List.exists_cons_of_ne_nil hne'
  refine ⟨x, b, c, ?_, hword x (by simp), hblanks b (by simp), hc⟩
  have hx : [x].Sublist (x :: xs) := by simp
  have hb : [b].Sublist (b :: bs) := by simp
  have hc : [c].Sublist (c :: rest) := by simp
  exact (hx.append hb).append hc

end Identifiers

/-- How far an identifier has been read: a word and blanks behind it, which are the gap. -/
structure Scanned (current : List Char) (gap : Bool) (word blanks : List Char) : Prop where
  reverse_eq : current.reverse = word ++ blanks
  letters : ∀ c ∈ word, Text.isBlank c = false
  spaces : ∀ c ∈ blanks, Text.isBlank c = true
  gap_iff : gap = true ↔ blanks ≠ []
  begun : blanks ≠ [] → word ≠ []

section Scanned
variable {current word blanks : List Char} {gap : Bool} {c : Char}

theorem scanned_start : Scanned [] false [] [] where
  reverse_eq := rfl
  letters := by simp
  spaces := by simp
  gap_iff := by simp
  begun := by simp

/-- What has been read so far has no blank inside. -/
theorem Scanned.not_gapped (h : Scanned current gap word blanks) : ¬Gapped current.reverse := by
  rw [h.reverse_eq]
  exact not_gapped_append h.letters h.spaces

/-- A blank behind a word begins or widens the gap. -/
theorem Scanned.blank (h : Scanned current gap word blanks) (hne : current ≠ []) (hc : Text.isBlank c = true) :
    Scanned (c :: current) true word (blanks ++ [c]) := by
  have hword : word ≠ [] := by
    by_cases hb : blanks = []
    · have hcur := h.reverse_eq
      rw [hb, List.append_nil] at hcur
      rw [← hcur]
      simpa using hne
    · exact h.begun hb
  refine ⟨?_, h.letters, ?_, by simp, fun _ => hword⟩
  · rw [List.reverse_cons, h.reverse_eq, List.append_assoc]
  · intro d hd
    rcases List.mem_append.1 hd with hd | hd
    · exact h.spaces d hd
    · rw [List.mem_singleton.1 hd]
      exact hc

/-- Without a gap, a letter goes to the word. -/
theorem Scanned.letter (h : Scanned current false word blanks) (hc : Text.isBlank c = false) :
    Scanned (c :: current) false (word ++ [c]) [] := by
  have hnone : blanks = [] := by simpa using h.gap_iff
  refine ⟨?_, ?_, by simp, by simp, by simp⟩
  · rw [List.reverse_cons, h.reverse_eq, hnone, List.append_nil, List.append_nil]
  · intro d hd
    rcases List.mem_append.1 hd with hd | hd
    · exact h.letters d hd
    · rw [List.mem_singleton.1 hd]
      exact hc

/-- A letter behind a gap makes an identifier with a blank inside. -/
theorem Scanned.exists_gapped (h : Scanned current true word blanks) (hc : Text.isBlank c = false) (s : List Char) :
    ∃ name ∈ identifiersFrom (c :: current) s, Gapped name := by
  have hblanks := h.gap_iff.1 rfl
  cases hnames : identifiers s with
  | nil => exact absurd hnames (List.splitOn_ne_nil _ _)
  | cons name names =>
    refine ⟨word ++ blanks ++ c :: name, ?_, gapped_of_append h.letters (h.begun hblanks) h.spaces hblanks hc⟩
    rw [identifiersFrom, hnames, List.modifyHead_cons, List.reverse_cons, h.reverse_eq]
    simp

end Scanned

/-- The groups that are read are the identifiers, without the blanks around them. -/
theorem groups_of_readGroups {strict : Bool} {groups groups' : List String} {current : List Char} {gap : Bool}
    {s rest : List Char} (h : readGroups strict text groups current gap s = .ok (groups', rest)) :
    groups' = groups ++ (identifiersFrom current s).map fun name => String.ofList (Text.trim name) := by
  fun_induction readGroups strict text groups current gap s
  case case1 | case6 => cases h
  case case2 hclose =>
    rw [← (Prod.mk.inj (Except.ok.inj h)).1, eq_of_beq hclose, identifiersFrom_close]
    rfl
  case case3 finished hclose hcomma ih =>
    rw [ih h, eq_of_beq hcomma, identifiersFrom_comma, identifiersFrom_nil]
    simp [finished]
  case case4 groups current gap c s hclose hcomma hblank hempty ih =>
    have hnil := List.isEmpty_iff.1 hempty
    rw [ih h, identifiersFrom_cons (by simpa using hclose) (by simpa using hcomma), hnil, identifiersFrom_nil]
    unfold identifiersFrom
    cases identifiers s with
    | nil => rfl
    | cons name names => simp [Text.trim, Text.trimLeft, hblank]
  case case5 hclose hcomma hblank hempty ih | case7 hclose hcomma hblank hgap ih =>
    rw [ih h, identifiersFrom_cons (by simpa using hclose) (by simpa using hcomma)]

/-- A strict reader of groups reads what a loose one does, if no identifier has a blank inside. -/
theorem readGroups_true_iff {groups : List String} {current word blanks : List Char} {gap : Bool}
    {s : List Char} {r : List String × List Char} (h : Scanned current gap word blanks) :
    readGroups true text groups current gap s = .ok r ↔
      readGroups false text groups current gap s = .ok r ∧
        ∀ name ∈ identifiersFrom current s, ¬Gapped name := by
  induction s generalizing groups current gap word blanks with
  | nil => simp [readGroups]
  | cons c s ih =>
    rw [readGroups, readGroups]
    by_cases hclose : (c == '>') = true
    · rw [if_pos hclose, if_pos hclose, eq_of_beq hclose, identifiersFrom_close]
      simp [h.not_gapped]
    rw [if_neg hclose, if_neg hclose]
    by_cases hcomma : (c == ',') = true
    · rw [if_pos hcomma, if_pos hcomma, eq_of_beq hcomma, ih scanned_start, identifiersFrom_comma,
        identifiersFrom_nil]
      simp [h.not_gapped]
    rw [if_neg hcomma, if_neg hcomma,
      identifiersFrom_cons (by simpa using hclose) (by simpa using hcomma)]
    cases hblank : Text.isBlank c with
    | true =>
      rw [if_pos rfl, if_pos rfl]
      cases hempty : current.isEmpty with
      | true =>
        -- a blank in front of an identifier is passed by
        obtain rfl := List.isEmpty_iff.1 hempty
        rw [if_pos rfl, if_pos rfl, ih h, identifiersFrom_nil]
        unfold identifiersFrom
        cases identifiers s with
        | nil => rfl
        | cons name names => simp [gapped_cons_iff hblank]
      | false =>
        have hnext := h.blank (List.isEmpty_eq_false_iff.1 hempty) hblank
        rw [if_neg Bool.false_ne_true, if_neg Bool.false_ne_true, ih hnext]
    | false =>
      rw [if_neg Bool.false_ne_true, if_neg Bool.false_ne_true, Bool.and_true, Bool.and_false,
        if_neg Bool.false_ne_true]
      cases gap with
      | true =>
        -- here the strict reader stops, and the identifier has a blank inside
        obtain ⟨name, hname, hgapped⟩ := h.exists_gapped hblank s
        rw [if_pos rfl]
        exact iff_of_false nofun fun ⟨_, hnone⟩ => hnone name hname hgapped
      | false => rw [if_neg Bool.false_ne_true, ih (h.letter hblank)]

/-! ## Fragments and parts -/

/-- The parts stand in the order name, arguments, groups, message. -/
def InOrder (parts : List Part) : Prop :=
  parts.Pairwise fun a b => a.rank ≤ b.rank

theorem inOrder_eq_iff {parts : List Part} : inOrder parts = parts ↔ InOrder parts := by
  unfold inOrder InOrder
  constructor
  · intro h
    rw [← h]
    refine (List.pairwise_mergeSort ?_ ?_ parts).imp fun hle => of_decide_eq_true hle
    · intro a b c hab hbc
      simp only [decide_eq_true_eq] at hab hbc ⊢
      exact Nat.le_trans hab hbc
    · intro a b
      simpa using Nat.le_total a.rank b.rank
  · exact fun h => List.mergeSort_of_pairwise (h.imp fun hle => decide_eq_true hle)

/-- A strict reader ends a fragment as a loose one does, if its parts stand in order. -/
theorem finish_true_iff {d : Draft} {f : Fragment} :
    finish true text d = .ok f ↔ finish false text d = .ok f ∧ InOrder d.seen := by
  rw [← inOrder_eq_iff]
  unfold finish
  cases d.name? with
  | none => simp
  | some name =>
    dsimp only
    by_cases hname : name.isEmpty = true
    · rw [if_pos hname, if_pos hname]
      simp
    · rw [if_neg hname, if_neg hname, Bool.true_and, Bool.false_and, if_neg Bool.false_ne_true]
      by_cases horder : inOrder d.seen = d.seen
      · rw [if_neg (by simp [horder])]
        simp [horder]
      · rw [if_pos (by simpa using Ne.symm horder)]
        simp [horder]

/-- A strict reader reads a part as a loose one does, if no identifier in it has a blank inside. -/
theorem readPart_true_iff {part : Part} {s : List Char} {d : Draft} {r : Draft × List Char} :
    readPart true text part s d = .ok r ↔ readPart false text part s d = .ok r ∧
      (part = .groups → ∀ name ∈ identifiers (s.drop 1), ¬Gapped name) := by
  rw [readPart_eq_bind, readPart_eq_bind]
  cases part with
  | name | arguments | message => simp
  | groups =>
    have hstart : Scanned [] false [] [] := ⟨rfl, by simp, by simp, by simp, by simp⟩
    have hgroups : ∀ read, readGroups true text [] [] false (s.drop 1) = .ok read ↔
        readGroups false text [] [] false (s.drop 1) = .ok read ∧
          ∀ name ∈ identifiersFrom [] (s.drop 1), ¬Gapped name := fun read => readGroups_true_iff hstart
    rw [identifiersFrom_nil] at hgroups
    dsimp only
    constructor
    · intro h
      obtain ⟨read, hread, h⟩ := bind_eq_ok h
      obtain ⟨hloose, hnone⟩ := (hgroups read).1 hread
      rw [hloose]
      exact ⟨h, fun _ => hnone⟩
    · rintro ⟨h, hnone⟩
      obtain ⟨read, hread, h⟩ := bind_eq_ok h
      rw [(hgroups read).2 ⟨hread, hnone rfl⟩]
      exact h

/-! ## Places with defects -/

/-- What a strict reader does not accept at a place: the end of a fragment whose parts stand out of order, or a
groups part with a blank inside an identifier. -/
inductive Defect : Place → Prop
  | disordered {d : Draft} {rest : List Char} : ¬InOrder d.seen → Defect ⟨some d, delimiter :: rest⟩
  | gapped {draft? : Option Draft} {s name : List Char} :
      partAt? ('<' :: s) = some .groups → name ∈ identifiers s → Gapped name → Defect ⟨draft?, '<' :: s⟩

section Defects
variable {p p' : Place}

theorem partAt?_eq_groups {s : List Char} (h : partAt? s = some .groups) : ∃ rest, s = '<' :: rest := by
  unfold partAt? at h
  split at h
  · cases h
  · exact ⟨_, rfl⟩
  · cases h
  · split at h <;> cases h
  · cases h

/-- The steps of a strict reader are those of a loose one, from places without defects. -/
theorem step_true_iff : Step true text p p' ↔ Step false text p p' ∧ ¬Defect p := by
  constructor
  · intro h
    cases h with
    | finished hfinish =>
      obtain ⟨hloose, horder⟩ := finish_true_iff.1 hfinish
      refine ⟨.finished hloose, ?_⟩
      rintro (hdefect | ⟨hpart, -, -⟩)
      exact hdefect horder
    | delimiter => exact ⟨.delimiter, nofun⟩
    | skipped hc hpart =>
      -- a defect is at the end of a fragment or in front of a part, and neither is skipped
      refine ⟨.skipped hc hpart, ?_⟩
      rintro (hdefect | ⟨hgroups, -, -⟩)
      · exact hc rfl
      · rw [hpart] at hgroups
        cases hgroups
    | part hc hpart hread =>
      obtain ⟨hloose, hnone⟩ := readPart_true_iff.1 hread
      refine ⟨.part hc hpart hloose, ?_⟩
      rintro (hdefect | ⟨hgroups, hname, hgapped⟩)
      · exact hc rfl
      · rw [hpart] at hgroups
        exact hnone (Option.some.inj hgroups) _ hname hgapped
  · rintro ⟨h, hsound⟩
    cases h with
    | @finished d f rest hfinish =>
      refine .finished (finish_true_iff.2 ⟨hfinish, ?_⟩)
      by_contra horder
      exact hsound (.disordered horder)
    | delimiter => exact .delimiter
    | skipped hc hpart => exact .skipped hc hpart
    | part hc hpart hread =>
      refine .part hc hpart (readPart_true_iff.2 ⟨hread, fun hgroups name hname hgapped => ?_⟩)
      subst hgroups
      obtain ⟨rest, hrest⟩ := partAt?_eq_groups hpart
      cases hrest
      exact hsound (.gapped hpart hname hgapped)

/-- At a place where something fails there is no step. -/
theorem Fails.not_step {strict : Bool} {e : Error} (h : Fails strict text p e) : ¬Step strict text p p' := by
  intro hstep
  cases h with
  | finish hfinish =>
    cases hstep with
    | finished hok => simp [hok] at hfinish
    | skipped hc => exact hc rfl
    | part hc => exact hc rfl
  | part hc hpart hread =>
    cases hstep with
    | finished | delimiter => exact hc rfl
    | skipped _ hnone =>
      rw [hnone] at hpart
      cases hpart
    | part _ hpart' hok =>
      rw [hpart] at hpart'
      cases hpart'
      rw [hread] at hok
      cases hok

end Defects

/-! ## Readers -/

/-- What a strict reader reads from the rest of a text, a loose one reads as well. -/
theorem readFragments_true {fuel : Nat} {draft? : Option Draft} {rest : List Char} {fs : List Fragment}
    (h : readFragments true text fuel draft? rest = .ok fs) :
    readFragments false text fuel draft? rest = .ok fs := by
  -- Both readers take the same steps: what each step reads strictly, it reads loosely.
  induction fuel generalizing draft? rest fs with
  | zero => exact h
  | succ fuel ih =>
    cases rest with
    | nil => exact h
    | cons c s =>
      by_cases hc : c = delimiter
      · subst hc
        rw [readFragments_delimiter] at h ⊢
        cases draft? with
        | none => exact ih h
        | some d =>
          obtain ⟨f, hfinish, h⟩ := bind_eq_ok h
          obtain ⟨fs', hrest, h⟩ := bind_eq_ok h
          dsimp only
          rw [(finish_true_iff.1 hfinish).1, ih hrest]
          exact h
      · rw [readFragments_cons hc] at h ⊢
        cases hpart : partAt? (c :: s) with
        | none =>
          rw [hpart] at h
          exact ih h
        | some part =>
          rw [hpart] at h
          obtain ⟨⟨d, after⟩, hread, h⟩ := bind_eq_ok h
          dsimp only
          rw [(readPart_true_iff.1 hread).1]
          exact ih h

/-- Where the loose reader does not fail, the strict one fails exactly if the loose one passes a defect. -/
theorem exists_fails_iff {p : Place}
    (hloose : ∀ p', Relation.ReflTransGen (Step false text) p p' → ∀ e, ¬Fails false text p' e) :
    (∃ p' e, Relation.ReflTransGen (Step true text) p p' ∧ Fails true text p' e) ↔
      ∃ p', Relation.ReflTransGen (Step false text) p p' ∧ Defect p' := by
  constructor
  · rintro ⟨p', e, hreach, hfails⟩
    have hreach' : Relation.ReflTransGen (Step false text) p p' :=
      Relation.ReflTransGen.mono (fun _ _ hstep => (step_true_iff.1 hstep).1) _ _ hreach
    refine ⟨p', hreach', ?_⟩
    by_contra hsound
    rcases step_or_fails false text p' with hend | ⟨p'', hstep⟩ | ⟨e', hfails'⟩
    · cases hfails <;> cases hend
    · exact hfails.not_step (step_true_iff.2 ⟨hstep, hsound⟩)
    · exact hloose p' hreach' e' hfails'
  · rintro ⟨p', hreach, hdefect⟩
    have hfails : ∀ q, Defect q → ∃ e, Fails true text q e := by
      intro q hq
      rcases step_or_fails true text q with hend | ⟨q', hstep⟩ | hfails
      · cases hq <;> cases hend
      · exact absurd hq (step_true_iff.1 hstep).2
      · exact hfails
    -- the strict reader goes along with the loose one up to the first defect
    induction hreach using Relation.ReflTransGen.head_induction_on with
    | refl =>
      obtain ⟨e, he⟩ := hfails p' hdefect
      exact ⟨p', e, .refl, he⟩
    | @head q q' hstep hrest ih =>
      by_cases hq : Defect q
      · obtain ⟨e, he⟩ := hfails q hq
        exact ⟨q, e, .refl, he⟩
      · obtain ⟨p'', e, hreach, he⟩ := ih fun r hr => hloose r (hr.head hstep)
        exact ⟨p'', e, hreach.head (step_true_iff.2 ⟨hstep, hq⟩), he⟩

/-- **Strict reading is a restriction of loose reading.** What a strict reader reads from a text, a loose one
reads as well. Where the loose reader reads the text, the strict one fails exactly if the loose one comes, on its
way through the text, to the end of a fragment whose parts stand out of order or to a groups part in which an
identifier has a blank between two other characters. -/
theorem parse_strict_iff (text? : Option String) :
    (∀ fs, parse true text? = .ok fs → parse false text? = .ok fs) ∧
    ∀ fs, parse false text? = .ok fs → ((∃ e, parse true text? = .error e) ↔
      ∃ text p, clean text? = .ok text ∧
        Relation.ReflTransGen (Step false text.toList) ⟨none, text.toList⟩ p ∧ Defect p) := by
  constructor
  · intro fs h
    rw [parse_eq_bind] at h ⊢
    obtain ⟨text, hclean, h⟩ := bind_eq_ok h
    rw [hclean]
    exact readFragments_true h
  · intro fs h
    rw [parse_eq_bind] at h
    obtain ⟨text, hclean, h⟩ := bind_eq_ok h
    have hfuel : (⟨none, text.toList⟩ : Place).rest.length < text.toList.length + 1 := Nat.lt_succ_self _
    have hloose : ∀ p', Relation.ReflTransGen (Step false text.toList) ⟨none, text.toList⟩ p' →
        ∀ e, ¬Fails false text.toList p' e := by
      intro p' hreach e hfails
      have herror := (readFragments_error_iff hfuel).2 ⟨p', hreach, hfails⟩
      have hok : readFragments false text.toList (text.toList.length + 1) none text.toList = .ok fs := h
      dsimp only at herror
      rw [hok] at herror
      cases herror
    have hstrict : ∀ e, parse true text? = .error e ↔
        ∃ p', Relation.ReflTransGen (Step true text.toList) ⟨none, text.toList⟩ p' ∧
          Fails true text.toList p' e := by
      intro e
      rw [parse_eq_bind, hclean]
      exact readFragments_error_iff hfuel
    have hiff := exists_fails_iff hloose
    constructor
    · rintro ⟨e, he⟩
      obtain ⟨p', hreach, hfails⟩ := (hstrict e).1 he
      obtain ⟨p, hp, hdefect⟩ := hiff.1 ⟨p', e, hreach, hfails⟩
      exact ⟨text, p, hclean, hp, hdefect⟩
    · rintro ⟨text', p, hclean', hp, hdefect⟩
      rw [hclean] at hclean'
      cases hclean'
      obtain ⟨p', e, hreach, hfails⟩ := hiff.2 ⟨p, hp, hdefect⟩
      exact ⟨e, (hstrict e).2 ⟨p', hreach, hfails⟩⟩

/-- A group name with a blank in it, which only the loose reader accepts. -/
theorem parse_newUser : ∃ fs, parse false (some "max(3)<new user>") = .ok fs ∧
    ∃ text p, clean (some "max(3)<new user>") = .ok text ∧
      Relation.ReflTransGen (Step false text.toList) ⟨none, text.toList⟩ p ∧ Defect p := by
  have hloose : failure? (parse false (some "max(3)<new user>")) = none := by decide +kernel
  have hstrict : failure? (parse true (some "max(3)<new user>"))
      = some (.rule (.blankInGroup "max(3)<new " "max(3)<new user>;")) := by
    decide +kernel
  obtain ⟨fs, hfs⟩ := exists_ok_of_failure? hloose
  exact ⟨fs, hfs, ((parse_strict_iff _).2 fs hfs).1 ⟨_, eq_error_of_failure? hstrict⟩⟩

end FieldRules.Rule
